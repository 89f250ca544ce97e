-- SUMMARY: The RAW CAN frame of the UDP simulator: socket_write encodes an identifier, a length and a payload into the 69 bytes it sends, and rx_notifiy hands every whole 69-byte datagram it reads to the bus's callback, whatever its length byte says.
import Ssas.Can.Simulator

/-!
# CAN frames on the wire

`simulator_can_v2.c` is built with `CAN_FRAME_TYPE_RAW`: a `struct can_frame` is
`CAN_MAX_DLEN + 5` bytes, the payload in bytes `0 .. 63`, the identifier big-endian in bytes
`64 .. 67` and the length code in byte `68`. `socket_write` fills the header, copies `dlc`
payload bytes and sends all `CAN_MTU` bytes on the port's write socket. The rx daemon's
`rx_notifiy` reads datagrams from a port's read socket while `TcpIp_RecvFrom` returns a whole
frame, and hands each one to the port's `rx_notification`.

A frame is its `data` array, a `Mem`; the bytes a function does not write are what its stack
held, an argument. `TcpIp_SendTo` and `TcpIp_RecvFrom` are outside the model: the first's result
is an argument and its call a `SentFrame`; the results of the second are the list of what its
successive calls return, and each callback call is an `RxNotification`.

A frame `socket_write` builds decodes to the message it was given
(`socket_write_rx_notifiy`). `rx_notifiy` tests the length of a datagram and nothing in it, so
it decodes every whole datagram, whatever it holds (`rx_notifiy_eq`).
-/

namespace Ssas

/-- `CAN_MAX_DLEN`: the payload bytes of a frame. -/
def CAN_MAX_DLEN : Nat := 64

/-- `CAN_MTU`, `sizeof(struct can_frame)`: the payload and the five header bytes. -/
def CAN_MTU : Nat := CAN_MAX_DLEN + 5

/-- `struct can_frame` of `CAN_FRAME_TYPE_RAW`: its `data` array. -/
structure can_frame where
  data : Mem

/-- The `CAN_MTU` bytes of a frame, all that a pointer to it addresses. -/
def can_frame.bytes (frame : can_frame) : List (BitVec 8) := frame.data.take CAN_MTU

/-- `mSetCANID(frame, canid)`: the identifier big-endian in bytes `64 .. 67`. -/
def mSetCANID (frame : can_frame) (canid : BitVec 32) : can_frame :=
  ⟨Function.update (Function.update (Function.update (Function.update frame.data
    (CAN_MAX_DLEN + 0) ((canid >>> 24).setWidth 8))
    (CAN_MAX_DLEN + 1) ((canid >>> 16).setWidth 8))
    (CAN_MAX_DLEN + 2) ((canid >>> 8).setWidth 8))
    (CAN_MAX_DLEN + 3) (canid.setWidth 8)⟩

/-- `mCANID(frame)`: bytes `64 .. 67` read back as a `uint32_t`, the first the most
significant. -/
def mCANID (frame : can_frame) : BitVec 32 :=
  ((frame.data (CAN_MAX_DLEN + 0)).setWidth 32 <<< 24) +
    ((frame.data (CAN_MAX_DLEN + 1)).setWidth 32 <<< 16) +
    ((frame.data (CAN_MAX_DLEN + 2)).setWidth 32 <<< 8) + (frame.data (CAN_MAX_DLEN + 3)).setWidth 32

/-- `mSetCANDLC(frame, dlc)`. -/
def mSetCANDLC (frame : can_frame) (dlc : BitVec 8) : can_frame :=
  ⟨Function.update frame.data (CAN_MAX_DLEN + 4) dlc⟩

/-- `mCANDLC(frame)`. -/
def mCANDLC (frame : can_frame) : BitVec 8 := frame.data (CAN_MAX_DLEN + 4)

/-- A `TcpIp_SendTo` call: the socket and the bytes. -/
structure SentFrame where
  sock : Int
  bytes : List (BitVec 8)
  deriving DecidableEq, Repr

/-- The frame `socket_write` sends: the header set, then `dlc` payload bytes copied in, over
what the stack held in `frame`. -/
def buildFrame (frame : can_frame) (canid : BitVec 32) (dlc : BitVec 8) (data : Mem) : can_frame :=
  ⟨memcpy (mSetCANDLC (mSetCANID frame canid) dlc).data 0 data 0 dlc.toNat⟩

/-- `socket_write(port, canid, dlc, data)`: the return value and the `TcpIp_SendTo` call, which
returns `ret`; `none` where `assert(dlc <= CAN_MAX_DLEN)` aborts. -/
def socket_write (S : Can_socketHandleList) (port : Nat) (canid : BitVec 32) (dlc : BitVec 8)
    (data : Mem) (frame : can_frame) (ret : Std_ReturnType) : Option (Bool × Option SentFrame) :=
  match getHandle S port with
  | some handle =>
    if dlc.toNat ≤ CAN_MAX_DLEN then
      some (decide (ret = .E_OK), some ⟨handle.sockWt, (buildFrame frame canid dlc data).bytes⟩)
    else none
  | none => some (false, none)

/-- What one `TcpIp_RecvFrom` call returns: its result, and the bytes it wrote into the frame,
whose count it writes to `len`. -/
structure RecvFromResult where
  ret : Std_ReturnType
  datagram : List (BitVec 8)
  deriving DecidableEq, Repr

/-- A call `rx_notification(busid, canid, dlc, data)` of the callback at address
`rx_notification`; `data` is the frame's bytes. -/
structure RxNotification where
  rx_notification : Nat
  busid : Nat
  canid : BitVec 32
  dlc : BitVec 8
  data : List (BitVec 8)
  deriving DecidableEq, Repr

/-- A list of bytes as a region. -/
def Mem.ofList (l : List (BitVec 8)) : Mem := fun k => l.getD k 0

/-- The frame after `TcpIp_RecvFrom` wrote `datagram` into it. -/
def recvInto (frame : can_frame) (datagram : List (BitVec 8)) : can_frame :=
  ⟨memcpy frame.data 0 (Mem.ofList datagram) 0 datagram.length⟩

/-- `rx_notifiy(handle)`, where the successive `TcpIp_RecvFrom` calls return `rs` and a call
past the list returns `E_NOT_OK`: the callback calls, one per datagram read while the reads
return whole frames. -/
def rx_notifiy (handle : Can_socketHandle) (frame : can_frame) :
    List RecvFromResult → List RxNotification
  | [] => []
  | r :: rs =>
    let frame := recvInto frame r.datagram
    if r.ret = .E_OK ∧ r.datagram.length = CAN_MTU then
      ⟨handle.rx_notification, handle.busid, mCANID frame, mCANDLC frame, frame.bytes⟩ ::
        rx_notifiy handle frame rs
    else []

-- ---------------------------------------------------------------------------
-- The header
-- ---------------------------------------------------------------------------

/-- A `uint32_t` is the sum of its four bytes, the most significant first, shifted into
place. -/
theorem setWidth_bytes_shiftLeft (w : BitVec 32) :
    ((w >>> 24).setWidth 8).setWidth 32 <<< 24 + ((w >>> 16).setWidth 8).setWidth 32 <<< 16 +
      ((w >>> 8).setWidth 8).setWidth 32 <<< 8 + (w.setWidth 8).setWidth 32 = w := by
  apply BitVec.eq_of_toNat_eq
  simp only [BitVec.toNat_add, BitVec.toNat_shiftLeft, BitVec.toNat_setWidth,
    BitVec.toNat_ushiftRight, Nat.shiftLeft_eq, Nat.shiftRight_eq_div_pow]
  have := w.isLt
  omega

@[simp] theorem mCANID_mSetCANID (frame : can_frame) (canid : BitVec 32) :
    mCANID (mSetCANID frame canid) = canid := by
  simp only [mCANID, mSetCANID, Function.update_apply, CAN_MAX_DLEN]
  exact setWidth_bytes_shiftLeft canid

@[simp] theorem mCANDLC_mSetCANDLC (frame : can_frame) (dlc : BitVec 8) :
    mCANDLC (mSetCANDLC frame dlc) = dlc := by
  simp [mCANDLC, mSetCANDLC]

@[simp] theorem mCANID_mSetCANDLC (frame : can_frame) (dlc : BitVec 8) :
    mCANID (mSetCANDLC frame dlc) = mCANID frame := by
  simp [mCANID, mSetCANDLC, Function.update_apply, CAN_MAX_DLEN]

/-- The header decodes from bytes `64 .. 68` alone. -/
theorem header_congr {f g : can_frame} (h : ∀ k, CAN_MAX_DLEN ≤ k → k < CAN_MTU → f.data k = g.data k) :
    mCANID f = mCANID g ∧ mCANDLC f = mCANDLC g := by
  have h' : ∀ i < 5, f.data (CAN_MAX_DLEN + i) = g.data (CAN_MAX_DLEN + i) := fun i hi =>
    h _ (Nat.le_add_right _ _) (by simp only [CAN_MTU]; omega)
  simp only [mCANID, mCANDLC, h' 0 (by omega), h' 1 (by omega), h' 2 (by omega), h' 3 (by omega),
    h' 4 (by omega), and_self]

-- ---------------------------------------------------------------------------
-- Sending
-- ---------------------------------------------------------------------------

section Send

variable {frame : can_frame} {canid : BitVec 32} {dlc : BitVec 8} {data : Mem}

/-- The payload copy of at most `CAN_MAX_DLEN` bytes leaves the header as `mSetCANID` and
`mSetCANDLC` wrote it. -/
theorem buildFrame_header (hdlc : dlc.toNat ≤ CAN_MAX_DLEN) {k : Nat} (hk : CAN_MAX_DLEN ≤ k) :
    (buildFrame frame canid dlc data).data k = (mSetCANDLC (mSetCANID frame canid) dlc).data k :=
  memcpy_apply_out (by omega)

theorem buildFrame_payload {k : Nat} (hk : k < dlc.toNat) :
    (buildFrame frame canid dlc data).data k = data k := by
  dsimp only [buildFrame]
  rw [memcpy_apply_in (Nat.zero_le k) (by omega), Nat.zero_add, Nat.sub_zero]

/-- The frame `socket_write` builds decodes to its identifier and its length. -/
theorem header_buildFrame (hdlc : dlc.toNat ≤ CAN_MAX_DLEN) :
    mCANID (buildFrame frame canid dlc data) = canid ∧ mCANDLC (buildFrame frame canid dlc data) = dlc := by
  obtain ⟨hid, hdl⟩ := header_congr fun k hk _ => @buildFrame_header frame canid dlc data hdlc k hk
  simp [hid, hdl]

end Send

-- ---------------------------------------------------------------------------
-- Receiving
-- ---------------------------------------------------------------------------

/-- The callback call `rx_notifiy` makes for a frame. -/
def notification (handle : Can_socketHandle) (frame : can_frame) : RxNotification :=
  ⟨handle.rx_notification, handle.busid, mCANID frame, mCANDLC frame, frame.bytes⟩

/-- A read `rx_notifiy` passes on: `E_OK` and a whole frame. -/
def RecvFromResult.accepted (r : RecvFromResult) : Bool :=
  decide (r.ret = .E_OK ∧ r.datagram.length = CAN_MTU)

theorem notification_congr (handle : Can_socketHandle) {f g : can_frame}
    (h : ∀ k < CAN_MTU, f.data k = g.data k) : notification handle f = notification handle g := by
  obtain ⟨hid, hdl⟩ := header_congr fun k _ hk => h k hk
  have hb : f.bytes = g.bytes := List.map_congr_left fun k hk => h k (List.mem_range.1 hk)
  simp only [notification, hid, hdl, hb]

theorem ofList_bytes_apply (frame : can_frame) {k : Nat} (hk : k < CAN_MTU) :
    Mem.ofList frame.bytes k = frame.data k := by
  simp [Mem.ofList, can_frame.bytes, Mem.take, hk]

/-- A whole frame written by `TcpIp_RecvFrom` replaces every byte of the frame. -/
theorem recvInto_apply {datagram : List (BitVec 8)} (h : datagram.length = CAN_MTU)
    (frame : can_frame) {k : Nat} (hk : k < CAN_MTU) :
    (recvInto frame datagram).data k = (Mem.ofList datagram) k := by
  dsimp only [recvInto]
  rw [memcpy_apply_in (Nat.zero_le k) (by omega), Nat.zero_add, Nat.sub_zero]

@[simp] theorem length_bytes (frame : can_frame) : frame.bytes.length = CAN_MTU := by
  simp [can_frame.bytes]

theorem bytes_ofList {datagram : List (BitVec 8)} (h : datagram.length = CAN_MTU) :
    can_frame.bytes ⟨Mem.ofList datagram⟩ = datagram := by
  apply List.ext_getElem (by simp [can_frame.bytes, h])
  intro k _ hk
  simp [can_frame.bytes, Mem.take, Mem.ofList, List.getElem?_eq_getElem hk]

/-- `rx_notifiy` hands the callback the decoding of every datagram up to the first read that is
not a whole frame, whatever the datagram holds and whatever the frame held before. -/
theorem rx_notifiy_eq (handle : Can_socketHandle) (frame : can_frame) (rs : List RecvFromResult) :
    rx_notifiy handle frame rs =
      (rs.takeWhile (·.accepted)).map fun r => notification handle ⟨Mem.ofList r.datagram⟩ := by
  induction rs generalizing frame with
  | nil => rfl
  | cons r rs ih =>
    by_cases ha : r.ret = .E_OK ∧ r.datagram.length = CAN_MTU
    · have hacc : r.accepted = true := decide_eq_true ha
      simp only [rx_notifiy, if_pos ha, ih, List.takeWhile_cons, hacc, if_true, List.map_cons]
      exact congrArg (· :: _) (notification_congr handle fun k hk => recvInto_apply ha.2 frame hk)
    · have hacc : r.accepted = false := decide_eq_false ha
      simp only [rx_notifiy, if_neg ha, List.takeWhile_cons, hacc, Bool.false_eq_true, if_false,
        List.map_nil]

theorem rx_notifiy_cons_of_accepted (handle : Can_socketHandle) (frame : can_frame)
    {r : RecvFromResult} (h : r.accepted) (rs : List RecvFromResult) :
    rx_notifiy handle frame (r :: rs) =
      notification handle ⟨Mem.ofList r.datagram⟩ :: rx_notifiy handle frame rs := by
  simp only [rx_notifiy_eq, List.takeWhile_cons, h, if_true, List.map_cons]

-- ---------------------------------------------------------------------------
-- From socket_write to rx_notifiy
-- ---------------------------------------------------------------------------

/-- A frame `socket_write` sends on an on-line port is the message it was given: `rx_notifiy`
on any port decodes it to the same identifier, length and payload, and the payload copy leaves
the header bytes as `mSetCANID` and `mSetCANDLC` wrote them. -/
theorem socket_write_rx_notifiy {S : Can_socketHandleList} {port : Nat} {handle : Can_socketHandle}
    (hport : getHandle S port = some handle) {dlc : BitVec 8} (hdlc : dlc.toNat ≤ CAN_MAX_DLEN)
    (canid : BitVec 32) (data : Mem) (frame : can_frame) (ret : Std_ReturnType)
    (rxHandle : Can_socketHandle) (rxFrame : can_frame) (rs : List RecvFromResult) :
    ∃ bytes, socket_write S port canid dlc data frame ret =
        some (decide (ret = .E_OK), some ⟨handle.sockWt, bytes⟩) ∧ bytes.length = CAN_MTU ∧
      (∀ k < dlc.toNat, bytes.getD k 0 = data k) ∧
      (∀ k, CAN_MAX_DLEN ≤ k → k < CAN_MTU →
        bytes.getD k 0 = (mSetCANDLC (mSetCANID frame canid) dlc).data k) ∧
      rx_notifiy rxHandle rxFrame (⟨.E_OK, bytes⟩ :: rs) =
        ⟨rxHandle.rx_notification, rxHandle.busid, canid, dlc, bytes⟩ :: rx_notifiy rxHandle rxFrame rs := by
  let f := buildFrame frame canid dlc data
  have hlen : CAN_MAX_DLEN < CAN_MTU := by decide
  refine ⟨f.bytes, by simp only [socket_write, hport, if_pos hdlc], length_bytes f,
    fun k hk => ?_, fun k hk hk' => ?_, ?_⟩
  · exact (ofList_bytes_apply f (by omega)).trans (buildFrame_payload hk)
  · exact (ofList_bytes_apply f hk').trans (buildFrame_header hdlc hk)
  · rw [rx_notifiy_cons_of_accepted _ _ (decide_eq_true ⟨rfl, length_bytes f⟩),
      notification_congr rxHandle fun k hk => ofList_bytes_apply f hk]
    simp only [notification, f, header_buildFrame hdlc]

/-- The sample on-line port: bus 0 on port 0, callback at address 7, sockets 3 and 4. -/
def sampleSocketH : Can_socketHandleList := ⟨true, false, [⟨0, 0, 7, 3, 4⟩]⟩

theorem socket_write_rx_notifiy_sample :
    getHandle sampleSocketH 0 = some ⟨0, 0, 7, 3, 4⟩ ∧ (8#8).toNat ≤ CAN_MAX_DLEN ∧
    ∃ bytes, socket_write sampleSocketH 0 0x123#32 8#8 Mem.zero ⟨Mem.zero⟩ .E_OK =
        some (decide (Std_ReturnType.E_OK = .E_OK), some ⟨4, bytes⟩) ∧ bytes.length = CAN_MTU ∧
      (∀ k < (8#8).toNat, bytes.getD k 0 = Mem.zero k) ∧
      (∀ k, CAN_MAX_DLEN ≤ k → k < CAN_MTU →
        bytes.getD k 0 = (mSetCANDLC (mSetCANID ⟨Mem.zero⟩ 0x123#32) 8#8).data k) ∧
      rx_notifiy ⟨0, 0, 7, 3, 4⟩ ⟨Mem.zero⟩ (⟨.E_OK, bytes⟩ :: []) =
        ⟨7, 0, 0x123#32, 8#8, bytes⟩ :: rx_notifiy ⟨0, 0, 7, 3, 4⟩ ⟨Mem.zero⟩ [] :=
  ⟨rfl, by decide, @socket_write_rx_notifiy sampleSocketH 0 ⟨0, 0, 7, 3, 4⟩ rfl 8#8 (by decide)
    _ _ _ _ _ _ _⟩

/-- A whole frame whose length byte is `0xFF`, every other byte zero. -/
def badDlcDatagram : List (BitVec 8) := List.replicate CAN_MAX_DLEN 0 ++ [0, 0, 0, 0, 0xFF]

/-- `rx_notifiy` hands the callback a length of `0xFF`, past the `CAN_MAX_DLEN` bytes of
payload, for a whole datagram whose length byte says so, on every port. -/
theorem rx_notifiy_passes_bad_dlc (handle : Can_socketHandle) (frame : can_frame) :
    rx_notifiy handle frame [⟨.E_OK, badDlcDatagram⟩] =
        [⟨handle.rx_notification, handle.busid, 0#32, 0xFF#8, badDlcDatagram⟩] ∧
      CAN_MAX_DLEN < (0xFF#8).toNat := by
  have hid : mCANID ⟨Mem.ofList badDlcDatagram⟩ = 0#32 := by decide
  have hdl : mCANDLC ⟨Mem.ofList badDlcDatagram⟩ = 0xFF#8 := by decide
  refine ⟨?_, by decide⟩
  rw [rx_notifiy_cons_of_accepted _ _ (by decide)]
  simp only [notification, hid, hdl, bytes_ofList (show badDlcDatagram.length = CAN_MTU by decide),
    rx_notifiy]

end Ssas
