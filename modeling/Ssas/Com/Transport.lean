-- SUMMARY: A signal from one Com to another: a scalar signal sent by one Com instance and carried in any frame that Com hands PduR next reads back, in a second Com instance that accepts the frame for a signal with the same codec, as the object that was sent.
import Ssas.Com.Layout
import Ssas.Com.SignalValue

/-!
# Signal transport

Two Com instances talk through frames: the sender's `Com_SendSignal` packs a signal into its
I-PDU buffer, a later call (`Com_TriggerIPDUSend` or the TX tick) hands the buffer's first
`length` bytes to `PduR_ComTransmit`, the bus delivers them to the receiver's
`Com_RxIndication` (`frameInfo`), which copies its own I-PDU's `length` bytes into its buffer,
and the receiver's `Com_ReceiveSignal` unpacks the signal.

The receiver's signal need not be the sender's configuration entry; it needs the same codec
(`SameCodec`): type, byte order, position, size, offset and update bit. For a scalar signal whose
field and update bit lie in the bytes both I-PDUs carry, the receive succeeds and stores the
object that was sent, for every object that fits the field (`signal_transport`). The read
depends only on the field's bits and the update bit (`comReceiveSignal_congr`), and the frame
carries those bits of the sender's buffer (`step_transmit_data`).
-/

namespace Ssas

open Com_SignalConfigType

/-- Two signals with the same codec: the same type, byte order, bit position, size, byte offset
and update bit. They may sit in different I-PDUs and have different init regions. -/
def Com_SignalConfigType.SameCodec (a b : Com_SignalConfigType) : Prop :=
  a.type = b.type ∧ a.Endianness = b.Endianness ∧ a.BitPosition = b.BitPosition ∧
    a.BitSize = b.BitSize ∧ a.ptr.off = b.ptr.off ∧ a.UpdateBit = b.UpdateBit

instance (a b : Com_SignalConfigType) : Decidable (a.SameCodec b) :=
  inferInstanceAs (Decidable (_ ∧ _))

/-- The `PduInfoType` a frame of bytes arrives in: its bytes and its length. -/
def frameInfo (data : List (BitVec 8)) : PduInfoType := ⟨fun k => data.getD k 0, data.length⟩

-- ---------------------------------------------------------------------------
-- What a receive reads
-- ---------------------------------------------------------------------------

section Read

/-- Signals with the same codec are read alike. -/
theorem comReceiveSignal_sameCodec {a b : Com_SignalConfigType} (h : a.SameCodec b) :
    comReceiveSignal a = comReceiveSignal b := by
  obtain ⟨_, _, _, _, ⟨_, _⟩, _, _⟩ := a
  obtain ⟨_, _, _, _, ⟨_, _⟩, _, _⟩ := b
  obtain ⟨rfl, rfl, rfl, rfl, rfl, rfl⟩ := h
  rfl

/-- The receive of a scalar signal reads the field's bits and the update bit alone. -/
theorem comReceiveSignal_congr {signal : Com_SignalConfigType} (hcopy : signal.isByteCopy = false)
    {buf buf' : Mem}
    (hf : ∀ k < signal.BitSize, Std_BitGet buf (signal.loc k) = Std_BitGet buf' (signal.loc k))
    (hU : ∀ u ∈ signal.updatePos, Std_BitGet buf u = Std_BitGet buf' u) (dst : Mem) :
    (comReceiveSignal signal buf dst).1 = (comReceiveSignal signal buf' dst).1 ∧
      (comReceiveSignal signal buf dst).2.2 = (comReceiveSignal signal buf' dst).2.2 := by
  have hdata : ∀ {m m' : Mem}, (∀ k < signal.BitSize, Std_BitGet m (signal.loc k) =
      Std_BitGet m' (signal.loc k)) → comReceiveSignalData signal m dst =
        comReceiveSignalData signal m' dst := fun h => by
    rw [comReceiveSignalData_scalar _ _ hcopy, comReceiveSignalData_scalar _ _ hcopy,
      readField_congr h]
  unfold comReceiveSignal
  cases hu : signal.UpdateBit with
  | none => simp only [hdata hf, and_self]
  | some u =>
    have hb := hU (signal.bitAt u) (by simp [updatePos, hu])
    simp only [← hb]
    split
    · have hc := @hdata (Std_BitClear buf (signal.bitAt u)) (Std_BitClear buf' (signal.bitAt u))
        fun k hk => by simp [Std_BitClear, hf k hk]
      simp only [hc, and_self]
    · exact ⟨rfl, rfl⟩

/-- A frame carries the bits of the buffer it was cut from. -/
theorem Std_BitGet_frameInfo {m : Mem} {n q : Nat} (hq : q < 8 * n) :
    Std_BitGet (frameInfo (m.take n)).SduDataPtr q = Std_BitGet m q := by
  simp [frameInfo, Std_BitGet, Mem.take, List.getD_eq_getElem?_getD, show q / 8 < n by omega]

end Read

-- ---------------------------------------------------------------------------
-- From one Com to another
-- ---------------------------------------------------------------------------

section Transport

variable {cfgS cfgR : Com_ConfigType} {jS jR : Nat}

/-- An accepted frame brings its bits within the receiving I-PDU's length. -/
theorem Com_RxIndication_bit_of_accepted {p : Nat} (hp : p < cfgR.numOfIPdus)
    {rx : Com_IPduRxConfigType} (hrx : (cfgR.IPduConfigs p).rxConfig = some rx) {s : ComState}
    (hact : s.active cfgR p) {PduInfo : PduInfoType}
    (hlen : (cfgR.IPduConfigs p).length ≤ PduInfo.SduLength) {q : Nat}
    (hq : q < 8 * (cfgR.IPduConfigs p).length) :
    Std_BitGet ((Com_RxIndication cfgR p PduInfo s).1.pduData p) q = Std_BitGet PduInfo.SduDataPtr q := by
  rw [Com_RxIndication_of_rx hp hrx, if_pos ⟨hact, hlen⟩]
  simp only [ComState.setRxTimer_pduData, ComState.setPdu_pduData, if_true, Std_BitGet]
  rw [memcpy_apply_in (by omega) (by omega)]
  simp

/-- End-to-end transport of a scalar signal: a sending Com instance sends signal `jS` from the
object `src`, and its next call hands `PduR_ComTransmit` a frame of the signal's I-PDU; a
receiving Com instance in which the I-PDU of signal `jR` is received and active accepts the
frame. If the two signals have the same codec, the signal is scalar with 1 to 32 bits and an
update bit, if any, outside its field, its field lies within the receiving I-PDU, which is no
longer than the sent one, then the receive of `jR` succeeds and stores `src`'s object, which
the destination reads back as, whenever that object fits the field. -/
theorem signal_transport (hwfS : cfgS.WellFormed) (hwfR : cfgR.WellFormed)
    (hjS : jS < cfgS.numOfSignals) (hjR : jR < cfgR.numOfSignals)
    (hcodec : (cfgR.SignalConfigs jR).SameCodec (cfgS.SignalConfigs jS))
    (hK : (cfgS.SignalConfigs jS).type.isScalar)
    (hcopy : (cfgS.SignalConfigs jS).isByteCopy = false)
    (hn1 : 1 ≤ (cfgS.SignalConfigs jS).BitSize) (hn : (cfgS.SignalConfigs jS).BitSize ≤ 32)
    (hu : ∀ u, (cfgS.SignalConfigs jS).UpdateBit = some u →
      ¬ (cfgS.SignalConfigs jS).inField ((cfgS.SignalConfigs jS).bitAt u))
    (hfield : ∀ k < (cfgS.SignalConfigs jS).BitSize, (cfgS.SignalConfigs jS).loc k <
      8 * (cfgR.IPduConfigs (cfgR.SignalConfigs jR).ptr.pdu).length)
    (hlen : (cfgR.IPduConfigs (cfgR.SignalConfigs jR).ptr.pdu).length ≤
      (cfgS.IPduConfigs (cfgS.SignalConfigs jS).ptr.pdu).length)
    (hrx : ((cfgR.IPduConfigs (cfgR.SignalConfigs jR).ptr.pdu).rxConfig).isSome)
    {sS sR : ComState} (hact : sR.active cfgR (cfgR.SignalConfigs jR).ptr.pdu) {src dst : Mem}
    (hfit : FitsField (cfgS.SignalConfigs jS).type.isSigned (cfgS.SignalConfigs jS).BitSize
      (cfgS.SignalConfigs jS).type.byteWidth (hostRead src (cfgS.SignalConfigs jS).type.byteWidth))
    {r : Std_ReturnType × ComState} (hsend : Com_SendSignal cfgS jS (some src) sS = some r)
    {op : ComOp} {r' : ComState × List ComEvent} (hstep : op.step cfgS r.2 = some r')
    {TxPduId : Nat} {data : List (BitVec 8)} {ret : Std_ReturnType}
    (hm : ComEvent.transmit (cfgS.SignalConfigs jS).ptr.pdu TxPduId data ret ∈ r'.2) :
    (Com_ReceiveSignal cfgR jR (some dst)
        (Com_RxIndication cfgR (cfgR.SignalConfigs jR).ptr.pdu (frameInfo data) sR).1).1 = .E_OK ∧
      (Com_ReceiveSignal cfgR jR (some dst)
        (Com_RxIndication cfgR (cfgR.SignalConfigs jR).ptr.pdu (frameInfo data) sR).1).2.2 =
        some (hostWrite dst (cfgS.SignalConfigs jS).type.byteWidth
          (hostRead src (cfgS.SignalConfigs jS).type.byteWidth)) ∧
      ((Com_ReceiveSignal cfgR jR (some dst)
        (Com_RxIndication cfgR (cfgR.SignalConfigs jR).ptr.pdu (frameInfo data) sR).1).2.2.map
          (hostRead · (cfgS.SignalConfigs jS).type.byteWidth)) =
        some (hostRead src (cfgS.SignalConfigs jS).type.byteWidth) := by
  obtain ⟨rx, hrx⟩ := Option.isSome_iff_exists.1 hrx
  -- the sender's buffer after the send, and the frame cut from it
  have hbuf : r.2.pduData (cfgS.SignalConfigs jS).ptr.pdu = (comSendSignal (cfgS.SignalConfigs jS)
      src (sS.pduData (cfgS.SignalConfigs jS).ptr.pdu)).2 := by
    simp only [Com_SendSignal, if_pos hjS, Option.some.injEq] at hsend
    rw [← hsend, ComState.setPdu_pduData, if_pos rfl]
  have hdata := step_transmit_data hwfS (hwfS.signal_listed jS hjS).1 hstep hm
  -- the receiver's buffer agrees with the sender's on every bit of the received I-PDU
  have hbits : ∀ q < 8 * (cfgR.IPduConfigs (cfgR.SignalConfigs jR).ptr.pdu).length,
      Std_BitGet ((Com_RxIndication cfgR (cfgR.SignalConfigs jR).ptr.pdu (frameInfo data) sR).1.pduData
        (cfgR.SignalConfigs jR).ptr.pdu) q =
        Std_BitGet (comSendSignal (cfgS.SignalConfigs jS) src
          (sS.pduData (cfgS.SignalConfigs jS).ptr.pdu)).2 q := by
    intro q hq
    rw [Com_RxIndication_bit_of_accepted (hwfR.signal_listed jR hjR).1 hrx hact
        (by simp [frameInfo, hdata, hlen]) hq, hdata, Std_BitGet_frameInfo (by omega), hbuf]
  have hread := comReceiveSignal_sameCodec hcodec
  obtain ⟨ht, he, hb, hs, ho, -⟩ := hcodec
  have hcopyR : (cfgR.SignalConfigs jR).isByteCopy = false := by
    simpa [isByteCopy, ht, he] using hcopy
  have hloc : (cfgR.SignalConfigs jR).loc = (cfgS.SignalConfigs jS).loc := by
    simp only [loc, bitAt, he, hb, hs, ho]
  obtain ⟨hU, hL⟩ := @comReceiveSignal_congr _ hcopyR _
    (comSendSignal (cfgS.SignalConfigs jS) src (sS.pduData (cfgS.SignalConfigs jS).ptr.pdu)).2
    (fun k hk => hbits _ (hloc ▸ hfield k (hs ▸ hk)))
    (fun u hu' => hbits _ (hwfR.updatePos_lt jR hjR u hu')) dst
  obtain ⟨h1, h2⟩ := comReceiveSignal_comSendSignal hK hcopy hn1 hn hu src
    (sS.pduData (cfgS.SignalConfigs jS).ptr.pdu) dst hfit
  simp only [Com_ReceiveSignal, if_pos hjR]
  rw [hread] at hU hL ⊢
  refine ⟨hU.trans h1, congrArg some (hL.trans h2), ?_⟩
  rw [hL, h2, Option.map_some', hostRead_hostWrite_hostRead]

/-- The sample configuration on both sides: signal 0 sent from `0xAB` on I-PDU 0 in `dueState`
and triggered, then read as signal 1 by an instance in which I-PDU 1 is active. -/
theorem signal_transport_sample :
    (Com_ReceiveSignal sampleConfig 1 (some Mem.zero) (Com_RxIndication sampleConfig 1
        (frameInfo [0xAB#8, 0x01#8]) ⟨2, fun _ => 0, fun _ => 0, fun _ => Mem.zero, fun _ => Mem.zero⟩).1).1 =
        .E_OK ∧
      (Com_ReceiveSignal sampleConfig 1 (some Mem.zero) (Com_RxIndication sampleConfig 1
        (frameInfo [0xAB#8, 0x01#8]) ⟨2, fun _ => 0, fun _ => 0, fun _ => Mem.zero, fun _ => Mem.zero⟩).1).2.2 =
        some (hostWrite Mem.zero 1 (hostRead (fun _ => 0xAB#8) 1)) ∧
      ((Com_ReceiveSignal sampleConfig 1 (some Mem.zero) (Com_RxIndication sampleConfig 1
        (frameInfo [0xAB#8, 0x01#8]) ⟨2, fun _ => 0, fun _ => 0, fun _ => Mem.zero, fun _ => Mem.zero⟩).1).2.2.map
          (hostRead · 1)) = some (hostRead (fun _ => 0xAB#8) 1) :=
  @signal_transport sampleConfig sampleConfig 0 1 sampleConfig_wellFormed sampleConfig_wellFormed
    (by decide) (by decide) (by decide) rfl rfl (by decide) (by decide) (by decide) (by decide)
    (by decide) rfl dueState ⟨2, fun _ => 0, fun _ => 0, fun _ => Mem.zero, fun _ => Mem.zero⟩ rfl
    (fun _ => 0xAB#8) Mem.zero (by unfold FitsField; decide) _ rfl
    (.triggerIPDUSend 0 .E_OK) _ rfl 0 [0xAB#8, 0x01#8] .E_OK (by decide)

end Transport

end Ssas
