-- SUMMARY: The Com configuration (signals, I-PDUs, groups), the runtime state, and the events the Com layer emits to PduR and to the application.
import Ssas.Std.Bit

/-!
# Com configuration and state

The generated configuration `Com_Cfg.c` and the type declarations of `Com_Priv.h` are not among
the sources; their shape is taken from the spec (§3) and from the fields `Com.c` reads.
Following the spec's design note (§9), a signal's buffer pointer is an I-PDU index with a byte
offset, arrays are functions from indices with their counts beside them, and an optional
callback is the flag saying it is configured.

The runtime state holds what `Com.c` writes: the group bitmap, one RX and one TX timer per
I-PDU (the `context` of its RX and TX configuration), the I-PDU buffers, and the init-value
regions, which `Com_ReceiveSignalGroup` writes through `initPtr`.
-/

namespace Ssas

/-- Modelled from the spec: the signal types of `Com_Types.h`. `COM_GROUP_SIGNAL` stands for
every type the packer has no case for. -/
inductive Com_SignalType where
  | COM_SINT8
  | COM_UINT8
  | COM_SINT16
  | COM_UINT16
  | COM_SINT32
  | COM_UINT32
  | COM_UINT8N
  | COM_GROUP_SIGNAL
  deriving DecidableEq, Repr, Inhabited

/-- Modelled from the spec: a signal's byte order. -/
inductive Com_SignalEndianness where
  | BIG
  | LITTLE
  | OPAQUE
  deriving DecidableEq, Repr, Inhabited

namespace Com_SignalType

/-- The size in bytes of the C object of a scalar type; `0` for the others. -/
def byteWidth : Com_SignalType → Nat
  | COM_SINT8 | COM_UINT8 => 1
  | COM_SINT16 | COM_UINT16 => 2
  | COM_SINT32 | COM_UINT32 => 4
  | COM_UINT8N | COM_GROUP_SIGNAL => 0

/-- The scalar types, those `comGetSignalValue` and `comStoreSignalValue` handle. -/
def isScalar (t : Com_SignalType) : Bool := t.byteWidth != 0

/-- The signed scalar types. -/
def isSigned : Com_SignalType → Bool
  | COM_SINT8 | COM_SINT16 | COM_SINT32 => true
  | _ => false

end Com_SignalType

/-- `signal->ptr`: the byte `off` of the buffer of I-PDU `pdu`. -/
structure PduPtr where
  pdu : Nat
  off : Nat
  deriving DecidableEq, Repr, Inhabited

/-- `Com_SignalConfigType`, with the fields the Com core reads. `UpdateBit = none` is
`COM_UPDATE_BIT_NOT_USED`; `initPtr` names the init-value region. -/
structure Com_SignalConfigType where
  type : Com_SignalType
  Endianness : Com_SignalEndianness
  BitPosition : Nat
  BitSize : Nat
  ptr : PduPtr
  initPtr : Nat
  UpdateBit : Option Nat
  deriving DecidableEq, Repr, Inhabited

namespace Com_SignalConfigType

variable (signal : Com_SignalConfigType)

/-- The test that sends a signal through `memcpy`: `COM_UINT8N == type || OPAQUE == Endianness`. -/
def isByteCopy : Bool := signal.type == .COM_UINT8N || signal.Endianness == .OPAQUE

/-- A signal the packer handles: a byte copy, or a scalar type in either byte order. -/
def supported : Bool := signal.isByteCopy || signal.type.isScalar

/-- The stream bit, from the base of the signal's I-PDU, of bit `pos` counted from
`signal->ptr`. -/
def bitAt (pos : Nat) : Nat := 8 * signal.ptr.off + pos

/-- The layout of a scalar field: where value bit `k` sits in the I-PDU's stream. -/
def loc : Nat → Nat :=
  match signal.Endianness with
  | .BIG => beLoc (signal.bitAt signal.BitPosition) signal.BitSize
  | _ => leLoc (signal.bitAt signal.BitPosition)

theorem loc_inj : LayoutInj signal.loc signal.BitSize := by
  unfold loc; split
  · exact beLoc_inj _ _
  · exact leLoc_inj _ _

/-- The bits of the I-PDU buffer the signal's data occupies: the bytes a byte copy covers from
`signal->ptr`, or the positions of its scalar field. -/
def inField (q : Nat) : Prop :=
  if signal.isByteCopy then 8 * signal.ptr.off ≤ q ∧ q < 8 * (signal.ptr.off + signal.BitSize / 8)
  else ∃ k < signal.BitSize, signal.loc k = q

instance (q : Nat) : Decidable (signal.inField q) :=
  inferInstanceAs (Decidable (if _ then _ else _))

/-- The stream position of the update bit, from the base of the signal's I-PDU. -/
def updatePos : Option Nat := signal.UpdateBit.map signal.bitAt

end Com_SignalConfigType

/-- `Com_IPduRxConfigType`; the callbacks are the flags saying they are configured. -/
structure Com_IPduRxConfigType where
  Timeout : Nat
  FirstTimeout : Nat
  RxNotification : Bool
  RxTOut : Bool
  deriving DecidableEq, Repr, Inhabited

/-- `Com_IPduTxConfigType`. -/
structure Com_IPduTxConfigType where
  CycleTime : Nat
  FirstTime : Nat
  TxPduId : Nat
  TxNotification : Bool
  ErrorNotification : Bool
  deriving DecidableEq, Repr, Inhabited

/-- `Com_IPduConfigType`: the buffer is `length` bytes, `signals` are indices into the signal
table. -/
structure Com_IPduConfigType where
  length : Nat
  signals : List Nat
  GroupRefMask : Nat
  rxConfig : Option Com_IPduRxConfigType
  txConfig : Option Com_IPduTxConfigType
  deriving DecidableEq, Repr, Inhabited

/-- `Com_ConfigType`. `GroupStatusWidth` is the width in bits of the unsigned type of
`GroupStatus`, declared in `Com_Priv.h`. -/
structure Com_ConfigType where
  SignalConfigs : Nat → Com_SignalConfigType
  numOfSignals : Nat
  IPduConfigs : Nat → Com_IPduConfigType
  numOfIPdus : Nat
  numOfGroups : Nat
  GroupStatusWidth : Nat

/-- What the generator promises of a configuration (spec §3): every signal an I-PDU lists is a
view into that I-PDU's buffer, every signal is listed by the I-PDU it points into, an I-PDU is
received or sent but not both, and an update bit lies inside its I-PDU. -/
structure Com_ConfigType.WellFormed (cfg : Com_ConfigType) : Prop where
  signal_ptr : ∀ i < cfg.numOfIPdus, ∀ s ∈ (cfg.IPduConfigs i).signals,
    s < cfg.numOfSignals ∧ (cfg.SignalConfigs s).ptr.pdu = i
  signal_listed : ∀ s < cfg.numOfSignals, (cfg.SignalConfigs s).ptr.pdu < cfg.numOfIPdus ∧
    s ∈ (cfg.IPduConfigs (cfg.SignalConfigs s).ptr.pdu).signals
  direction : ∀ i < cfg.numOfIPdus,
    (cfg.IPduConfigs i).rxConfig = none ∨ (cfg.IPduConfigs i).txConfig = none
  updatePos_lt : ∀ s < cfg.numOfSignals, ∀ u ∈ (cfg.SignalConfigs s).updatePos,
    u < 8 * (cfg.IPduConfigs (cfg.SignalConfigs s).ptr.pdu).length

/-- A sample configuration: I-PDU 0 is sent every 5 ticks after a first delay of 2 and is in
group 0; I-PDU 1 is received with a timeout of 3 ticks and is in group 1; each carries a
`uint8` signal in its byte 0, announced by update bit 8. -/
def sampleConfig : Com_ConfigType where
  SignalConfigs i := ⟨.COM_UINT8, .LITTLE, 0, 8, ⟨i, 0⟩, i, some 8⟩
  numOfSignals := 2
  IPduConfigs i :=
    if i = 0 then ⟨2, [0], 1, none, some ⟨5, 2, 0, true, true⟩⟩
    else ⟨2, [1], 2, some ⟨3, 0, true, true⟩, none⟩
  numOfIPdus := 2
  numOfGroups := 2
  GroupStatusWidth := 8

theorem sampleConfig_wellFormed : sampleConfig.WellFormed :=
  ⟨by decide, by decide, by decide, by decide⟩

-- ---------------------------------------------------------------------------
-- Runtime state
-- ---------------------------------------------------------------------------

/-- The state `Com.c` writes. -/
structure ComState where
  GroupStatus : Nat
  rxTimer : Nat → Nat
  txTimer : Nat → Nat
  pduData : Nat → Mem
  initData : Nat → Mem

namespace ComState

/-- The state of static storage after `Com_Init`: every bit, buffer, region and timer zero. -/
def zero : ComState := ⟨0, fun _ => 0, fun _ => 0, fun _ => Mem.zero, fun _ => Mem.zero⟩

variable (s : ComState)

/-- I-PDU `i` is operational: `GroupStatus & GroupRefMask != 0`. -/
def active (cfg : Com_ConfigType) (i : Nat) : Bool :=
  s.GroupStatus &&& (cfg.IPduConfigs i).GroupRefMask != 0

/-- The buffer of I-PDU `p` replaced. -/
def setPdu (p : Nat) (m : Mem) : ComState := { s with pduData := Function.update s.pduData p m }

/-- The RX timer of I-PDU `p` set. -/
def setRxTimer (p t : Nat) : ComState := { s with rxTimer := Function.update s.rxTimer p t }

/-- The TX timer of I-PDU `p` set. -/
def setTxTimer (p t : Nat) : ComState := { s with txTimer := Function.update s.txTimer p t }

/-- The init region `r` replaced. -/
def setInitData (r : Nat) (m : Mem) : ComState := { s with initData := Function.update s.initData r m }

@[simp] theorem setInitData_GroupStatus (r m) : (s.setInitData r m).GroupStatus = s.GroupStatus :=
  rfl
@[simp] theorem setInitData_rxTimer (r m) : (s.setInitData r m).rxTimer = s.rxTimer := rfl
@[simp] theorem setInitData_txTimer (r m) : (s.setInitData r m).txTimer = s.txTimer := rfl
@[simp] theorem setInitData_pduData (r m) : (s.setInitData r m).pduData = s.pduData := rfl

@[simp] theorem setPdu_GroupStatus (p m) : (s.setPdu p m).GroupStatus = s.GroupStatus := rfl
@[simp] theorem setPdu_rxTimer (p m) : (s.setPdu p m).rxTimer = s.rxTimer := rfl
@[simp] theorem setPdu_txTimer (p m) : (s.setPdu p m).txTimer = s.txTimer := rfl
@[simp] theorem setPdu_initData (p m) : (s.setPdu p m).initData = s.initData := rfl
@[simp] theorem setPdu_pduData (p m q) :
    (s.setPdu p m).pduData q = if q = p then m else s.pduData q := by
  simp [setPdu, Function.update_apply]

@[simp] theorem setPdu_self (p) : s.setPdu p (s.pduData p) = s := by simp [setPdu]

@[simp] theorem setRxTimer_GroupStatus (p t) : (s.setRxTimer p t).GroupStatus = s.GroupStatus :=
  rfl
@[simp] theorem setRxTimer_txTimer (p t) : (s.setRxTimer p t).txTimer = s.txTimer := rfl
@[simp] theorem setRxTimer_pduData (p t) : (s.setRxTimer p t).pduData = s.pduData := rfl
@[simp] theorem setRxTimer_initData (p t) : (s.setRxTimer p t).initData = s.initData := rfl
@[simp] theorem setRxTimer_rxTimer (p t q) :
    (s.setRxTimer p t).rxTimer q = if q = p then t else s.rxTimer q := by
  simp [setRxTimer, Function.update_apply]

@[simp] theorem setRxTimer_self (p) : s.setRxTimer p (s.rxTimer p) = s := by simp [setRxTimer]

theorem setRxTimer_eq_self {p t : Nat} (h : s.rxTimer p = t) : s.setRxTimer p t = s := h ▸ s.setRxTimer_self p

@[simp] theorem setRxTimer_setRxTimer (p t t') : (s.setRxTimer p t).setRxTimer p t' = s.setRxTimer p t' := by
  simp [setRxTimer]

@[simp] theorem setTxTimer_GroupStatus (p t) : (s.setTxTimer p t).GroupStatus = s.GroupStatus :=
  rfl
@[simp] theorem setTxTimer_rxTimer (p t) : (s.setTxTimer p t).rxTimer = s.rxTimer := rfl
@[simp] theorem setTxTimer_pduData (p t) : (s.setTxTimer p t).pduData = s.pduData := rfl
@[simp] theorem setTxTimer_initData (p t) : (s.setTxTimer p t).initData = s.initData := rfl
@[simp] theorem setTxTimer_txTimer (p t q) :
    (s.setTxTimer p t).txTimer q = if q = p then t else s.txTimer q := by
  simp [setTxTimer, Function.update_apply]

@[simp] theorem setTxTimer_self (p) : s.setTxTimer p (s.txTimer p) = s := by simp [setTxTimer]

theorem setTxTimer_eq_self {p t : Nat} (h : s.txTimer p = t) : s.setTxTimer p t = s := h ▸ s.setTxTimer_self p

@[simp] theorem setTxTimer_setTxTimer (p t t') : (s.setTxTimer p t).setTxTimer p t' = s.setTxTimer p t' := by
  simp [setTxTimer]

@[simp] theorem active_setPdu (cfg p m) : (s.setPdu p m).active cfg = s.active cfg := rfl
@[simp] theorem active_setRxTimer (cfg p t) : (s.setRxTimer p t).active cfg = s.active cfg := rfl
@[simp] theorem active_setTxTimer (cfg p t) : (s.setTxTimer p t).active cfg = s.active cfg := rfl

end ComState

/-- What the Com layer does outside its own state: a `PduR_ComTransmit` call with the I-PDU's
`TxPduId`, buffer and the result PduR gave, or an application callback of I-PDU `pdu`. -/
inductive ComEvent where
  | transmit (pdu TxPduId : Nat) (data : List (BitVec 8)) (result : Std_ReturnType)
  | rxNotification (pdu : Nat)
  | rxTimeout (pdu : Nat)
  | txNotification (pdu : Nat)
  | errorNotification (pdu : Nat)
  deriving DecidableEq, Repr

/-- Whether an event is a `PduR_ComTransmit` call. -/
def ComEvent.isTransmit : ComEvent → Bool
  | transmit .. => true
  | _ => false

/-- The I-PDU an event is about. -/
def ComEvent.pdu : ComEvent → Nat
  | transmit p .. | rxNotification p | rxTimeout p | txNotification p | errorNotification p => p

end Ssas
