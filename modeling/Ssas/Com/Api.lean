-- SUMMARY: The signal API of Com.c: Com_SendSignal, Com_ReceiveSignal and the group-signal copies, with what their refusals write.
import Ssas.Com.Signal

/-!
# Signal API

`Com_SendSignal` and `Com_ReceiveSignal` check the signal id, `Com_ReceiveSignal` also its
destination pointer, and hand the signal's I-PDU buffer to the packer. A pointer is an
`Option Mem`, `none` for `NULL`. `Com_SendSignal` does not test its source: the packer reads
through it for every signal it handles, which is undefined behaviour on a null pointer and is
`none` here.

`Com_SendSignalGroup` and `Com_ReceiveSignalGroup` copy a `COM_UINT8N` signal's bytes between
its place in the I-PDU buffer and its init region, which serves as the group's shadow buffer.

The refusal law: a send is refused exactly for a bad id or an unsupported signal and then
writes no data; a receive is refused exactly for a bad id, a null destination, a clear
update bit or an unsupported signal, and then writes nothing except that the update bit an
unsupported signal passed through is consumed, since the gate runs before the type is looked
at.

A `COM_UINT8N` or `OPAQUE` signal is copied to and from the bytes at `signal->ptr`, whatever its
`BitPosition`, where the codec of a scalar signal starts `BitPosition` bits further on.
-/

namespace Ssas

open Com_SignalConfigType

/-- `Com_SendSignal(SignalId, SignalDataPtr)`. For a supported signal a null source is read,
`none`; an unsupported one never reads it. -/
def Com_SendSignal (cfg : Com_ConfigType) (SignalId : Nat) (SignalDataPtr : Option Mem)
    (s : ComState) : Option (Std_ReturnType × ComState) :=
  if SignalId < cfg.numOfSignals then
    let signal := cfg.SignalConfigs SignalId
    let send (src : Mem) :=
      let r := comSendSignal signal src (s.pduData signal.ptr.pdu)
      (r.1, s.setPdu signal.ptr.pdu r.2)
    match SignalDataPtr with
    | some src => some (send src)
    | none => if signal.supported then none else some (send Mem.zero)
  else some (.E_NOT_OK, s)

/-- `Com_ReceiveSignal(SignalId, SignalDataPtr)`: the return code, the state and the
destination. -/
def Com_ReceiveSignal (cfg : Com_ConfigType) (SignalId : Nat) (SignalDataPtr : Option Mem)
    (s : ComState) : Std_ReturnType × ComState × Option Mem :=
  match SignalDataPtr with
  | some dst =>
    if SignalId < cfg.numOfSignals then
      let signal := cfg.SignalConfigs SignalId
      let r := comReceiveSignal signal (s.pduData signal.ptr.pdu) dst
      (r.1, s.setPdu signal.ptr.pdu r.2.1, some r.2.2)
    else (.E_NOT_OK, s, some dst)
  | none => (.E_NOT_OK, s, none)

/-- `Com_SendSignalGroup(SignalGroupId)`: the shadow buffer into the I-PDU. -/
def Com_SendSignalGroup (cfg : Com_ConfigType) (SignalGroupId : Nat) (s : ComState) :
    Std_ReturnType × ComState :=
  if SignalGroupId < cfg.numOfSignals then
    let signal := cfg.SignalConfigs SignalGroupId
    if signal.type = .COM_UINT8N then
      (.E_OK, s.setPdu signal.ptr.pdu (memcpy (s.pduData signal.ptr.pdu) signal.ptr.off
        (s.initData signal.initPtr) 0 (signal.BitSize / 8)))
    else (.E_NOT_OK, s)
  else (.E_NOT_OK, s)

/-- `Com_ReceiveSignalGroup(SignalGroupId)`: the I-PDU into the shadow buffer. -/
def Com_ReceiveSignalGroup (cfg : Com_ConfigType) (SignalGroupId : Nat) (s : ComState) :
    Std_ReturnType × ComState :=
  if SignalGroupId < cfg.numOfSignals then
    let signal := cfg.SignalConfigs SignalGroupId
    if signal.type = .COM_UINT8N then
      (.E_OK, s.setInitData signal.initPtr (memcpy (s.initData signal.initPtr) 0
        (s.pduData signal.ptr.pdu) signal.ptr.off (signal.BitSize / 8)))
    else (.E_NOT_OK, s)
  else (.E_NOT_OK, s)

-- ---------------------------------------------------------------------------
-- What the calls write
-- ---------------------------------------------------------------------------

/-- A send writes one I-PDU buffer and nothing else. -/
theorem Com_SendSignal_state {cfg : Com_ConfigType} {SignalId : Nat} {src : Option Mem}
    {s : ComState} {r : Std_ReturnType × ComState} (h : Com_SendSignal cfg SignalId src s = some r) :
    ∃ q m, r.2 = s.setPdu q m := by
  simp only [Com_SendSignal] at h
  split at h
  · split at h
    · cases h; exact ⟨_, _, rfl⟩
    · split at h
      · cases h
      · cases h; exact ⟨_, _, rfl⟩
  · cases h; exact ⟨0, _, (s.setPdu_self 0).symm⟩

/-- A receive writes one I-PDU buffer, its update bit, and nothing else of the state. -/
theorem Com_ReceiveSignal_state (cfg : Com_ConfigType) (SignalId : Nat) (dst : Option Mem)
    (s : ComState) : ∃ q m, (Com_ReceiveSignal cfg SignalId dst s).2.1 = s.setPdu q m := by
  unfold Com_ReceiveSignal
  split
  · split
    · exact ⟨_, _, rfl⟩
    · exact ⟨0, _, (s.setPdu_self 0).symm⟩
  · exact ⟨0, _, (s.setPdu_self 0).symm⟩

theorem Com_SendSignalGroup_state (cfg : Com_ConfigType) (SignalGroupId : Nat) (s : ComState) :
    ∃ q m, (Com_SendSignalGroup cfg SignalGroupId s).2 = s.setPdu q m := by
  simp only [Com_SendSignalGroup]
  split
  · split
    · exact ⟨_, _, rfl⟩
    · exact ⟨0, _, (s.setPdu_self 0).symm⟩
  · exact ⟨0, _, (s.setPdu_self 0).symm⟩

theorem Com_ReceiveSignalGroup_state (cfg : Com_ConfigType) (SignalGroupId : Nat) (s : ComState) :
    ∃ q m, (Com_ReceiveSignalGroup cfg SignalGroupId s).2 = s.setInitData q m := by
  simp only [Com_ReceiveSignalGroup]
  split
  · split
    · exact ⟨_, _, rfl⟩
    · exact ⟨0, s.initData 0, by simp [ComState.setInitData]⟩
  · exact ⟨0, s.initData 0, by simp [ComState.setInitData]⟩

-- ---------------------------------------------------------------------------
-- Refusals
-- ---------------------------------------------------------------------------

/-- Bit `q` of I-PDU `p`'s buffer is the update bit of signal `SignalId`. -/
def IsUpdateBit (cfg : Com_ConfigType) (SignalId p q : Nat) : Prop :=
  SignalId < cfg.numOfSignals ∧ (cfg.SignalConfigs SignalId).ptr.pdu = p ∧
    (cfg.SignalConfigs SignalId).updatePos = some q

instance (cfg : Com_ConfigType) (SignalId p q : Nat) : Decidable (IsUpdateBit cfg SignalId p q) :=
  inferInstanceAs (Decidable (_ ∧ _))

/-- The refusal law of a send from a non-null source: it returns, it is refused exactly for a
bad id or an unsupported signal, and a refused send changes no bit of any buffer but the
signal's update bit. -/
def SendRefusalLaw (cfg : Com_ConfigType) (s : ComState) (SignalId : Nat) (src : Mem) : Prop :=
  ∃ ret s', Com_SendSignal cfg SignalId (some src) s = some (ret, s') ∧
    (ret = .E_NOT_OK ↔
      cfg.numOfSignals ≤ SignalId ∨ (cfg.SignalConfigs SignalId).supported = false) ∧
    (ret = .E_NOT_OK → ∀ p q, ¬ IsUpdateBit cfg SignalId p q →
      Std_BitGet (s'.pduData p) q = Std_BitGet (s.pduData p) q)

theorem Com_SendSignal_refusal (cfg : Com_ConfigType) (s : ComState) (SignalId : Nat) (src : Mem) :
    SendRefusalLaw cfg s SignalId src := by
  by_cases hid : SignalId < cfg.numOfSignals
  · refine ⟨_, _, by rw [Com_SendSignal, if_pos hid], ?_, ?_⟩
    · rw [comSendSignal_fst]
      cases (cfg.SignalConfigs SignalId).supported <;> simp [hid]
    · intro hret p q hq
      have hsup : (cfg.SignalConfigs SignalId).supported = false := by
        rw [comSendSignal_fst] at hret
        cases h : (cfg.SignalConfigs SignalId).supported <;> simp_all
      by_cases hp : p = (cfg.SignalConfigs SignalId).ptr.pdu
      · subst hp
        rw [ComState.setPdu_pduData, if_pos rfl, Std_BitGet_comSendSignal fun h => hq ⟨hid, rfl, h⟩,
          comSendSignalData_unsupported hsup]
      · simp [hp]
  · exact ⟨_, _, by rw [Com_SendSignal, if_neg hid], by simp [Nat.not_lt.1 hid],
      fun _ _ _ _ => rfl⟩

/-- The refusal law of a receive: it is refused exactly for a bad id, a null destination, a
configured update bit that is clear, or an unsupported signal. A refused receive leaves the
destination alone, and the state too, except that an unsupported signal whose update bit was
set has it cleared. -/
def ReceiveRefusalLaw (cfg : Com_ConfigType) (s : ComState) (SignalId : Nat) (dst : Option Mem) :
    Prop :=
  let signal := cfg.SignalConfigs SignalId
  let buf := s.pduData signal.ptr.pdu
  let r := Com_ReceiveSignal cfg SignalId dst s
  (r.1 = .E_NOT_OK ↔ cfg.numOfSignals ≤ SignalId ∨ dst = none ∨
    (∃ u, signal.UpdateBit = some u ∧ Std_BitGet buf (signal.bitAt u) = false) ∨
    signal.supported = false) ∧
  (r.1 = .E_NOT_OK → r.2.2 = dst ∧
    (r.2.1 = s ∨ signal.supported = false ∧ ∃ u, signal.UpdateBit = some u ∧
      Std_BitGet buf (signal.bitAt u) = true ∧
      r.2.1 = s.setPdu signal.ptr.pdu (Std_BitClear buf (signal.bitAt u))))

theorem Com_ReceiveSignal_refusal (cfg : Com_ConfigType) (s : ComState) (SignalId : Nat)
    (dst : Option Mem) : ReceiveRefusalLaw cfg s SignalId dst := by
  unfold ReceiveRefusalLaw
  cases dst with
  | none => simp [Com_ReceiveSignal]
  | some d =>
    by_cases hid : SignalId < cfg.numOfSignals
    · simp only [Com_ReceiveSignal, if_pos hid, comReceiveSignal, Nat.not_le.2 hid, false_or]
      generalize cfg.SignalConfigs SignalId = signal
      cases hU : signal.UpdateBit with
      | none =>
        cases hsup : signal.supported <;>
          simp [hsup, comReceiveSignalData_fst, comReceiveSignalData_unsupported]
      | some u =>
        cases hb : Std_BitGet (s.pduData signal.ptr.pdu) (signal.bitAt u) <;>
          cases hsup : signal.supported <;>
          simp [hsup, hb, comReceiveSignalData_fst, comReceiveSignalData_unsupported]
    · simp [Com_ReceiveSignal, hid, Nat.not_lt.1 hid]

/-- The refusal law of the signal API, in every state. -/
theorem Com_SendSignal_Com_ReceiveSignal_refusal (cfg : Com_ConfigType) (s : ComState)
    (SignalId : Nat) (src : Mem) (dst : Option Mem) :
    SendRefusalLaw cfg s SignalId src ∧ ReceiveRefusalLaw cfg s SignalId dst :=
  ⟨Com_SendSignal_refusal cfg s SignalId src, Com_ReceiveSignal_refusal cfg s SignalId dst⟩

/-- Two signals of I-PDU 0 announced by update bit 8: signal 0 of a type the packer has no case
for, signal 1 a `uint8`. -/
def sharedUpdateBitCfg : Com_ConfigType where
  SignalConfigs i := ⟨if i = 0 then .COM_GROUP_SIGNAL else .COM_UINT8, .LITTLE, 0, 8, ⟨0, 0⟩, 0,
    some 8⟩
  numOfSignals := 2
  IPduConfigs _ := ⟨2, [0, 1], 1, some ⟨0, 0, false, false⟩, none⟩
  numOfIPdus := 1
  numOfGroups := 1
  GroupStatusWidth := 32

/-- A refused receive that writes: after signal 1 is sent, a receive of signal 0 is refused
for its type but consumes the update bit both share. -/
theorem Com_ReceiveSignal_unsupported_consumes_updateBit :
    ∃ s, Com_SendSignal sharedUpdateBitCfg 1 (some Mem.zero) ComState.zero = some (.E_OK, s) ∧
      (Com_ReceiveSignal sharedUpdateBitCfg 0 (some Mem.zero) s).1 = .E_NOT_OK ∧
      Std_BitGet (s.pduData 0) 8 = true ∧
      Std_BitGet ((Com_ReceiveSignal sharedUpdateBitCfg 0 (some Mem.zero) s).2.1.pduData 0) 8 =
        false :=
  ⟨_, rfl, by decide, by decide, by decide⟩

-- ---------------------------------------------------------------------------
-- Where a byte copy lands
-- ---------------------------------------------------------------------------

/-- A signal of type `t`, one byte long at `BitPosition` 8, with `signal->ptr` at the base of
I-PDU 0's buffer and no update bit. -/
def bitPosition8Signal (t : Com_SignalType) : Com_SignalConfigType :=
  ⟨t, .LITTLE, 8, 8, ⟨0, 0⟩, 0, none⟩

/-- I-PDU 0 of two bytes carrying the signal `bitPosition8Signal t`. -/
def bitPosition8Cfg (t : Com_SignalType) : Com_ConfigType where
  SignalConfigs _ := bitPosition8Signal t
  numOfSignals := 1
  IPduConfigs _ := ⟨2, [0], 1, none, some ⟨5, 0, 0, false, false⟩⟩
  numOfIPdus := 1
  numOfGroups := 1
  GroupStatusWidth := 8

/-- A `COM_UINT8N` or `OPAQUE` signal whose update bit lies outside its bytes goes to and from
the `BitSize / 8` bytes at `signal->ptr`, whatever its `BitPosition`: a send copies the source
there and changes no other bit of any buffer but the update bit, and a receive that follows
succeeds and copies those bytes out. -/
theorem Com_SendSignal_Com_ReceiveSignal_byteCopy {cfg : Com_ConfigType} {SignalId : Nat}
    {signal : Com_SignalConfigType} (hid : SignalId < cfg.numOfSignals)
    (hsig : cfg.SignalConfigs SignalId = signal) (hc : signal.isByteCopy)
    (hu : ∀ q ∈ signal.updatePos, ¬ signal.inField q) (src dst : Mem) (s : ComState) :
    ∃ s', Com_SendSignal cfg SignalId (some src) s = some (.E_OK, s') ∧
      (∀ k < signal.BitSize / 8, s'.pduData signal.ptr.pdu (signal.ptr.off + k) = src k) ∧
      (∀ p q, ¬ (p = signal.ptr.pdu ∧ WritesBit signal q) →
        Std_BitGet (s'.pduData p) q = Std_BitGet (s.pduData p) q) ∧
      (Com_ReceiveSignal cfg SignalId (some dst) s').1 = .E_OK ∧
      (Com_ReceiveSignal cfg SignalId (some dst) s').2.2 =
        some (memcpy dst 0 src 0 (signal.BitSize / 8)) := by
  subst hsig
  let buf :=
    (comSendSignal (cfg.SignalConfigs SignalId) src (s.pduData (cfg.SignalConfigs SignalId).ptr.pdu)).2
  have hsup : (cfg.SignalConfigs SignalId).supported := by simp [supported, hc]
  have hbytes : ∀ k < (cfg.SignalConfigs SignalId).BitSize / 8,
      buf ((cfg.SignalConfigs SignalId).ptr.off + k) = src k := fun k hk =>
    comSendSignal_byteCopy_apply hc hu _ _ hk
  obtain ⟨hret, hcopy⟩ := @comReceiveSignal_byteCopy _ hc hu buf
    (fun q hq => Std_BitGet_comSendSignal_updatePos hq src _) dst
  refine ⟨s.setPdu (cfg.SignalConfigs SignalId).ptr.pdu buf, ?_, fun k hk => ?_, fun p q hpq => ?_,
    ?_, ?_⟩
  · simp only [Com_SendSignal, if_pos hid, comSendSignal_fst, hsup, if_true, buf]
  · simpa only [ComState.setPdu_pduData, if_true] using hbytes k hk
  · by_cases hp : p = (cfg.SignalConfigs SignalId).ptr.pdu
    · subst hp
      rw [ComState.setPdu_pduData, if_pos rfl]
      exact Std_BitGet_comSendSignal_of_not_writesBit (fun h => hpq ⟨rfl, h⟩) _ _
    · simp [hp]
  · simpa only [Com_ReceiveSignal, if_pos hid, ComState.setPdu_pduData, if_true] using hret
  · simp only [Com_ReceiveSignal, if_pos hid, ComState.setPdu_pduData, if_true, hcopy]
    exact congrArg some (memcpy_congr_src fun k hk => by rw [hbytes k hk, Nat.zero_add])

theorem Com_SendSignal_Com_ReceiveSignal_byteCopy_sample :
    0 < (bitPosition8Cfg .COM_UINT8N).numOfSignals ∧
      (bitPosition8Cfg .COM_UINT8N).SignalConfigs 0 = bitPosition8Signal .COM_UINT8N ∧
      (bitPosition8Signal .COM_UINT8N).isByteCopy ∧
      (∀ q ∈ (bitPosition8Signal .COM_UINT8N).updatePos, ¬ (bitPosition8Signal .COM_UINT8N).inField q) ∧
      ∃ s', Com_SendSignal (bitPosition8Cfg .COM_UINT8N) 0 (some fun _ => 0xAB#8) ComState.zero =
          some (.E_OK, s') ∧
        (∀ k < 8 / 8, s'.pduData 0 (0 + k) = 0xAB#8) ∧
        (∀ p q, ¬ (p = 0 ∧ WritesBit (bitPosition8Signal .COM_UINT8N) q) →
          Std_BitGet (s'.pduData p) q = Std_BitGet (ComState.zero.pduData p) q) ∧
        (Com_ReceiveSignal (bitPosition8Cfg .COM_UINT8N) 0 (some Mem.zero) s').1 = .E_OK ∧
        (Com_ReceiveSignal (bitPosition8Cfg .COM_UINT8N) 0 (some Mem.zero) s').2.2 =
          some (memcpy Mem.zero 0 (fun _ => 0xAB#8) 0 (8 / 8)) :=
  have hu : ∀ q ∈ (bitPosition8Signal .COM_UINT8N).updatePos,
      ¬ (bitPosition8Signal .COM_UINT8N).inField q := fun q hq => by
    simp [bitPosition8Signal, updatePos] at hq
  ⟨by decide, rfl, rfl, hu,
    @Com_SendSignal_Com_ReceiveSignal_byteCopy (bitPosition8Cfg .COM_UINT8N) 0
      (bitPosition8Signal .COM_UINT8N) (by decide) rfl rfl hu _ _ _⟩

/-- The byte copy ignores `BitPosition`: sending `0xAB` through the `COM_UINT8N` signal at
`BitPosition` 8 writes byte 0 of the I-PDU, where a `COM_UINT8` signal at the same position
writes byte 1. -/
theorem Com_SendSignal_byteCopy_ignores_BitPosition :
    (bitPosition8Cfg .COM_UINT8N).WellFormed ∧
      (Com_SendSignal (bitPosition8Cfg .COM_UINT8N) 0 (some fun _ => 0xAB#8) ComState.zero).map
        (fun r => (r.1, (r.2.pduData 0).take 2)) = some (.E_OK, [0xAB#8, 0#8]) ∧
      (Com_SendSignal (bitPosition8Cfg .COM_UINT8) 0 (some fun _ => 0xAB#8) ComState.zero).map
        (fun r => (r.1, (r.2.pduData 0).take 2)) = some (.E_OK, [0#8, 0xAB#8]) :=
  ⟨⟨by decide, by decide, by decide, by decide⟩, by decide, by decide⟩

end Ssas
