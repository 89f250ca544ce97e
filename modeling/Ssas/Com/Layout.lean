-- SUMMARY: The cells of an I-PDU buffer over runs: a bit no signal writes changes only with an accepted frame, a data bit of one signal holds its latest send, group send, data init or accepted frame, and every frame Com hands PduR carries those bits.
import Ssas.Com.TxTick
import Ssas.Com.UpdateBit

/-!
# The layout of an I-PDU

The signals of I-PDU `p` lay out its buffer: a send writes the data of a supported signal and
its update bit (`WritesBit`). In a well-formed configuration every call that writes `p`'s buffer
through a signal writes through a signal of `p`: the sends, the receives, the group sends, the
data init of a group start, and the TX tick clearing update bits. The only other writer is
`Com_RxIndication`, which copies the first `length` bytes of an accepted frame over the buffer.
What each of them leaves at one bit is said once, by a spec lemma per writer.

So the bits of the buffer are cells with their own writers. A bit outside the layout,
`InitWritten cfg (cfg.IPduConfigs p).signals`, holds the bit of the latest frame Com accepted
for `p`, or before any its value at the start of the run (`frameBitAfter`, `layoutFree_bit`); on
a sent I-PDU it never changes. A data bit of one signal `j` of `p` and of no other
(`FieldBitOf`) holds what the latest send of `j`, group send of `j`, data init of `p` or frame
accepted for `p` put there (`fieldBitAfter`, `fieldBit_latest`). Every frame Com hands
`PduR_ComTransmit` for `p` carries the bits the buffer holds at the call (`step_transmit_data`),
so both laws speak of the frames on the bus as well (`BitLaw`).
-/

namespace Ssas

open Com_SignalConfigType

instance (signal : Com_SignalConfigType) (q : Nat) : Decidable (WritesBit signal q) :=
  inferInstanceAs (Decidable (_ ∨ _))

instance (cfg : Com_ConfigType) (l : List Nat) (q : Nat) : Decidable (InitWritten cfg l q) :=
  inferInstanceAs (Decidable (∃ j ∈ l, _))

/-- Bit `q` of I-PDU `p`'s buffer, advanced by a step, for a bit no signal of `p` writes: a frame
Com accepts for a received `p` brings its own bit `q` where `q` lies in the I-PDU's bytes; no other
step changes it. -/
def frameBitAfter (cfg : Com_ConfigType) (p q : Nat) (r : StepRecord) (b : Bool) : Bool :=
  match r.op with
  | .rxIndication i PduInfo =>
    if i = p ∧ (cfg.IPduConfigs p).rxConfig.isSome ∧ r.pre.active cfg p ∧
        (cfg.IPduConfigs p).length ≤ PduInfo.SduLength ∧ q < 8 * (cfg.IPduConfigs p).length then
      Std_BitGet PduInfo.SduDataPtr q
    else b
  | _ => b

/-- Bit `q` of I-PDU `p`'s buffer is a data bit of signal `j` of `p` and of no other signal of
`p`, and is not `j`'s update bit. -/
structure FieldBitOf (cfg : Com_ConfigType) (p j q : Nat) : Prop where
  listed : j ∈ (cfg.IPduConfigs p).signals
  data : (cfg.SignalConfigs j).supported ∧ (cfg.SignalConfigs j).inField q
  not_updateBit : (cfg.SignalConfigs j).updatePos ≠ some q
  only : ∀ i ∈ (cfg.IPduConfigs p).signals, i ≠ j → ¬ WritesBit (cfg.SignalConfigs i) q

/-- Bit `q` of I-PDU `p`'s buffer, advanced by a step, for a data bit of signal `j` alone: a send
of `j` writes the bit the codec puts there for its source, a group send of a `COM_UINT8N` `j` the
bit of its init region, a start with data init of a group of `p` the bit the codec puts there
for `j`'s init region, and an accepted frame its own bit, as for `frameBitAfter`. -/
def fieldBitAfter (cfg : Com_ConfigType) (p j q : Nat) (r : StepRecord) (b : Bool) : Bool :=
  match r.op with
  | .sendSignal i src =>
    if i = j then Std_BitGet (comSendSignal (cfg.SignalConfigs j) (src.getD Mem.zero) Mem.zero).2 q
    else b
  | .sendSignalGroup i =>
    if i = j ∧ (cfg.SignalConfigs j).type = .COM_UINT8N then
      Std_BitGet (memcpy Mem.zero (cfg.SignalConfigs j).ptr.off
        (r.pre.initData (cfg.SignalConfigs j).initPtr) 0 ((cfg.SignalConfigs j).BitSize / 8)) q
    else b
  | .groupStart g doInit =>
    if g < cfg.numOfGroups ∧ (cfg.IPduConfigs p).GroupRefMask &&& 2 ^ g ≠ 0 ∧ doInit then
      Std_BitGet (comSendSignal (cfg.SignalConfigs j)
        (r.pre.initData (cfg.SignalConfigs j).initPtr) Mem.zero).2 q
    else b
  | _ => frameBitAfter cfg p q r b

/-- The law of a step for bit `q` of I-PDU `p`, with the bit advanced by `δ`: the buffer holds
the bit `δ` gives, and every frame handed to `PduR_ComTransmit` for `p` carries the bit `b` of
the buffer where `q` lies in the frame. -/
def BitLaw (cfg : Com_ConfigType) (p q : Nat) (δ : StepRecord → Bool → Bool) (b : Bool)
    (r : StepRecord) : Prop :=
  Std_BitGet (r.post.pduData p) q = δ r b ∧
    ∀ TxPduId data ret, ComEvent.transmit p TxPduId data ret ∈ r.events →
      q < 8 * (cfg.IPduConfigs p).length → frameBit data q = b

/-- The calls that write I-PDU buffers. -/
def ComOp.writesPdu : ComOp → Bool
  | .groupStart _ _ | .sendSignal _ _ | .receiveSignal _ _ | .sendSignalGroup _ | .rxIndication _ _
  | .mainFunctionTx _ | .mainFunction _ => true
  | _ => false

-- ---------------------------------------------------------------------------
-- What reaches PduR
-- ---------------------------------------------------------------------------

section Transmissions

variable {cfg : Com_ConfigType} {p : Nat}

/-- A TX tick hands PduR `p`'s buffer as it was on entry. -/
theorem Com_MainFunctionTx_transmit_data (hwf : cfg.WellFormed) (hp : p < cfg.numOfIPdus)
    (res : Nat → Std_ReturnType) (s : ComState) {TxPduId : Nat} {data : List (BitVec 8)}
    {ret : Std_ReturnType} (hm : ComEvent.transmit p TxPduId data ret ∈ (Com_MainFunctionTx cfg res s).2) :
    data = (s.pduData p).take (cfg.IPduConfigs p).length := by
  have hmem : ComEvent.transmit p TxPduId data ret ∈ eventsOf p (Com_MainFunctionTx cfg res s).2 :=
    mem_eventsOf.2 ⟨hm, rfl⟩
  rw [(Com_MainFunctionTx_at hwf res hp s).2, (ipduMainFunctionTx_spec hwf hp _ s).1, txCall] at hmem
  split at hmem
  · split at hmem
    · simp only [Option.toList_some, List.mem_singleton, transmitEvent,
        ComEvent.transmit.injEq] at hmem
      exact hmem.2.2.1
    · simp at hmem
  · simp at hmem

/-- Every call hands PduR `p`'s buffer as it was before the call. -/
theorem step_transmit_data (hwf : cfg.WellFormed) (hp : p < cfg.numOfIPdus) {s : ComState}
    {op : ComOp} {r : ComState × List ComEvent} (h : op.step cfg s = some r) {TxPduId : Nat}
    {data : List (BitVec 8)} {ret : Std_ReturnType} (hm : ComEvent.transmit p TxPduId data ret ∈ r.2) :
    data = (s.pduData p).take (cfg.IPduConfigs p).length := by
  cases op with
  | triggerIPDUSend i ret' =>
    obtain rfl := Option.some.inj h
    obtain ⟨rfl, -⟩ : p = i ∧ _ := Com_TriggerIPDUSend_events cfg i ret' s _ hm
    rcases Option.eq_none_or_eq_some (cfg.IPduConfigs p).txConfig with htx | ⟨tx, htx⟩
    · simp [Com_TriggerIPDUSend, htx] at hm
    · rw [Com_TriggerIPDUSend_of_tx hp htx] at hm
      split at hm
      · simp only [List.mem_singleton, transmitEvent, ComEvent.transmit.injEq] at hm
        exact hm.2.2.1
      · simp at hm
  | mainFunctionTx res =>
    obtain rfl := Option.some.inj h
    exact Com_MainFunctionTx_transmit_data hwf hp res s hm
  | mainFunction res =>
    obtain rfl := Option.some.inj h
    rcases List.mem_append.1 hm with hm | hm
    · simpa [ComEvent.isTransmit] using Com_MainFunctionRx_events s _ hm
    · simpa using Com_MainFunctionTx_transmit_data hwf hp res _ hm
  | groupStart | groupStop => obtain ⟨s', -, rfl⟩ := Option.map_eq_some'.1 h; simp at hm
  | sendSignal => obtain ⟨a, -, rfl⟩ := Option.map_eq_some'.1 h; simp at hm
  | init | receiveSignal | sendSignalGroup | receiveSignalGroup | triggerTransmit =>
    obtain rfl := Option.some.inj h; simp at hm
  | rxIndication i PduInfo =>
    obtain rfl := Option.some.inj h
    cases Com_RxIndication_events cfg i PduInfo s _ hm
  | txConfirmation i result =>
    obtain rfl := Option.some.inj h
    rcases Com_TxConfirmation_events cfg i result s _ hm with h | h <;> cases h
  | mainFunctionRx =>
    obtain rfl := Option.some.inj h
    simpa [ComEvent.isTransmit] using Com_MainFunctionRx_events s _ hm

end Transmissions

-- ---------------------------------------------------------------------------
-- The writers of a buffer
-- ---------------------------------------------------------------------------

section Writers

variable {cfg : Com_ConfigType} {p q : Nat}

/-- The other calls leave every buffer alone. -/
theorem step_pduData_of_quiet {op : ComOp} (hop : op.writesPdu = false) {s : ComState}
    {r : ComState × List ComEvent} (h : op.step cfg s = some r) : r.1.pduData = s.pduData := by
  cases op with
  | init | triggerTransmit | txConfirmation | mainFunctionRx =>
    obtain rfl := Option.some.inj h
    first | rfl | exact Com_MainFunctionRx_pduData s
  | groupStop g =>
    obtain ⟨s', hs', rfl⟩ := Option.map_eq_some'.1 h
    rw [Com_IpduGroupStop_eq hs']
  | receiveSignalGroup j =>
    obtain rfl := Option.some.inj h
    obtain ⟨k, m, e⟩ := Com_ReceiveSignalGroup_state cfg j s
    rw [e]; rfl
  | triggerIPDUSend i ret =>
    obtain rfl := Option.some.inj h
    obtain ⟨t, e⟩ := Com_TriggerIPDUSend_state cfg i ret s
    rw [e]; rfl
  | _ => cases hop

/-- What a send leaves at bit `q` of `p`'s buffer: where its signal points into `p` and writes
`q`, the bit the codec puts there for the source, whatever the buffer held; the old bit
elsewhere. -/
theorem Com_SendSignal_bit {i : Nat} {src : Option Mem} {s : ComState}
    {r : Std_ReturnType × ComState} (h : Com_SendSignal cfg i src s = some r) :
    Std_BitGet (r.2.pduData p) q =
      if i < cfg.numOfSignals ∧ (cfg.SignalConfigs i).ptr.pdu = p ∧
          WritesBit (cfg.SignalConfigs i) q then
        Std_BitGet (comSendSignal (cfg.SignalConfigs i) (src.getD Mem.zero) Mem.zero).2 q
      else Std_BitGet (s.pduData p) q := by
  simp only [Com_SendSignal] at h
  split at h
  · next hi =>
    have hr : r.2 = s.setPdu (cfg.SignalConfigs i).ptr.pdu (comSendSignal (cfg.SignalConfigs i)
        (src.getD Mem.zero) (s.pduData (cfg.SignalConfigs i).ptr.pdu)).2 := by
      split at h
      · cases h; rfl
      · split at h
        · cases h
        · cases h; rfl
    rw [hr, ComState.setPdu_pduData]
    by_cases hpi : (cfg.SignalConfigs i).ptr.pdu = p
    · subst hpi
      by_cases hw : WritesBit (cfg.SignalConfigs i) q
      · rw [if_pos rfl, if_pos ⟨hi, rfl, hw⟩]
        exact Std_BitGet_comSendSignal_congr hw _ _ _
      · rw [if_pos rfl, if_neg fun h => hw h.2.2]
        exact Std_BitGet_comSendSignal_of_not_writesBit hw _ _
    · rw [if_neg (Ne.symm hpi), if_neg fun h => hpi h.2.1]
  · cases h; rw [if_neg fun h' => ‹¬ _› h'.1]

/-- What a group send leaves at bit `q` of `p`'s buffer: where a `COM_UINT8N` signal points into
`p` and covers `q`, the bit of its init region; the old bit elsewhere. -/
theorem Com_SendSignalGroup_bit (i : Nat) (s : ComState) :
    Std_BitGet ((Com_SendSignalGroup cfg i s).2.pduData p) q =
      if i < cfg.numOfSignals ∧ (cfg.SignalConfigs i).type = .COM_UINT8N ∧
          (cfg.SignalConfigs i).ptr.pdu = p ∧ (cfg.SignalConfigs i).inField q then
        Std_BitGet (memcpy Mem.zero (cfg.SignalConfigs i).ptr.off
          (s.initData (cfg.SignalConfigs i).initPtr) 0 ((cfg.SignalConfigs i).BitSize / 8)) q
      else Std_BitGet (s.pduData p) q := by
  simp only [Com_SendSignalGroup]
  split
  · next hi =>
    split
    · next hty =>
      have hbc : (cfg.SignalConfigs i).isByteCopy := by simp [isByteCopy, hty]
      rw [ComState.setPdu_pduData]
      by_cases hpi : (cfg.SignalConfigs i).ptr.pdu = p
      · subst hpi
        simp only [if_true, hi, hty, true_and, inField, hbc, Std_BitGet]
        split
        · rw [memcpy_apply_in (by omega) (by omega), memcpy_apply_in (by omega) (by omega)]
        · rw [memcpy_apply_out (by omega)]
      · rw [if_neg (Ne.symm hpi), if_neg fun h => hpi h.2.2.1]
    · next hty => rw [if_neg fun h => hty h.2.1]
  · next hi => rw [if_neg fun h => hi h.1]

/-- A data init whose signals write bit `q` through one signal `j` alone leaves there the bit the
codec puts for `j`'s init region, whatever the buffer held. -/
theorem Std_BitGet_initFold_writer {initData : Nat → Mem} {l : List Nat} {j : Nat} (hj : j ∈ l)
    (hw : WritesBit (cfg.SignalConfigs j) q)
    (hother : ∀ i ∈ l, i ≠ j → ¬ WritesBit (cfg.SignalConfigs i) q) (buf : Mem) :
    Std_BitGet (initFold cfg initData l buf) q =
      Std_BitGet (comSendSignal (cfg.SignalConfigs j) (initData (cfg.SignalConfigs j).initPtr)
        Mem.zero).2 q := by
  induction l generalizing buf with
  | nil => simp at hj
  | cons i l ih =>
    rw [initFold_cons]
    by_cases hl : j ∈ l
    · exact ih hl (fun i' hi' => hother i' (List.mem_cons_of_mem _ hi')) _
    · obtain rfl : j = i := by simpa [hl] using hj
      rw [Std_BitGet_initFold_of_not fun ⟨i', hi', hw'⟩ =>
          hother i' (List.mem_cons_of_mem _ hi') (by rintro rfl; exact hl hi') hw',
        Std_BitGet_comSendSignal_congr hw]

/-- A TX tick clears only update bits of `p`'s signals in `p`'s buffer. -/
theorem Com_MainFunctionTx_bit (hwf : cfg.WellFormed) (hp : p < cfg.numOfIPdus)
    (hq : ∀ i ∈ (cfg.IPduConfigs p).signals, (cfg.SignalConfigs i).updatePos ≠ some q)
    (res : Nat → Std_ReturnType) (s : ComState) :
    Std_BitGet ((Com_MainFunctionTx cfg res s).1.pduData p) q = Std_BitGet (s.pduData p) q := by
  have hview := congrArg (fun v => v.2.2.2.2) (Com_MainFunctionTx_at hwf res hp s).1
  simp only [ComState.view] at hview
  rw [hview, (ipduMainFunctionTx_spec hwf hp _ s).2.2, pduDataNext]
  split
  · have hany : ((cfg.IPduConfigs p).signals.any
        fun j => (cfg.SignalConfigs j).updatePos == some q) = false :=
      List.any_eq_false.2 fun j hj hu => hq j hj (by simpa using hu)
    rw [Std_BitGet_foldl_clearUpdateBit, hany, Bool.not_false, Bool.and_true]
  · rfl

/-- A reception for `p` copies the frame's bytes up to `p`'s length when Com accepts it; no
reception changes `p`'s buffer otherwise. -/
theorem Com_RxIndication_bit (hp : p < cfg.numOfIPdus) (i : Nat) (PduInfo : PduInfoType)
    (s : ComState) :
    Std_BitGet ((Com_RxIndication cfg i PduInfo s).1.pduData p) q =
      if i = p ∧ (cfg.IPduConfigs p).rxConfig.isSome ∧ s.active cfg p ∧
          (cfg.IPduConfigs p).length ≤ PduInfo.SduLength ∧ q < 8 * (cfg.IPduConfigs p).length then
        Std_BitGet PduInfo.SduDataPtr q
      else Std_BitGet (s.pduData p) q := by
  by_cases hi : i = p
  · subst hi
    rcases Option.eq_none_or_eq_some (cfg.IPduConfigs i).rxConfig with hrx | ⟨rx, hrx⟩
    · simp [Com_RxIndication, hp, hrx]
    · rw [Com_RxIndication_of_rx hp hrx]
      by_cases hacc : s.active cfg i ∧ (cfg.IPduConfigs i).length ≤ PduInfo.SduLength
      · by_cases hql : q < 8 * (cfg.IPduConfigs i).length
        · simp only [if_pos hacc, hrx, Option.isSome_some, hacc, hql, and_self, if_true,
            ComState.setRxTimer_pduData, ComState.setPdu_pduData, Std_BitGet]
          rw [memcpy_apply_in (by omega) (by omega)]
          simp
        · simp only [if_pos hacc, hql, and_false, if_false, ComState.setRxTimer_pduData,
            ComState.setPdu_pduData, if_true, Std_BitGet]
          rw [memcpy_apply_out (by omega)]
      · rw [if_neg hacc, if_neg fun h => hacc ⟨h.2.2.1, h.2.2.2.1⟩]
  · obtain ⟨m, t, e⟩ := Com_RxIndication_state cfg i PduInfo s
    rw [e, if_neg fun h => hi h.1]
    simp [Ne.symm hi]

end Writers

-- ---------------------------------------------------------------------------
-- The law over runs
-- ---------------------------------------------------------------------------

section Law

variable {cfg : Com_ConfigType} {p q : Nat}

/-- The run lemma of a bit: when every step moves bit `q` of `p`'s buffer as `δ` says, every
run obeys the law, frames included, and a run of defined calls covers every call. -/
theorem bitLaw_run (hwf : cfg.WellFormed) (hp : p < cfg.numOfIPdus) {δ : StepRecord → Bool → Bool}
    (hstep : ∀ (s : ComState) (op : ComOp) (r : ComState × List ComEvent), op.step cfg s = some r →
      Std_BitGet (r.1.pduData p) q = δ ⟨s, op, r.1, r.2⟩ (Std_BitGet (s.pduData p) q))
    (s₀ : ComState) (ops : List ComOp) :
    Along δ (BitLaw cfg p q δ) (Std_BitGet (s₀.pduData p) q) (run cfg s₀ ops) ∧
      ((∀ op ∈ ops, op.isDefined cfg) → (run cfg s₀ ops).length = ops.length) :=
  ⟨along_run (fun b s => Std_BitGet (s.pduData p) q = b)
    (fun _ s op r hinv h => by
      subst hinv
      refine ⟨⟨hstep s op r h, fun TxPduId data ret hm hql => ?_⟩, hstep s op r h⟩
      rw [step_transmit_data hwf hp h hm, frameBit_take hql])
    ops _ _ rfl, fun h => run_length_of_defined h s₀⟩

/-- In a well-formed configuration a signal that points into `p` is one of `p`'s signals. -/
theorem mem_signals_of_ptr (hwf : cfg.WellFormed) {i : Nat} (hi : i < cfg.numOfSignals)
    (hpi : (cfg.SignalConfigs i).ptr.pdu = p) : i ∈ (cfg.IPduConfigs p).signals :=
  hpi ▸ (hwf.signal_listed i hi).2

/-- The step lemma of a bit outside `p`'s layout. -/
theorem layoutFree_step (hwf : cfg.WellFormed) (hp : p < cfg.numOfIPdus)
    (hq : ¬ InitWritten cfg (cfg.IPduConfigs p).signals q) {s : ComState} {op : ComOp}
    {r : ComState × List ComEvent} (h : op.step cfg s = some r) :
    Std_BitGet (r.1.pduData p) q =
      frameBitAfter cfg p q ⟨s, op, r.1, r.2⟩ (Std_BitGet (s.pduData p) q) := by
  have hno : ∀ {i}, i < cfg.numOfSignals → (cfg.SignalConfigs i).ptr.pdu = p →
      ¬ WritesBit (cfg.SignalConfigs i) q := fun hi hpi hw => hq ⟨_, mem_signals_of_ptr hwf hi hpi, hw⟩
  cases op with
  | groupStart g d =>
    obtain ⟨s', hs', rfl⟩ := Option.map_eq_some'.1 h
    rw [Com_IpduGroupStart_pduData hwf hs' hp]
    split
    · exact Std_BitGet_initFold_of_not hq _
    · rfl
  | sendSignal i src =>
    obtain ⟨a, ha, rfl⟩ := Option.map_eq_some'.1 h
    rw [Com_SendSignal_bit ha, if_neg fun h => hno h.1 h.2.1 h.2.2]; rfl
  | receiveSignal i dst =>
    obtain rfl := Option.some.inj h
    rw [Com_ReceiveSignal_updateBit, if_neg fun h => hno h.1.1 h.1.2.1 (.inr h.1.2.2)]; rfl
  | sendSignalGroup i =>
    obtain rfl := Option.some.inj h
    rw [Com_SendSignalGroup_bit, if_neg fun h => hno h.1 h.2.2.1
      (.inl ⟨by simp [supported, isByteCopy, h.2.1], h.2.2.2⟩)]; rfl
  | rxIndication i PduInfo =>
    obtain rfl := Option.some.inj h
    exact Com_RxIndication_bit hp i PduInfo s
  | mainFunctionTx res =>
    obtain rfl := Option.some.inj h
    exact Com_MainFunctionTx_bit hwf hp (fun i hi hu => hq ⟨i, hi, .inr hu⟩) res s
  | mainFunction res =>
    obtain rfl := Option.some.inj h
    simp only [Com_MainFunction]
    rw [Com_MainFunctionTx_bit hwf hp (fun i hi hu => hq ⟨i, hi, .inr hu⟩),
      Com_MainFunctionRx_pduData]; rfl
  | init | groupStop | receiveSignalGroup | triggerIPDUSend | triggerTransmit | txConfirmation
  | mainFunctionRx => rw [step_pduData_of_quiet (by rfl) h]; rfl

/-- The layout law of an I-PDU: in a well-formed configuration, for a bit `q` of I-PDU `p`'s
buffer that no signal of `p` writes, in every run, after each step the bit is bit `q` of the
latest frame Com accepted for `p` where `q` lies within `p`'s length, or before any such frame
the bit at the start; and every frame Com hands `PduR_ComTransmit` for `p` carries that bit at
`q`. On a sent I-PDU no frame is accepted, so the bit never changes. A run of defined calls
covers every call. -/
theorem layoutFree_bit (hwf : cfg.WellFormed) (hp : p < cfg.numOfIPdus)
    (hq : ¬ InitWritten cfg (cfg.IPduConfigs p).signals q) (s₀ : ComState) (ops : List ComOp) :
    Along (frameBitAfter cfg p q) (BitLaw cfg p q (frameBitAfter cfg p q))
        (Std_BitGet (s₀.pduData p) q) (run cfg s₀ ops) ∧
      ((∀ op ∈ ops, op.isDefined cfg) → (run cfg s₀ ops).length = ops.length) :=
  bitLaw_run hwf hp (fun _ _ _ h => layoutFree_step hwf hp hq h) s₀ ops

/-- Bit 15 of I-PDU 0 of the sample configuration lies outside its layout, byte 0 and update
bit 8: set at the start, it stays set in every frame the I-PDU is sent with, over a run that
covers both calls. -/
theorem layoutFree_bit_sample :
    sampleConfig.WellFormed ∧ 0 < sampleConfig.numOfIPdus ∧
      ¬ InitWritten sampleConfig (sampleConfig.IPduConfigs 0).signals 15 ∧
      Along (frameBitAfter sampleConfig 0 15)
        (BitLaw sampleConfig 0 15 (frameBitAfter sampleConfig 0 15))
        (Std_BitGet (dueState.pduData 0) 15)
        (run sampleConfig dueState [.sendSignal 0 (some fun _ => 0xFF#8), .mainFunctionTx fun _ => .E_OK]) ∧
      (run sampleConfig dueState
        [.sendSignal 0 (some fun _ => 0xFF#8), .mainFunctionTx fun _ => .E_OK]).length = 2 :=
  ⟨sampleConfig_wellFormed, by decide, by decide,
    (layoutFree_bit sampleConfig_wellFormed (by decide) (by decide) _ _).1,
    (@layoutFree_bit sampleConfig 0 15 sampleConfig_wellFormed (by decide) (by decide) _ _).2
      (by decide)⟩

/-- The step lemma of a data bit of one signal. -/
theorem fieldBit_step (hwf : cfg.WellFormed) (hp : p < cfg.numOfIPdus) {j : Nat}
    (hF : FieldBitOf cfg p j q) {s : ComState} {op : ComOp} {r : ComState × List ComEvent}
    (h : op.step cfg s = some r) :
    Std_BitGet (r.1.pduData p) q =
      fieldBitAfter cfg p j q ⟨s, op, r.1, r.2⟩ (Std_BitGet (s.pduData p) q) := by
  have hj := (hwf.signal_ptr p hp j hF.listed)
  have hwj : WritesBit (cfg.SignalConfigs j) q := .inl hF.data
  have hone : ∀ {i}, i < cfg.numOfSignals → (cfg.SignalConfigs i).ptr.pdu = p →
      WritesBit (cfg.SignalConfigs i) q → i = j := fun hi hpi hw =>
    Decidable.byContradiction fun hij => hF.only _ (mem_signals_of_ptr hwf hi hpi) hij hw
  have hupd : ∀ i ∈ (cfg.IPduConfigs p).signals, (cfg.SignalConfigs i).updatePos ≠ some q :=
    fun i hi hu => by
      by_cases hij : i = j
      · exact hF.not_updateBit (hij ▸ hu)
      · exact hF.only i hi hij (.inr hu)
  cases op with
  | groupStart g d =>
    obtain ⟨s', hs', rfl⟩ := Option.map_eq_some'.1 h
    rw [Com_IpduGroupStart_pduData hwf hs' hp]
    split
    · next hc =>
      rw [Std_BitGet_initFold_writer hF.listed hwj hF.only]
      exact (if_pos hc).symm
    · next hc => exact (if_neg hc).symm
  | sendSignal i src =>
    obtain ⟨a, ha, rfl⟩ := Option.map_eq_some'.1 h
    rw [Com_SendSignal_bit ha]
    by_cases hij : i = j
    · subst hij; rw [if_pos ⟨hj.1, hj.2, hwj⟩]; exact (if_pos rfl).symm
    · rw [if_neg fun h => hij (hone h.1 h.2.1 h.2.2)]; exact (if_neg hij).symm
  | receiveSignal i dst =>
    obtain rfl := Option.some.inj h
    rw [Com_ReceiveSignal_updateBit, if_neg fun h =>
      hupd i (mem_signals_of_ptr hwf h.1.1 h.1.2.1) h.1.2.2]; rfl
  | sendSignalGroup i =>
    obtain rfl := Option.some.inj h
    rw [Com_SendSignalGroup_bit]
    by_cases hij : i = j
    · subst hij
      by_cases hty : (cfg.SignalConfigs i).type = .COM_UINT8N
      · rw [if_pos ⟨hj.1, hty, hj.2, hF.data.2⟩]; exact (if_pos ⟨rfl, hty⟩).symm
      · rw [if_neg fun h => hty h.2.1]; exact (if_neg fun h => hty h.2).symm
    · rw [if_neg fun h => hij (hone h.1 h.2.2.1
        (.inl ⟨by simp [supported, isByteCopy, h.2.1], h.2.2.2⟩))]
      exact (if_neg fun h => hij h.1).symm
  | rxIndication i PduInfo =>
    obtain rfl := Option.some.inj h
    exact Com_RxIndication_bit hp i PduInfo s
  | mainFunctionTx res =>
    obtain rfl := Option.some.inj h
    exact Com_MainFunctionTx_bit hwf hp hupd res s
  | mainFunction res =>
    obtain rfl := Option.some.inj h
    simp only [Com_MainFunction]
    rw [Com_MainFunctionTx_bit hwf hp hupd, Com_MainFunctionRx_pduData]; rfl
  | init | groupStop | receiveSignalGroup | triggerIPDUSend | triggerTransmit | txConfirmation
  | mainFunctionRx => rw [step_pduData_of_quiet (by rfl) h]; rfl

/-- The field law of a signal: in a well-formed configuration, for a data bit `q` of a supported
signal `j` of I-PDU `p` that no other signal of `p` writes and that is not `j`'s update bit, in
every run, after each step the bit is the one the latest of these put there: a send of `j` (the
bit the codec writes for its source), a group send of a `COM_UINT8N` `j` (the bit of its init
region), a start with data init of a group of `p` (the bit the codec writes for `j`'s init
region), a frame Com accepted for `p` where `q` lies within `p`'s length (its bit), or before
any of them the bit at the start; and every frame Com hands `PduR_ComTransmit` for `p` carries
that bit at `q`. A run of defined calls covers every call. -/
theorem fieldBit_latest (hwf : cfg.WellFormed) (hp : p < cfg.numOfIPdus) {j : Nat}
    (hF : FieldBitOf cfg p j q) (s₀ : ComState) (ops : List ComOp) :
    Along (fieldBitAfter cfg p j q) (BitLaw cfg p q (fieldBitAfter cfg p j q))
        (Std_BitGet (s₀.pduData p) q) (run cfg s₀ ops) ∧
      ((∀ op ∈ ops, op.isDefined cfg) → (run cfg s₀ ops).length = ops.length) :=
  bitLaw_run hwf hp (fun _ _ _ h => fieldBit_step hwf hp hF h) s₀ ops

/-- Bit 3 of I-PDU 0 of the sample configuration is a data bit of its signal 0 alone: a send of
`0xFF`, a tick that sends it, a send of `0`, over a run that covers the three calls. -/
theorem fieldBit_latest_sample :
    sampleConfig.WellFormed ∧ 0 < sampleConfig.numOfIPdus ∧ FieldBitOf sampleConfig 0 0 3 ∧
      Along (fieldBitAfter sampleConfig 0 0 3)
        (BitLaw sampleConfig 0 3 (fieldBitAfter sampleConfig 0 0 3))
        (Std_BitGet (dueState.pduData 0) 3)
        (run sampleConfig dueState [.sendSignal 0 (some fun _ => 0xFF#8),
          .mainFunctionTx fun _ => .E_OK, .sendSignal 0 (some Mem.zero)]) ∧
      (run sampleConfig dueState [.sendSignal 0 (some fun _ => 0xFF#8),
        .mainFunctionTx fun _ => .E_OK, .sendSignal 0 (some Mem.zero)]).length = 3 :=
  have hF : FieldBitOf sampleConfig 0 0 3 :=
    ⟨by decide, by decide, by decide, by decide⟩
  ⟨sampleConfig_wellFormed, by decide, hF,
    (fieldBit_latest sampleConfig_wellFormed (by decide) hF _ _).1,
    (fieldBit_latest sampleConfig_wellFormed (by decide) hF _ _).2 (by decide)⟩

end Law

-- ---------------------------------------------------------------------------
-- Signal groups
-- ---------------------------------------------------------------------------

section Groups

variable {cfg : Com_ConfigType}

/-- The shadow buffer of a signal group is its init region: in a well-formed configuration, for
a `COM_UINT8N` signal `j` whose update bit, if any, lies outside its bytes and whose bytes no
other signal of its I-PDU writes, after `Com_ReceiveSignalGroup(j)` a start with data init of a
group of the I-PDU puts back into `j`'s bytes the group value that was received, whatever the
init region held before, so the data init no longer restores the configured init value. -/
theorem Com_ReceiveSignalGroup_dataInit (hwf : cfg.WellFormed) {j g : Nat}
    (hj : j < cfg.numOfSignals) (hty : (cfg.SignalConfigs j).type = .COM_UINT8N)
    (hu : ∀ u ∈ (cfg.SignalConfigs j).updatePos, ¬ (cfg.SignalConfigs j).inField u)
    (honly : ∀ i ∈ (cfg.IPduConfigs (cfg.SignalConfigs j).ptr.pdu).signals, i ≠ j →
      ∀ q, (cfg.SignalConfigs j).inField q → ¬ WritesBit (cfg.SignalConfigs i) q)
    (hg : g < cfg.numOfGroups)
    (hcov : (cfg.IPduConfigs (cfg.SignalConfigs j).ptr.pdu).GroupRefMask &&& 2 ^ g ≠ 0)
    (s : ComState) {s' : ComState}
    (h : Com_IpduGroupStart cfg g true (Com_ReceiveSignalGroup cfg j s).2 = some s') {k : Nat}
    (hk : k < (cfg.SignalConfigs j).BitSize / 8) :
    s'.pduData (cfg.SignalConfigs j).ptr.pdu ((cfg.SignalConfigs j).ptr.off + k) =
      s.pduData (cfg.SignalConfigs j).ptr.pdu ((cfg.SignalConfigs j).ptr.off + k) := by
  have hc : (cfg.SignalConfigs j).isByteCopy := by simp [isByteCopy, hty]
  obtain ⟨hp, hjl⟩ := hwf.signal_listed j hj
  have hrecv : (Com_ReceiveSignalGroup cfg j s).2 = s.setInitData (cfg.SignalConfigs j).initPtr
      (memcpy (s.initData (cfg.SignalConfigs j).initPtr) 0
        (s.pduData (cfg.SignalConfigs j).ptr.pdu) (cfg.SignalConfigs j).ptr.off
        ((cfg.SignalConfigs j).BitSize / 8)) := by
    simp [Com_ReceiveSignalGroup, hj, hty]
  rw [Com_IpduGroupStart_pduData hwf h hp, if_pos ⟨hg, hcov, rfl⟩]
  apply BitVec.eq_of_getLsbD_eq
  intro i
  have hin : (cfg.SignalConfigs j).inField (8 * ((cfg.SignalConfigs j).ptr.off + k) + i) := by
    simp only [inField, hc, if_true]; omega
  have hbit := @Std_BitGet_initFold_writer cfg _ (Com_ReceiveSignalGroup cfg j s).2.initData _ _ hjl
    (.inl ⟨by simp [supported, hc], hin⟩) (fun i' hi' hij => honly i' hi' hij _ hin)
    ((Com_ReceiveSignalGroup cfg j s).2.pduData (cfg.SignalConfigs j).ptr.pdu)
  have hdiv : (8 * ((cfg.SignalConfigs j).ptr.off + k) + i) / 8 = (cfg.SignalConfigs j).ptr.off + k := by
    omega
  have hmod : (8 * ((cfg.SignalConfigs j).ptr.off + k) + i) % 8 = i := by omega
  simp only [Std_BitGet, hdiv, hmod] at hbit
  rw [hbit, comSendSignal_byteCopy_apply hc hu _ _ hk, hrecv]
  simp only [ComState.setInitData, Function.update_same]
  rw [memcpy_apply_in (by omega) (by omega)]
  simp

/-- I-PDU 0 holds `0xAB` in the byte of its `COM_UINT8N` signal, whose init region holds
`0x11`. -/
def groupState : ComState :=
  ⟨0, fun _ => 0, fun _ => 0, fun _ k => if k = 0 then 0xAB#8 else 0, fun _ _ => 0x11#8⟩

/-- After a group receive, the data init of I-PDU 0 of `bitPosition8Cfg .COM_UINT8N` leaves
`0xAB` in place of the configured `0x11`. -/
theorem Com_ReceiveSignalGroup_dataInit_sample :
    ∃ s', Com_IpduGroupStart (bitPosition8Cfg .COM_UINT8N) 0 true
        (Com_ReceiveSignalGroup (bitPosition8Cfg .COM_UINT8N) 0 groupState).2 = some s' ∧
      s'.pduData 0 0 = groupState.pduData 0 0 :=
  ⟨_, rfl, @Com_ReceiveSignalGroup_dataInit (bitPosition8Cfg .COM_UINT8N)
    ⟨by decide, by decide, by decide, by decide⟩ 0 0 (by decide) rfl (by decide)
    (fun i hi hij => (hij (List.mem_singleton.1 hi)).elim) (by decide) (by decide) groupState _ rfl 0
    (by decide)⟩

end Groups

end Ssas
