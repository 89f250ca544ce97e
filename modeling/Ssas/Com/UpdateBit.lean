-- SUMMARY: Update bits over runs: on a received I-PDU an update bit announces the latest frame, send or data init until a receive through it consumes it; Com_TriggerIPDUSend, unlike the TX tick, leaves an announcement PduR already took.
import Ssas.Com.DataInit

/-!
# Update bits over runs

A signal's update bit is set by `comSendSignal`, and so by the data init of a group start,
which sends every signal of the I-PDU from its init region; it travels with the frame, since
`Com_RxIndication` copies the whole frame over the buffer. `comReceiveSignal` reads through
the bit and clears it. On a received I-PDU the bit therefore tracks `pendingUpdate`: the
announcement of the latest frame, send or data init that no receive through the bit has
consumed yet, and a receive through it succeeds exactly when one is pending. A receive into a
null destination is refused before the gate and consumes nothing.

On a sent I-PDU, `Com_MainFunctionTx` clears the update bits once PduR accepts a transmission
(`comTxClearUpdateBit`), but `Com_TriggerIPDUSend` does not: after a triggered transmission
PduR accepted, the next transmission announces the same update again.
-/

namespace Ssas

open Com_SignalConfigType

/-! ## Reception -/

/-- Bit `u` of I-PDU `p`'s buffer is the update bit of a signal of `p` and lies outside the data
of every supported signal of `p`. -/
structure UpdateBitOf (cfg : Com_ConfigType) (p u : Nat) : Prop where
  announced : ∃ j ∈ (cfg.IPduConfigs p).signals, (cfg.SignalConfigs j).updatePos = some u
  outside : ∀ j ∈ (cfg.IPduConfigs p).signals,
    ¬ ((cfg.SignalConfigs j).supported ∧ (cfg.SignalConfigs j).inField u)

/-- Whether update bit `u` of I-PDU `p` announces an update, advanced by a step: a send through
`u` or a start with data init of a group of `p` announces one, a frame accepted for `p` brings
its own bit `u`, and a receive through `u` into a destination consumes it. -/
def pendingUpdate (cfg : Com_ConfigType) (p u : Nat) (r : StepRecord) (b : Bool) : Bool :=
  match r.op with
  | .groupStart g doInit =>
    if g < cfg.numOfGroups ∧ (cfg.IPduConfigs p).GroupRefMask &&& 2 ^ g ≠ 0 ∧ doInit then true
    else b
  | .sendSignal j _ => if IsUpdateBit cfg j p u then true else b
  | .receiveSignal j dst => if IsUpdateBit cfg j p u ∧ dst.isSome then false else b
  | .rxIndication q PduInfo =>
    if q = p ∧ r.pre.active cfg p ∧ (cfg.IPduConfigs p).length ≤ PduInfo.SduLength then
      Std_BitGet PduInfo.SduDataPtr u
    else b
  | _ => b

/-- The law of a step: a receive through update bit `u` of `p` succeeds exactly when its
destination is not null, its signal is supported and an update is pending. -/
def UpdateBitLaw (cfg : Com_ConfigType) (p u : Nat) (b : Bool) (r : StepRecord) : Prop :=
  match r.op with
  | .receiveSignal j dst => IsUpdateBit cfg j p u →
    ((Com_ReceiveSignal cfg j dst r.pre).1 = .E_OK ↔
      dst.isSome ∧ (cfg.SignalConfigs j).supported ∧ b)
  | _ => True

section Reception

variable {cfg : Com_ConfigType} {p u : Nat}

/-- The data init sets an update bit of its signals that no supported signal's data covers. -/
theorem Std_BitGet_initFold_updatePos {initData : Nat → Mem} {l : List Nat} {q : Nat}
    (hq : ∃ j ∈ l, (cfg.SignalConfigs j).updatePos = some q)
    (hout : ∀ j ∈ l, ¬ ((cfg.SignalConfigs j).supported ∧ (cfg.SignalConfigs j).inField q))
    (buf : Mem) : Std_BitGet (initFold cfg initData l buf) q = true := by
  induction l generalizing buf with
  | nil => obtain ⟨j, hj, -⟩ := hq; simp at hj
  | cons j l ih =>
    rw [initFold_cons]
    by_cases hl : ∃ j' ∈ l, (cfg.SignalConfigs j').updatePos = some q
    · exact ih hl (fun j' hj' => hout j' (List.mem_cons_of_mem _ hj')) _
    · have hj : (cfg.SignalConfigs j).updatePos = some q := by
        obtain ⟨j', hj', hu⟩ := hq
        rcases List.mem_cons.1 hj' with rfl | hj'
        · exact hu
        · exact absurd ⟨j', hj', hu⟩ hl
      have hn : ¬ InitWritten cfg l q := fun ⟨j', hj', hw⟩ =>
        hw.elim (hout j' (List.mem_cons_of_mem _ hj')) (fun hu => hl ⟨j', hj', hu⟩)
      rw [Std_BitGet_initFold_of_not hn, Std_BitGet_comSendSignal_updatePos hj]

/-- A start with data init of a group of `p` sets bit `u`; any other start keeps it. -/
theorem Com_IpduGroupStart_updateBit (hwf : cfg.WellFormed) (hp : p < cfg.numOfIPdus)
    (hU : UpdateBitOf cfg p u) {g : Nat} {doInit : Bool} {s s' : ComState}
    (h : Com_IpduGroupStart cfg g doInit s = some s') :
    Std_BitGet (s'.pduData p) u =
      if g < cfg.numOfGroups ∧ (cfg.IPduConfigs p).GroupRefMask &&& 2 ^ g ≠ 0 ∧ doInit then
        true
      else Std_BitGet (s.pduData p) u := by
  rw [Com_IpduGroupStart_pduData hwf h hp]
  split
  · exact Std_BitGet_initFold_updatePos hU.announced hU.outside _
  · rfl

/-- A send through bit `u` sets it; any other send keeps it. -/
theorem Com_SendSignal_updateBit (hwf : cfg.WellFormed) (hU : UpdateBitOf cfg p u) {j : Nat}
    {src : Option Mem} {s : ComState} {r : Std_ReturnType × ComState}
    (h : Com_SendSignal cfg j src s = some r) :
    Std_BitGet (r.2.pduData p) u =
      if IsUpdateBit cfg j p u then true else Std_BitGet (s.pduData p) u := by
  simp only [Com_SendSignal] at h
  split at h
  · next hj =>
    obtain ⟨src', hr⟩ : ∃ src', r.2 = s.setPdu (cfg.SignalConfigs j).ptr.pdu
        (comSendSignal (cfg.SignalConfigs j) src' (s.pduData (cfg.SignalConfigs j).ptr.pdu)).2 := by
      split at h
      · cases h; exact ⟨_, rfl⟩
      · split at h
        · cases h
        · cases h; exact ⟨_, rfl⟩
    rw [hr, ComState.setPdu_pduData]
    split
    · next hpj =>
      subst hpj
      by_cases hu : (cfg.SignalConfigs j).updatePos = some u
      · rw [if_pos ⟨hj, rfl, hu⟩, Std_BitGet_comSendSignal_updatePos hu]
      · rw [if_neg fun hI => hu hI.2.2, Std_BitGet_comSendSignal_of_not_writesBit]
        exact fun hw => hw.elim (hU.outside j (hwf.signal_listed j hj).2) hu
    · next hpj => rw [if_neg fun hI => hpj hI.2.1.symm]
  · next hj => cases h; rw [if_neg fun hI => hj hI.1]

/-- A receive through bit `u` into a destination clears it; any other receive keeps it. -/
theorem Com_ReceiveSignal_updateBit (j : Nat) (dst : Option Mem) (s : ComState) :
    Std_BitGet ((Com_ReceiveSignal cfg j dst s).2.1.pduData p) u =
      if IsUpdateBit cfg j p u ∧ dst.isSome then false else Std_BitGet (s.pduData p) u := by
  cases dst with
  | none => simp [Com_ReceiveSignal]
  | some d =>
    by_cases hj : j < cfg.numOfSignals
    · simp only [Com_ReceiveSignal, if_pos hj, ComState.setPdu_pduData]
      split
      · next hpj => subst hpj; simp [Std_BitGet_comReceiveSignal, IsUpdateBit, hj]
      · next hpj => simp [IsUpdateBit, Ne.symm hpj]
    · simp [Com_ReceiveSignal, hj, IsUpdateBit]

/-- A receive through update bit `u` of `p` succeeds exactly when its destination is not null,
its signal is supported and the bit is set. -/
theorem Com_ReceiveSignal_fst_of_updateBit {j : Nat} (hj : IsUpdateBit cfg j p u)
    (dst : Option Mem) (s : ComState) :
    (Com_ReceiveSignal cfg j dst s).1 = .E_OK ↔
      dst.isSome ∧ (cfg.SignalConfigs j).supported ∧ Std_BitGet (s.pduData p) u := by
  obtain ⟨hlt, rfl, hu⟩ := hj
  cases dst with
  | none => simp [Com_ReceiveSignal]
  | some d =>
    simp only [Com_ReceiveSignal, if_pos hlt, comReceiveSignal_fst_of_updatePos hu]
    cases Std_BitGet (s.pduData (cfg.SignalConfigs j).ptr.pdu) u <;>
      cases (cfg.SignalConfigs j).supported <;> simp

/-- A group send copies the bytes of a `COM_UINT8N` signal, which lie outside bit `u`. -/
theorem Com_SendSignalGroup_updateBit (hwf : cfg.WellFormed) (hU : UpdateBitOf cfg p u)
    (j : Nat) (s : ComState) :
    Std_BitGet ((Com_SendSignalGroup cfg j s).2.pduData p) u = Std_BitGet (s.pduData p) u := by
  simp only [Com_SendSignalGroup]
  split
  · next hj =>
    split
    · next hty =>
      rw [ComState.setPdu_pduData]
      split
      · next hpj =>
        subst hpj
        have hbc : (cfg.SignalConfigs j).isByteCopy := by simp [isByteCopy, hty]
        have hout := hU.outside j (hwf.signal_listed j hj).2
        simp only [supported, hbc, Bool.true_or, inField, if_true, true_and] at hout
        simp only [Std_BitGet]
        rw [memcpy_apply_out (by omega)]
      · rfl
    · rfl
  · rfl

/-- An update bit lies inside its I-PDU's buffer. -/
theorem updateBit_lt (hwf : cfg.WellFormed) (hp : p < cfg.numOfIPdus) (hU : UpdateBitOf cfg p u) :
    u < 8 * (cfg.IPduConfigs p).length := by
  obtain ⟨j, hj, hju⟩ := hU.announced
  have hlt := hwf.updatePos_lt j (hwf.signal_ptr p hp j hj).1 u hju
  rwa [(hwf.signal_ptr p hp j hj).2] at hlt

/-- An accepted frame for `p` brings its own bit `u`; any other frame keeps the bit. -/
theorem Com_RxIndication_updateBit (hwf : cfg.WellFormed) (hp : p < cfg.numOfIPdus)
    {rx : Com_IPduRxConfigType} (hrx : (cfg.IPduConfigs p).rxConfig = some rx)
    (hU : UpdateBitOf cfg p u) (q : Nat) (PduInfo : PduInfoType) (s : ComState) :
    Std_BitGet ((Com_RxIndication cfg q PduInfo s).1.pduData p) u =
      if q = p ∧ s.active cfg p ∧ (cfg.IPduConfigs p).length ≤ PduInfo.SduLength then
        Std_BitGet PduInfo.SduDataPtr u
      else Std_BitGet (s.pduData p) u := by
  by_cases hq : q = p
  · subst hq
    rw [Com_RxIndication_of_rx hp hrx]
    by_cases hacc : s.active cfg q ∧ (cfg.IPduConfigs q).length ≤ PduInfo.SduLength
    · rw [if_pos hacc, if_pos (And.intro rfl hacc)]
      have hlt := updateBit_lt hwf hp hU
      simp only [ComState.setRxTimer_pduData, ComState.setPdu_pduData, ↓reduceIte, Std_BitGet]
      rw [memcpy_apply_in (by omega) (by omega)]
      simp
    · rw [if_neg hacc, if_neg fun h => hacc h.2]
  · obtain ⟨m, t, e⟩ := Com_RxIndication_state cfg q PduInfo s
    rw [e, if_neg fun h => hq h.1]
    simp [Ne.symm hq]

/-- The signal and group calls move bit `u` as `pendingUpdate` says, and hand nothing to
PduR. -/
theorem updateBit_step_of_local (hwf : cfg.WellFormed) (hp : p < cfg.numOfIPdus)
    (hU : UpdateBitOf cfg p u) {s : ComState} {op : ComOp} {r : ComState × List ComEvent}
    (hop : op.isBufferCall ∨ op.isGroupCall) (h : op.step cfg s = some r) :
    Std_BitGet (r.1.pduData p) u =
        pendingUpdate cfg p u ⟨s, op, r.1, r.2⟩ (Std_BitGet (s.pduData p) u) ∧
      ∀ e ∈ r.2, e.isTransmit = false := by
  cases op with
  | groupStart g d =>
    obtain ⟨s', hs', rfl⟩ := Option.map_eq_some'.1 h
    exact ⟨Com_IpduGroupStart_updateBit hwf hp hU hs', by simp⟩
  | groupStop g =>
    obtain ⟨s', hs', rfl⟩ := Option.map_eq_some'.1 h
    exact ⟨by simp only [pendingUpdate]; rw [Com_IpduGroupStop_eq hs'], by simp⟩
  | sendSignal j src =>
    obtain ⟨a, ha, rfl⟩ := Option.map_eq_some'.1 h
    exact ⟨Com_SendSignal_updateBit hwf hU ha, by simp⟩
  | receiveSignal j dst =>
    obtain rfl := Option.some.inj h
    exact ⟨Com_ReceiveSignal_updateBit j dst s, by simp⟩
  | sendSignalGroup j =>
    obtain rfl := Option.some.inj h
    exact ⟨Com_SendSignalGroup_updateBit hwf hU j s, by simp⟩
  | receiveSignalGroup j =>
    obtain rfl := Option.some.inj h
    obtain ⟨q, m, e⟩ := Com_ReceiveSignalGroup_state cfg j s
    exact ⟨by rw [e]; rfl, by simp⟩
  | txConfirmation q result =>
    obtain rfl := Option.some.inj h
    exact ⟨rfl, fun e he => by
      rcases Com_TxConfirmation_events cfg q result s e he with rfl | rfl <;> rfl⟩
  | init | triggerTransmit => obtain rfl := Option.some.inj h; exact ⟨rfl, by simp⟩
  | triggerIPDUSend | rxIndication | mainFunctionRx | mainFunctionTx | mainFunction =>
    rcases hop with h | h <;> cases h

/-- The step lemma: every step keeps bit `u` of `p`'s buffer equal to the pending announcement,
and a receive through it obeys the law. -/
theorem updateBit_step (hwf : cfg.WellFormed) (hp : p < cfg.numOfIPdus)
    {rx : Com_IPduRxConfigType} (hrx : (cfg.IPduConfigs p).rxConfig = some rx)
    (hU : UpdateBitOf cfg p u) {s : ComState} {op : ComOp} {r : ComState × List ComEvent}
    (h : op.step cfg s = some r) :
    UpdateBitLaw cfg p u (Std_BitGet (s.pduData p) u) ⟨s, op, r.1, r.2⟩ ∧
      Std_BitGet (r.1.pduData p) u =
        pendingUpdate cfg p u ⟨s, op, r.1, r.2⟩ (Std_BitGet (s.pduData p) u) := by
  have htx : (cfg.IPduConfigs p).txConfig = none :=
    (hwf.direction p hp).resolve_left (by simp [hrx])
  cases op with
  | receiveSignal j dst =>
    obtain rfl := Option.some.inj h
    exact ⟨fun hj => Com_ReceiveSignal_fst_of_updateBit hj dst s,
      Com_ReceiveSignal_updateBit j dst s⟩
  | triggerIPDUSend q ret =>
    obtain rfl := Option.some.inj h
    obtain ⟨t, e⟩ := Com_TriggerIPDUSend_state cfg q ret s
    exact ⟨trivial, by rw [e]; rfl⟩
  | rxIndication q PduInfo =>
    obtain rfl := Option.some.inj h
    exact ⟨trivial, Com_RxIndication_updateBit hwf hp hrx hU q PduInfo s⟩
  | mainFunctionRx =>
    obtain rfl := Option.some.inj h
    exact ⟨trivial, by rw [Com_MainFunctionRx_pduData]; rfl⟩
  | mainFunctionTx res =>
    obtain rfl := Option.some.inj h
    exact ⟨trivial, by rw [Com_MainFunctionTx_pduData_of_rx hwf res hp htx]; rfl⟩
  | mainFunction res =>
    obtain rfl := Option.some.inj h
    exact ⟨trivial, by
      simp only [Com_MainFunction, Com_MainFunctionTx_pduData_of_rx hwf res hp htx,
        Com_MainFunctionRx_pduData]
      rfl⟩
  | init | groupStart | groupStop | sendSignal | sendSignalGroup | receiveSignalGroup
  | triggerTransmit | txConfirmation =>
    exact ⟨trivial, (updateBit_step_of_local hwf hp hU (by simp [ComOp.isBufferCall,
      ComOp.isGroupCall]) h).1⟩

/-- The update-bit law of a received I-PDU: for an update bit `u` of a received I-PDU `p` that
lies outside the data of every supported signal of `p`, in every run, a receive through `u`
succeeds exactly when its destination is not null, its signal is supported and the latest of
the frames accepted for `p`, the sends through `u`, the starts with data init of a group of `p`
and the receives through `u` into a destination is a frame with `u` set, a send or a data init
(or, before any of them, when `u` was set at the start); and a run of defined calls covers every
call. -/
theorem updateBit_pending (hwf : cfg.WellFormed) (hp : p < cfg.numOfIPdus)
    {rx : Com_IPduRxConfigType} (hrx : (cfg.IPduConfigs p).rxConfig = some rx)
    (hU : UpdateBitOf cfg p u) (s₀ : ComState) (ops : List ComOp) :
    Along (pendingUpdate cfg p u) (UpdateBitLaw cfg p u) (Std_BitGet (s₀.pduData p) u)
        (run cfg s₀ ops) ∧
      ((∀ op ∈ ops, op.isDefined cfg) → (run cfg s₀ ops).length = ops.length) :=
  ⟨along_run (fun b s => Std_BitGet (s.pduData p) u = b)
    (fun _ _ _ _ hinv h => hinv ▸ updateBit_step hwf hp hrx hU h) ops _ _ rfl,
    fun h => run_length_of_defined h s₀⟩

end Reception

/-- I-PDU 1 of the sample configuration, received with update bit 8: a start of its group, a
frame with the bit set, and three receives, the first into a null destination; the run covers
the five calls. -/
theorem updateBit_pending_sample :
    sampleConfig.WellFormed ∧ 1 < sampleConfig.numOfIPdus ∧
      (sampleConfig.IPduConfigs 1).rxConfig = some ⟨3, 0, true, true⟩ ∧ UpdateBitOf sampleConfig 1 8 ∧
      Along (pendingUpdate sampleConfig 1 8) (UpdateBitLaw sampleConfig 1 8)
        (Std_BitGet (ComState.zero.pduData 1) 8)
        (run sampleConfig ComState.zero [.groupStart 1 false,
          .rxIndication 1 ⟨fun k => if k = 1 then 0x01#8 else 0, 2⟩, .receiveSignal 1 none,
          .receiveSignal 1 (some Mem.zero), .receiveSignal 1 (some Mem.zero)]) ∧
      (run sampleConfig ComState.zero [.groupStart 1 false,
        .rxIndication 1 ⟨fun k => if k = 1 then 0x01#8 else 0, 2⟩, .receiveSignal 1 none,
        .receiveSignal 1 (some Mem.zero), .receiveSignal 1 (some Mem.zero)]).length = 5 :=
  have hU : UpdateBitOf sampleConfig 1 8 := ⟨⟨1, by decide, rfl⟩, by decide⟩
  ⟨sampleConfig_wellFormed, by decide, rfl, hU,
    (@updateBit_pending sampleConfig 1 8 sampleConfig_wellFormed (by decide) _ rfl hU _ _).1,
    (@updateBit_pending sampleConfig 1 8 sampleConfig_wellFormed (by decide) _ rfl hU _ _).2
      (by decide)⟩

/-- A receive into a null destination is refused although an update is pending: after a frame
for I-PDU 1 of the sample configuration with update bit 8 set, a receive of signal 1 into
`NULL` returns `E_NOT_OK`, while one into a buffer returns `E_OK`. -/
theorem Com_ReceiveSignal_null_refused_pending :
    ∃ s, (run sampleConfig ComState.zero [.groupStart 1 false,
        .rxIndication 1 ⟨fun k => if k = 1 then 0x01#8 else 0, 2⟩]).getLast?.map (·.post) = some s ∧
      Std_BitGet (s.pduData 1) 8 = true ∧ (Com_ReceiveSignal sampleConfig 1 none s).1 = .E_NOT_OK ∧
      (Com_ReceiveSignal sampleConfig 1 (some Mem.zero) s).1 = .E_OK :=
  ⟨_, rfl, by decide, by decide, by decide⟩

/-! ## Transmission -/

/-- Bit `q` of a frame handed over as a list of bytes. -/
def frameBit (data : List (BitVec 8)) (q : Nat) : Bool := (data.getD (q / 8) 0).getLsbD (q % 8)

theorem frameBit_take {m : Mem} {n q : Nat} (h : q < 8 * n) :
    frameBit (m.take n) q = Std_BitGet m q := by
  simp [frameBit, Mem.take, Std_BitGet, List.getD_eq_getElem?_getD, show q / 8 < n by omega]

/-- Whether update bit `u` of a sent I-PDU `p` announces an update PduR has not accepted yet,
advanced by a step: as `pendingUpdate` for the signal and group calls, and consumed by a TX tick
whose transmission of `p` PduR accepts. A triggered transmission keeps it. -/
def pendingTxUpdate (cfg : Com_ConfigType) (p u : Nat) (r : StepRecord) (b : Bool) : Bool :=
  match r.op with
  | .mainFunctionTx res | .mainFunction res =>
    if r.pre.active cfg p ∧ r.pre.txTimer p = 1 ∧ res p = .E_OK then false else b
  | .rxIndication _ _ => b
  | _ => pendingUpdate cfg p u r b

/-- The law of a step: every buffer handed to `PduR_ComTransmit` for `p` has bit `u` set exactly
when an update is pending. -/
def TxUpdateBitLaw (p u : Nat) (b : Bool) (r : StepRecord) : Prop :=
  ∀ TxPduId data ret, ComEvent.transmit p TxPduId data ret ∈ r.events → frameBit data u = b

section Transmission

variable {cfg : Com_ConfigType} {p u : Nat}

theorem txUpdateBitLaw_of_not_transmit {b : Bool} {r : StepRecord}
    (h : ∀ e ∈ r.events, e.isTransmit = false) : TxUpdateBitLaw p u b r :=
  fun _ _ _ hm => by simpa [ComEvent.isTransmit] using h _ hm

/-- A transmission of `p` hands PduR `p`'s buffer, so bit `u` of the frame is the buffer's. -/
theorem frameBit_transmitEvent (hwf : cfg.WellFormed) (hp : p < cfg.numOfIPdus)
    (hU : UpdateBitOf cfg p u) {tx : Com_IPduTxConfigType} {buf : Mem} {ret ret' : Std_ReturnType}
    {TxPduId : Nat} {data : List (BitVec 8)}
    (h : ComEvent.transmit p TxPduId data ret' = transmitEvent cfg p tx buf ret) :
    frameBit data u = Std_BitGet buf u := by
  simp only [transmitEvent, ComEvent.transmit.injEq] at h
  rw [h.2.2.1, frameBit_take (updateBit_lt hwf hp hU)]

/-- A frame for an I-PDU that is not received keeps its buffer. -/
theorem Com_RxIndication_pduData_of_tx (hrx : (cfg.IPduConfigs p).rxConfig = none) (q : Nat)
    (PduInfo : PduInfoType) (s : ComState) :
    (Com_RxIndication cfg q PduInfo s).1.pduData p = s.pduData p := by
  by_cases hq : q = p
  · subst hq
    unfold Com_RxIndication
    split <;> simp [hrx]
  · obtain ⟨m, t, e⟩ := Com_RxIndication_state cfg q PduInfo s
    simp [e, Ne.symm hq]

/-- A TX tick hands PduR `p`'s buffer as it was, and clears bit `u` when PduR accepts the
transmission. -/
theorem Com_MainFunctionTx_updateBit (hwf : cfg.WellFormed) (hp : p < cfg.numOfIPdus)
    {tx : Com_IPduTxConfigType} (htx : (cfg.IPduConfigs p).txConfig = some tx)
    (hU : UpdateBitOf cfg p u) (res : Nat → Std_ReturnType) (s : ComState) :
    (∀ TxPduId data ret,
      ComEvent.transmit p TxPduId data ret ∈ (Com_MainFunctionTx cfg res s).2 →
        frameBit data u = Std_BitGet (s.pduData p) u) ∧
    Std_BitGet ((Com_MainFunctionTx cfg res s).1.pduData p) u =
      if s.active cfg p ∧ s.txTimer p = 1 ∧ res p = .E_OK then false
      else Std_BitGet (s.pduData p) u := by
  obtain ⟨hV, hE⟩ := Com_MainFunctionTx_at hwf res hp s
  rw [show (Com_MainFunctionTx cfg res s).1.pduData p =
      (ipduMainFunctionTx cfg (res p) p s).1.pduData p from congrArg (fun v => v.2.2.2.2) hV]
  constructor
  · intro TxPduId data ret hmem
    have hmem' :
        ComEvent.transmit p TxPduId data ret ∈ eventsOf p (Com_MainFunctionTx cfg res s).2 :=
      mem_eventsOf.2 ⟨hmem, rfl⟩
    rw [hE, ipduMainFunctionTx_eq, htx] at hmem'
    dsimp only at hmem'
    split at hmem'
    · exact frameBit_transmitEvent hwf hp hU (List.mem_singleton.1 hmem')
    · simp at hmem'
  · rw [ipduMainFunctionTx_eq, htx]
    dsimp only
    by_cases hfire : s.active cfg p ∧ s.txTimer p = 1
    · by_cases hok : res p = .E_OK
      · have hany : ((cfg.IPduConfigs p).signals.any
            fun j => (cfg.SignalConfigs j).updatePos == some u) = true := by
          obtain ⟨j, hj, hju⟩ := hU.announced
          exact List.any_eq_true.2 ⟨j, hj, by simp [hju]⟩
        simp only [if_pos hfire, if_pos hok, if_pos (And.intro hfire.1 (And.intro hfire.2 hok))]
        rw [comTxClearUpdateBit_pduData_self hwf hp, Std_BitGet_foldl_clearUpdateBit, hany]
        simp
      · simp [hfire, hok]
    · simp only [if_neg hfire, if_neg fun h : _ ∧ _ ∧ _ => hfire ⟨h.1, h.2.1⟩]
      simp

/-- The step lemma: every step keeps bit `u` of `p`'s buffer equal to the pending announcement,
and every transmission of `p` hands PduR that bit. -/
theorem txUpdateBit_step (hwf : cfg.WellFormed) (hp : p < cfg.numOfIPdus)
    {tx : Com_IPduTxConfigType} (htx : (cfg.IPduConfigs p).txConfig = some tx)
    (hU : UpdateBitOf cfg p u) {s : ComState} {op : ComOp} {r : ComState × List ComEvent}
    (h : op.step cfg s = some r) :
    TxUpdateBitLaw p u (Std_BitGet (s.pduData p) u) ⟨s, op, r.1, r.2⟩ ∧
      Std_BitGet (r.1.pduData p) u =
        pendingTxUpdate cfg p u ⟨s, op, r.1, r.2⟩ (Std_BitGet (s.pduData p) u) := by
  have hrx : (cfg.IPduConfigs p).rxConfig = none :=
    (hwf.direction p hp).resolve_right (by simp [htx])
  cases op with
  | triggerIPDUSend q ret =>
    obtain rfl := Option.some.inj h
    obtain ⟨t, e⟩ := Com_TriggerIPDUSend_state cfg q ret s
    refine ⟨fun TxPduId data ret' hm => ?_, by rw [e]; rfl⟩
    obtain ⟨hq, -⟩ := Com_TriggerIPDUSend_events cfg q ret s _ hm
    obtain rfl : p = q := hq
    rw [Com_TriggerIPDUSend_of_tx hp htx] at hm
    split at hm
    · exact frameBit_transmitEvent hwf hp hU (List.mem_singleton.1 hm)
    · simp at hm
  | rxIndication q PduInfo =>
    obtain rfl := Option.some.inj h
    exact ⟨txUpdateBitLaw_of_not_transmit fun e he => by
        rw [Com_RxIndication_events cfg q PduInfo s e he]; rfl,
      by rw [Com_RxIndication_pduData_of_tx hrx]; rfl⟩
  | mainFunctionRx =>
    obtain rfl := Option.some.inj h
    exact ⟨txUpdateBitLaw_of_not_transmit (Com_MainFunctionRx_events s),
      by rw [Com_MainFunctionRx_pduData]; rfl⟩
  | mainFunctionTx res =>
    obtain rfl := Option.some.inj h
    exact Com_MainFunctionTx_updateBit hwf hp htx hU res s
  | mainFunction res =>
    obtain rfl := Option.some.inj h
    obtain ⟨hlaw, hbit⟩ :=
      Com_MainFunctionTx_updateBit hwf hp htx hU res (Com_MainFunctionRx cfg s).1
    simp only [Com_MainFunctionRx_pduData, ComState.active, Com_MainFunctionRx_GroupStatus,
      Com_MainFunctionRx_txTimer] at hlaw hbit
    refine ⟨fun TxPduId data ret hm => ?_, hbit⟩
    rcases List.mem_append.1 hm with hm | hm
    · simpa [ComEvent.isTransmit] using Com_MainFunctionRx_events s _ hm
    · exact hlaw TxPduId data ret hm
  | init | groupStart | groupStop | sendSignal | receiveSignal | sendSignalGroup
  | receiveSignalGroup | triggerTransmit | txConfirmation =>
    obtain ⟨hbit, hev⟩ := updateBit_step_of_local hwf hp hU
      (by simp [ComOp.isBufferCall, ComOp.isGroupCall]) h
    exact ⟨txUpdateBitLaw_of_not_transmit hev, hbit⟩

/-- The update-bit law of a sent I-PDU: for an update bit `u` of a sent I-PDU `p` that lies
outside the data of every supported signal of `p`, in every run, every buffer handed to
`PduR_ComTransmit` for `p` has `u` set exactly when the latest of the sends through `u`, the
starts with data init of a group of `p`, the receives through `u` into a destination and the
TX-tick transmissions of `p` that PduR accepted is a send or a data init (or, before any of them,
when `u` was set at the start). A triggered transmission is not among them: it keeps the bit.
A run of defined calls covers every call. -/
theorem txUpdateBit_pending (hwf : cfg.WellFormed) (hp : p < cfg.numOfIPdus)
    {tx : Com_IPduTxConfigType} (htx : (cfg.IPduConfigs p).txConfig = some tx)
    (hU : UpdateBitOf cfg p u) (s₀ : ComState) (ops : List ComOp) :
    Along (pendingTxUpdate cfg p u) (TxUpdateBitLaw p u) (Std_BitGet (s₀.pduData p) u)
        (run cfg s₀ ops) ∧
      ((∀ op ∈ ops, op.isDefined cfg) → (run cfg s₀ ops).length = ops.length) :=
  ⟨along_run (fun b s => Std_BitGet (s.pduData p) u = b)
    (fun _ _ _ _ hinv h => hinv ▸ txUpdateBit_step hwf hp htx hU h) ops _ _ rfl,
    fun h => run_length_of_defined h s₀⟩

end Transmission

/-- I-PDU 0 of the sample configuration, sent with update bit 8: a start of its group, a send
of its signal, and two triggered transmissions; the run covers the four calls. -/
theorem txUpdateBit_pending_sample :
    sampleConfig.WellFormed ∧ 0 < sampleConfig.numOfIPdus ∧
      (sampleConfig.IPduConfigs 0).txConfig = some ⟨5, 2, 0, true, true⟩ ∧
      UpdateBitOf sampleConfig 0 8 ∧
      Along (pendingTxUpdate sampleConfig 0 8) (TxUpdateBitLaw 0 8)
        (Std_BitGet (ComState.zero.pduData 0) 8)
        (run sampleConfig ComState.zero [.groupStart 0 false, .sendSignal 0 (some Mem.zero),
          .triggerIPDUSend 0 .E_OK, .triggerIPDUSend 0 .E_OK]) ∧
      (run sampleConfig ComState.zero [.groupStart 0 false, .sendSignal 0 (some Mem.zero),
        .triggerIPDUSend 0 .E_OK, .triggerIPDUSend 0 .E_OK]).length = 4 :=
  have hU : UpdateBitOf sampleConfig 0 8 := ⟨⟨0, by decide, rfl⟩, by decide⟩
  ⟨sampleConfig_wellFormed, by decide, rfl, hU,
    (@txUpdateBit_pending sampleConfig 0 8 sampleConfig_wellFormed (by decide) _ rfl hU _ _).1,
    (@txUpdateBit_pending sampleConfig 0 8 sampleConfig_wellFormed (by decide) _ rfl hU _ _).2
      (by decide)⟩

/-- `Com_TriggerIPDUSend` keeps the update bits after PduR accepts a transmission: on I-PDU 0 of
the sample configuration, after one send of signal 0, two triggered transmissions that PduR
both accepts hand it the same frame, update bit 8 set in both. -/
theorem Com_TriggerIPDUSend_keeps_updateBit :
    (run sampleConfig ComState.zero [.groupStart 0 false, .sendSignal 0 (some Mem.zero),
        .triggerIPDUSend 0 .E_OK, .triggerIPDUSend 0 .E_OK]).map (·.events) =
      [[], [], [.transmit 0 0 [0x00#8, 0x01#8] .E_OK], [.transmit 0 0 [0x00#8, 0x01#8] .E_OK]] := by
  decide

/-- The TX tick clears the bit after its accepted transmission, so a triggered transmission after
it no longer announces the update. -/
example :
    (run sampleConfig ComState.zero [.groupStart 0 false, .sendSignal 0 (some Mem.zero),
        .mainFunctionTx (fun _ => .E_OK), .mainFunctionTx (fun _ => .E_OK),
        .triggerIPDUSend 0 .E_OK]).map (·.events) =
      [[], [], [], [.transmit 0 0 [0x00#8, 0x01#8] .E_OK],
        [.transmit 0 0 [0x00#8, 0x00#8] .E_OK]] := by
  decide

end Ssas
