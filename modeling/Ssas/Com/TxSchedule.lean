-- SUMMARY: The cyclic transmission of a TX I-PDU over runs: its countdown timer refines the schedule "sent on the A-th active tick after each arming", with one-tick retries after refused transmissions.
import Ssas.Com.System

/-!
# Cyclic transmission

The schedule of a TX I-PDU `p` counts the ticks during which `p` is active from its last
arming. A group start that covers `p` arms it for `FirstTime` ticks (`CycleTime` when that is
zero); a transmission of `p`, by a tick or by `Com_TriggerIPDUSend`, arms it for `CycleTime`
ticks when PduR accepts it and for one tick when PduR refuses it. The `A`-th active tick after
an arming for `A` ticks sends `p`.

`txSchedule` keeps that schedule as `(A, e)`, with `e` the active ticks counted since the
arming. `Com.c` keeps a timer that counts down instead. `TxScheduleInv` relates the two: the
timer is what is left, `A - e`, and never zero. Every step keeps the invariant
(`txSchedule_step`), so along every run the timer of an armed `p` stays positive and a tick
sends `p` exactly when the schedule says, once, and emits nothing else for `p`
(`txSchedule_law`).
-/

namespace Ssas

section Schedule

variable (cfg : Com_ConfigType) (p : Nat) (tx : Com_IPduTxConfigType)

/-- The ticks to the next transmission after one whose result was `ret`. -/
def rearmTicks (ret : Std_ReturnType) : Nat := if ret = .E_OK then tx.CycleTime else 1

/-- The ticks to the first transmission after a group start. -/
def firstTicks : Nat := if tx.FirstTime > 0 then tx.FirstTime else tx.CycleTime

/-- The schedule of `p` after a step: `some (A, e)` once `p` is armed, with `A` the active
ticks from the last arming to the transmission it schedules and `e` those counted since. -/
def txSchedule (r : StepRecord) (σ : Option (Nat × Nat)) : Option (Nat × Nat) :=
  match r.op with
  | .groupStart g _ =>
    if g < cfg.numOfGroups ∧ (cfg.IPduConfigs p).GroupRefMask &&& 2 ^ g ≠ 0 then
      some (firstTicks tx, 0)
    else σ
  | .triggerIPDUSend q ret => if q = p ∧ r.pre.active cfg p then some (rearmTicks tx ret, 0) else σ
  | .mainFunctionTx res | .mainFunction res =>
    if r.pre.active cfg p then
      σ.map fun (A, e) => if e + 1 = A then (rearmTicks tx (res p), 0) else (A, e + 1)
    else σ
  | _ => σ

/-- The law of a step for `p`: once armed its timer is never zero, and the events of `p` in a
tick, read as transmission or not, are one transmission when `p` is active and the tick is the
`A`-th active one since the arming, and none otherwise. -/
def TxScheduleLaw (σ : Option (Nat × Nat)) (r : StepRecord) : Prop :=
  (txSchedule cfg p tx r σ ≠ none → 1 ≤ r.post.txTimer p) ∧
    (r.op.isTxTick → ∀ A e, σ = some (A, e) →
      (eventsOf p r.events).map ComEvent.isTransmit =
        if r.pre.active cfg p ∧ e + 1 = A then [true] else [])

/-- The timer holds the ticks left of the schedule. -/
def TxScheduleInv (σ : Option (Nat × Nat)) (s : ComState) : Prop :=
  ∀ A e, σ = some (A, e) → s.txTimer p + e = A ∧ e < A

end Schedule

section Proofs

variable {cfg : Com_ConfigType} {p : Nat} {tx : Com_IPduTxConfigType}

theorem TxScheduleInv.one_le {σ : Option (Nat × Nat)} {s : ComState} (hinv : TxScheduleInv p σ s)
    (hσ : σ ≠ none) : 1 ≤ s.txTimer p := by
  obtain ⟨⟨A, e⟩, rfl⟩ := Option.ne_none_iff_exists'.1 hσ
  have := hinv A e rfl
  omega

theorem TxScheduleInv.of_txTimer {σ : Option (Nat × Nat)} {s s' : ComState}
    (hinv : TxScheduleInv p σ s) (h : s'.txTimer p = s.txTimer p) : TxScheduleInv p σ s' :=
  fun A e hσ => h ▸ hinv A e hσ

/-- A fresh arming for `A ≥ 1` ticks, with the timer at `A`. -/
theorem txScheduleInv_arm {A : Nat} {s : ComState} (hA : 1 ≤ A) (h : s.txTimer p = A) :
    TxScheduleInv p (some (A, 0)) s := by
  simp only [TxScheduleInv, Option.some.injEq, Prod.mk.injEq]
  omega

/-- A TX tick on a state whose timer holds what is left of the schedule: it keeps the invariant
with the schedule counted on, and sends `p` once on the `A`-th active tick and never
otherwise. -/
theorem txTick_step (hp : p < cfg.numOfIPdus) (htx : (cfg.IPduConfigs p).txConfig = some tx)
    (hcyc : 1 ≤ tx.CycleTime) {σ : Option (Nat × Nat)} {s : ComState}
    (hinv : TxScheduleInv p σ s) (res : Nat → Std_ReturnType) :
    TxScheduleInv p (if s.active cfg p then
        σ.map fun (A, e) => if e + 1 = A then (rearmTicks tx (res p), 0) else (A, e + 1)
      else σ) (Com_MainFunctionTx cfg res s).1 ∧
      ∀ A e, σ = some (A, e) →
        (eventsOf p (Com_MainFunctionTx cfg res s).2).map ComEvent.isTransmit =
          if s.active cfg p ∧ e + 1 = A then [true] else [] := by
  obtain ⟨hT, hX⟩ := Com_MainFunctionTx_txTimer_at res hp s
  rw [ipduMainFunctionTx_txTimer_self htx] at hT
  rw [ipduMainFunctionTx_isTransmit_self htx] at hX
  refine ⟨?_, fun A e hσ => ?_⟩
  · by_cases ha : s.active cfg p
    · simp only [ha, if_true, true_and] at hT ⊢
      intro A' e' hσ'
      obtain ⟨⟨A, e⟩, hσ, heq⟩ := Option.map_eq_some'.1 hσ'
      obtain ⟨h1, h2⟩ := hinv A e hσ
      rw [hT]
      by_cases hA : e + 1 = A
      · have hr : 1 ≤ rearmTicks tx (res p) := by unfold rearmTicks; split <;> omega
        simp only [hA, if_true, Option.some.injEq, Prod.mk.injEq] at heq
        obtain ⟨rfl, rfl⟩ := heq
        rw [if_pos (by omega)]
        unfold rearmTicks at hr ⊢
        omega
      · simp only [hA, if_false, Prod.mk.injEq] at heq
        obtain ⟨rfl, rfl⟩ := heq
        rw [if_neg (by omega)]
        omega
    · simp only [ha, if_false, Bool.false_eq_true, false_and] at hT ⊢
      exact hinv.of_txTimer hT
  · have hdue : s.txTimer p = 1 ↔ e + 1 = A := by have := hinv A e hσ; omega
    rw [hX]
    simp only [hdue]

/-- The step lemma: every defined step keeps the timer in line with the schedule, and obeys the
law. -/
theorem txSchedule_step (hp : p < cfg.numOfIPdus) (hrx : (cfg.IPduConfigs p).rxConfig = none)
    (htx : (cfg.IPduConfigs p).txConfig = some tx) (hcyc : 1 ≤ tx.CycleTime)
    {σ : Option (Nat × Nat)} {s : ComState} {op : ComOp} {r : ComState × List ComEvent}
    (hinv : TxScheduleInv p σ s) (h : op.step cfg s = some r) :
    TxScheduleLaw cfg p tx σ ⟨s, op, r.1, r.2⟩ ∧
      TxScheduleInv p (txSchedule cfg p tx ⟨s, op, r.1, r.2⟩ σ) r.1 := by
  suffices hnew : TxScheduleInv p (txSchedule cfg p tx ⟨s, op, r.1, r.2⟩ σ) r.1 ∧
      (op.isTxTick → ∀ A e, σ = some (A, e) →
        (eventsOf p r.2).map ComEvent.isTransmit =
          if s.active cfg p ∧ e + 1 = A then [true] else []) from
    ⟨⟨hnew.1.one_le, hnew.2⟩, hnew.1⟩
  cases hb : op.isBufferCall
  · cases op with
    | init =>
      obtain rfl := Option.some.inj h
      exact ⟨hinv.of_txTimer rfl, by simp [ComOp.isTxTick]⟩
    | groupStart g d =>
      obtain ⟨s', hs', rfl⟩ := Option.map_eq_some'.1 h
      refine ⟨?_, by simp [ComOp.isTxTick]⟩
      have hT := Com_IpduGroupStart_txTimer hs' hp hrx htx
      simp only [txSchedule]
      split
      · rw [if_pos ‹_›] at hT
        exact txScheduleInv_arm (by unfold firstTicks; split <;> omega) hT
      · rw [if_neg ‹_›] at hT
        exact hinv.of_txTimer hT
    | groupStop g =>
      obtain ⟨s', hs', rfl⟩ := Option.map_eq_some'.1 h
      exact ⟨hinv.of_txTimer (congrArg (·.txTimer p) (Com_IpduGroupStop_eq hs')),
        by simp [ComOp.isTxTick]⟩
    | triggerIPDUSend q ret =>
      obtain rfl := Option.some.inj h
      refine ⟨?_, by simp [ComOp.isTxTick]⟩
      simp only [txSchedule]
      by_cases hq : q = p
      · subst hq
        rw [Com_TriggerIPDUSend_of_tx hp htx]
        by_cases ha : s.active cfg q
        · simp only [ha, and_self, if_true]
          exact txScheduleInv_arm (by unfold rearmTicks; split <;> omega) (by simp [rearmTicks])
        · simp only [ha, and_false, if_false, Bool.false_eq_true]
          exact hinv
      · obtain ⟨t, e⟩ := Com_TriggerIPDUSend_state cfg q ret s
        rw [if_neg (by simp [hq]), e]
        exact hinv.of_txTimer (by simp [Ne.symm hq])
    | rxIndication q info =>
      obtain rfl := Option.some.inj h
      obtain ⟨m, t, e⟩ := Com_RxIndication_state cfg q info s
      exact ⟨hinv.of_txTimer (by simp [e]), by simp [ComOp.isTxTick]⟩
    | mainFunctionRx =>
      obtain rfl := Option.some.inj h
      exact ⟨hinv.of_txTimer (by simp), by simp [ComOp.isTxTick]⟩
    | mainFunctionTx res =>
      obtain rfl := Option.some.inj h
      obtain ⟨h1, h2⟩ := txTick_step hp htx hcyc hinv res
      exact ⟨h1, fun _ => h2⟩
    | mainFunction res =>
      obtain rfl := Option.some.inj h
      have hrx' : TxScheduleInv p σ (Com_MainFunctionRx cfg s).1 := hinv.of_txTimer (by simp)
      have ha : (Com_MainFunctionRx cfg s).1.active cfg p = s.active cfg p := by
        simp [ComState.active]
      obtain ⟨h1, h2⟩ := txTick_step hp htx hcyc hrx' res
      rw [ha] at h1 h2
      have hnone : eventsOf p (Com_MainFunctionRx cfg s).2 = [] := by
        simp [(Com_MainFunctionRx_at hp s).2, ipduMainFunctionRx_eq, hrx]
      refine ⟨h1, fun _ A e hσ => ?_⟩
      rw [← h2 A e hσ, Com_MainFunction, eventsOf_append, hnone, List.nil_append]
    | _ => cases hb
  · have hσ : txSchedule cfg p tx ⟨s, op, r.1, r.2⟩ σ = σ := by
      cases op <;> first | rfl | cases hb
    have htick : op.isTxTick = false := by
      cases op <;> first | rfl | cases hb
    rw [hσ]
    exact ⟨hinv.of_txTimer (step_frame (·.txTimer p) (fun _ _ _ => rfl) (fun _ _ _ => rfl) hb h),
      by simp [htick]⟩

/-- The schedule law of a TX I-PDU: along every run, from any state, once `p` is armed its
timer is never zero after a step, and a tick sends `p` exactly when `p` is active during it and
it is the `A`-th tick with `p` active since `p`'s last arming, then once, with no other event of
`p`; and a run of defined calls covers every call. -/
theorem txSchedule_law (hp : p < cfg.numOfIPdus) (hrx : (cfg.IPduConfigs p).rxConfig = none)
    (htx : (cfg.IPduConfigs p).txConfig = some tx) (hcyc : 1 ≤ tx.CycleTime) (s₀ : ComState)
    (ops : List ComOp) :
    Along (txSchedule cfg p tx) (TxScheduleLaw cfg p tx) none (run cfg s₀ ops) ∧
      ((∀ op ∈ ops, op.isDefined cfg) → (run cfg s₀ ops).length = ops.length) :=
  ⟨along_run (TxScheduleInv p) (fun _ _ _ _ hinv h => txSchedule_step hp hrx htx hcyc hinv h) ops
    none s₀ (fun _ _ h => by cases h), fun h => run_length_of_defined h s₀⟩

/-- I-PDU 0 of the sample configuration, over a group start and two ticks, all covered. -/
theorem txSchedule_law_sample :
    0 < sampleConfig.numOfIPdus ∧ (sampleConfig.IPduConfigs 0).rxConfig = none ∧
      (sampleConfig.IPduConfigs 0).txConfig = some ⟨5, 2, 0, true, true⟩ ∧
      1 ≤ (⟨5, 2, 0, true, true⟩ : Com_IPduTxConfigType).CycleTime ∧
      Along (txSchedule sampleConfig 0 ⟨5, 2, 0, true, true⟩)
        (TxScheduleLaw sampleConfig 0 ⟨5, 2, 0, true, true⟩) none
        (run sampleConfig ComState.zero
          [.groupStart 0 false, .mainFunction fun _ => .E_OK, .mainFunction fun _ => .E_OK]) ∧
      (run sampleConfig ComState.zero
        [.groupStart 0 false, .mainFunction fun _ => .E_OK, .mainFunction fun _ => .E_OK]).length = 3 :=
  ⟨by decide, rfl, rfl, by decide, (txSchedule_law (by decide) rfl rfl (by decide) _ _).1,
    (@txSchedule_law sampleConfig 0 _ (by decide) rfl rfl (by decide) _ _).2 (by decide)⟩

/-- With every transmission accepted, I-PDU 0 of the sample configuration is sent on the
second tick after its group starts and then every fifth. -/
example :
    (run sampleConfig ComState.zero
        (.groupStart 0 false :: List.replicate 7 (.mainFunction fun _ => .E_OK))).map
      (·.events.any ComEvent.isTransmit) =
      [false, false, true, false, false, false, false, true] := by
  decide

end Proofs

end Ssas
