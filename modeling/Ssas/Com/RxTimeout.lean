-- SUMMARY: The reception timeout of an RX I-PDU over runs: its countdown timer refines the schedule "the timeout fires on the A-th active tick after each arming", so it fires at most once per arming.
import Ssas.Com.System

/-!
# Reception timeout

The timeout of an RX I-PDU `p` counts the ticks during which `p` is active from its last
arming. A group start that covers `p` arms it for `FirstTimeout` ticks (`Timeout` when that is
zero), and a frame accepted for `p` (while `p` is active and at least `length` bytes long) for
`Timeout` ticks. The `A`-th active tick after an arming for `A > 0` ticks calls `p`'s
`RxTOut` callback; nothing else calls it, and an arming for zero ticks never fires.

`rxSchedule` keeps `(A, e)`, with `e` the active ticks counted since the arming; the timer of
`Com.c` holds `A - e`, stopping at zero, and is zero before the first arming. Every step keeps
that relation (`rxSchedule_step`), from which the callback fires exactly as the schedule says,
once on the tick it fires (`rxTimeout_law`). A run starts from a state whose timer of `p` is zero, as static storage
starts: a timer running before any arming would fire with no arming to count from.
-/

namespace Ssas

section Schedule

variable (cfg : Com_ConfigType) (p : Nat) (rx : Com_IPduRxConfigType)

/-- The ticks to the timeout after a group start. -/
def firstTimeoutTicks : Nat := if rx.FirstTimeout > 0 then rx.FirstTimeout else rx.Timeout

/-- The schedule of `p`'s timeout after a step: `some (A, e)` once `p` is armed, with `A` the
active ticks from the last arming to the timeout and `e` those counted since. -/
def rxSchedule (r : StepRecord) (σ : Option (Nat × Nat)) : Option (Nat × Nat) :=
  match r.op with
  | .groupStart g _ =>
    if g < cfg.numOfGroups ∧ (cfg.IPduConfigs p).GroupRefMask &&& 2 ^ g ≠ 0 then
      some (firstTimeoutTicks rx, 0)
    else σ
  | .rxIndication q info =>
    if q = p ∧ r.pre.active cfg p ∧ (cfg.IPduConfigs p).length ≤ info.SduLength then
      some (rx.Timeout, 0)
    else σ
  | .mainFunctionRx | .mainFunction _ =>
    if r.pre.active cfg p then σ.map fun (A, e) => (A, e + 1) else σ
  | _ => σ

/-- The law of a step for `p`: it calls `p`'s timeout callback exactly when it is a tick during
which `p` is active, `p` has the callback, and the tick is the `A`-th active one since the
arming; and it calls it at most once. -/
def RxTimeoutLaw (σ : Option (Nat × Nat)) (r : StepRecord) : Prop :=
  (ComEvent.rxTimeout p ∈ r.events ↔
    r.op.isRxTick ∧ rx.RxTOut ∧ r.pre.active cfg p ∧ ∃ A e, σ = some (A, e) ∧ e + 1 = A) ∧
    r.events.count (.rxTimeout p) ≤ 1

/-- The timer holds the ticks left of the schedule, and zero before the first arming. -/
def RxTimeoutInv (σ : Option (Nat × Nat)) (s : ComState) : Prop :=
  s.rxTimer p = (σ.map fun (A, e) => A - e).getD 0

end Schedule

section Proofs

variable {cfg : Com_ConfigType} {p : Nat} {rx : Com_IPduRxConfigType}

theorem RxTimeoutInv.of_rxTimer {σ : Option (Nat × Nat)} {s s' : ComState}
    (hinv : RxTimeoutInv p σ s) (h : s'.rxTimer p = s.rxTimer p) : RxTimeoutInv p σ s' :=
  h.trans hinv

/-- The timer is one exactly on the last tick of an armed schedule. -/
theorem RxTimeoutInv.rxTimer_eq_one {σ : Option (Nat × Nat)} {s : ComState}
    (hinv : RxTimeoutInv p σ s) : s.rxTimer p = 1 ↔ ∃ A e, σ = some (A, e) ∧ e + 1 = A := by
  rw [hinv]
  cases σ with
  | none => simp
  | some a =>
    obtain ⟨A, e⟩ := a
    simp only [Option.map_some', Option.getD_some, Option.some.injEq, Prod.mk.injEq]
    constructor
    · intro h
      exact ⟨A, e, ⟨rfl, rfl⟩, by omega⟩
    · rintro ⟨A', e', ⟨rfl, rfl⟩, rfl⟩
      omega

/-- An RX tick on a state whose timer holds what is left of the schedule: it keeps the relation
with the schedule counted on, and fires the callback exactly on the `A`-th active tick, once. -/
theorem rxTick_step (hp : p < cfg.numOfIPdus) (hrx : (cfg.IPduConfigs p).rxConfig = some rx)
    {σ : Option (Nat × Nat)} {s : ComState} (hinv : RxTimeoutInv p σ s) :
    RxTimeoutInv p (if s.active cfg p then σ.map fun (A, e) => (A, e + 1) else σ)
        (Com_MainFunctionRx cfg s).1 ∧
      (ComEvent.rxTimeout p ∈ (Com_MainFunctionRx cfg s).2 ↔
        rx.RxTOut ∧ s.active cfg p ∧ ∃ A e, σ = some (A, e) ∧ e + 1 = A) ∧
      (Com_MainFunctionRx cfg s).2.count (.rxTimeout p) ≤ 1 := by
  obtain ⟨hV, hE⟩ := Com_MainFunctionRx_at hp s
  have hT : (Com_MainFunctionRx cfg s).1.rxTimer p = (ipduMainFunctionRx cfg p s).1.rxTimer p :=
    congrArg (fun v => v.2.2.1) hV
  rw [ipduMainFunctionRx_rxTimer_self, hrx] at hT
  refine ⟨?_, ?_, ?_⟩
  · unfold RxTimeoutInv at hinv ⊢
    rw [hT]
    by_cases ha : s.active cfg p
    · cases σ with
      | none => simp_all
      | some a => obtain ⟨A, e⟩ := a; simp [ha, hinv]; omega
    · simp [ha, hinv]
  · have hmem : ComEvent.rxTimeout p ∈ (Com_MainFunctionRx cfg s).2 ↔
        ComEvent.rxTimeout p ∈ (ipduMainFunctionRx cfg p s).2 := by
      rw [← hE, mem_eventsOf]
      simp [ComEvent.pdu]
    rw [hmem, ipduMainFunctionRx_rxTimeout, hrx, hinv.rxTimer_eq_one]
    simp
  · rw [← count_eventsOf (p := p) (e := .rxTimeout p) rfl, hE, ipduMainFunctionRx_eq]
    split_ifs <;> simp

/-- The step lemma: every defined step keeps the timer in line with the schedule, and obeys the
law. -/
theorem rxSchedule_step (hp : p < cfg.numOfIPdus) (hrx : (cfg.IPduConfigs p).rxConfig = some rx)
    {σ : Option (Nat × Nat)} {s : ComState} {op : ComOp} {r : ComState × List ComEvent}
    (hinv : RxTimeoutInv p σ s) (h : op.step cfg s = some r) :
    RxTimeoutLaw cfg p rx σ ⟨s, op, r.1, r.2⟩ ∧
      RxTimeoutInv p (rxSchedule cfg p rx ⟨s, op, r.1, r.2⟩ σ) r.1 := by
  cases htick : op.isRxTick
  · have hnot := step_rxTimeout_not_mem htick h p
    have hlaw : RxTimeoutLaw cfg p rx σ ⟨s, op, r.1, r.2⟩ :=
      ⟨iff_of_false hnot (by simp [htick]), by simp [List.count_eq_zero.2 hnot]⟩
    refine ⟨hlaw, ?_⟩
    cases hb : op.isBufferCall
    · cases op with
      | init =>
        obtain rfl := Option.some.inj h
        exact hinv
      | groupStart g d =>
        obtain ⟨s', hs', rfl⟩ := Option.map_eq_some'.1 h
        have hT := Com_IpduGroupStart_rxTimer hs' hp hrx
        simp only [rxSchedule]
        split
        · rw [if_pos ‹_›] at hT
          simp [RxTimeoutInv, hT, firstTimeoutTicks]
        · rw [if_neg ‹_›] at hT
          exact hinv.of_rxTimer hT
      | groupStop g =>
        obtain ⟨s', hs', rfl⟩ := Option.map_eq_some'.1 h
        exact hinv.of_rxTimer (congrArg (·.rxTimer p) (Com_IpduGroupStop_eq hs'))
      | triggerIPDUSend q ret =>
        obtain rfl := Option.some.inj h
        obtain ⟨t, e⟩ := Com_TriggerIPDUSend_state cfg q ret s
        exact hinv.of_rxTimer (congrArg (·.rxTimer p) e)
      | rxIndication q info =>
        obtain rfl := Option.some.inj h
        simp only [rxSchedule]
        by_cases hq : q = p
        · subst hq
          rw [Com_RxIndication_of_rx hp hrx]
          by_cases hacc : s.active cfg q ∧ (cfg.IPduConfigs q).length ≤ info.SduLength
          · rw [if_pos hacc, if_pos ⟨rfl, hacc⟩]
            simp [RxTimeoutInv]
          · rw [if_neg hacc, if_neg fun h => hacc h.2]
            exact hinv
        · obtain ⟨m, t, e⟩ := Com_RxIndication_state cfg q info s
          rw [if_neg (by simp [hq]), e]
          exact hinv.of_rxTimer (by simp [Ne.symm hq])
      | mainFunctionTx res =>
        obtain rfl := Option.some.inj h
        exact hinv.of_rxTimer (congrFun (Com_MainFunctionTx_rxTimer res s) p)
      | mainFunctionRx | mainFunction => cases htick
      | _ => cases hb
    · have hσ : rxSchedule cfg p rx ⟨s, op, r.1, r.2⟩ σ = σ := by
        cases op <;> first | rfl | cases hb
      rw [hσ]
      exact hinv.of_rxTimer (step_frame (·.rxTimer p) (fun _ _ _ => rfl) (fun _ _ _ => rfl) hb h)
  · cases op with
    | mainFunctionRx =>
      obtain rfl := Option.some.inj h
      obtain ⟨h1, h2⟩ := rxTick_step hp hrx hinv
      exact ⟨by simpa [RxTimeoutLaw, ComOp.isRxTick] using h2, h1⟩
    | mainFunction res =>
      obtain rfl := Option.some.inj h
      obtain ⟨h1, h2⟩ := rxTick_step hp hrx hinv
      refine ⟨?_, ?_⟩
      · have hnot :
            ComEvent.rxTimeout p ∉ (Com_MainFunctionTx cfg res (Com_MainFunctionRx cfg s).1).2 :=
          fun hm => by simpa [ComEvent.isTransmit] using Com_MainFunctionTx_events res _ _ hm
        simpa [RxTimeoutLaw, ComOp.isRxTick, Com_MainFunction, hnot, List.count_eq_zero.2 hnot]
          using h2
      · exact h1.of_rxTimer (congrFun (Com_MainFunctionTx_rxTimer res _) p)
    | _ => cases htick

/-- The timeout law of an RX I-PDU: along every run from a state where `p`'s timer is zero,
`p`'s timeout callback is called exactly on the ticks during which `p` is active and which are
the `A`-th tick with `p` active since `p`'s last arming, once on each; and a run of defined
calls covers every call. -/
theorem rxTimeout_law (hp : p < cfg.numOfIPdus) (hrx : (cfg.IPduConfigs p).rxConfig = some rx)
    (s₀ : ComState) (hs₀ : s₀.rxTimer p = 0) (ops : List ComOp) :
    Along (rxSchedule cfg p rx) (RxTimeoutLaw cfg p rx) none (run cfg s₀ ops) ∧
      ((∀ op ∈ ops, op.isDefined cfg) → (run cfg s₀ ops).length = ops.length) :=
  ⟨along_run (RxTimeoutInv p) (fun _ _ _ _ hinv h => rxSchedule_step hp hrx hinv h) ops none s₀
    hs₀, fun h => run_length_of_defined h s₀⟩

/-- I-PDU 1 of the sample configuration, over a group start and three ticks, all covered. -/
theorem rxTimeout_law_sample :
    1 < sampleConfig.numOfIPdus ∧ (sampleConfig.IPduConfigs 1).rxConfig = some ⟨3, 0, true, true⟩ ∧
      ComState.zero.rxTimer 1 = 0 ∧
      Along (rxSchedule sampleConfig 1 ⟨3, 0, true, true⟩)
        (RxTimeoutLaw sampleConfig 1 ⟨3, 0, true, true⟩) none
        (run sampleConfig ComState.zero
          [.groupStart 1 false, .mainFunctionRx, .mainFunctionRx, .mainFunctionRx]) ∧
      (run sampleConfig ComState.zero
        [.groupStart 1 false, .mainFunctionRx, .mainFunctionRx, .mainFunctionRx]).length = 4 :=
  ⟨by decide, rfl, rfl, (rxTimeout_law (by decide) rfl _ rfl _).1,
    (@rxTimeout_law sampleConfig 1 _ (by decide) rfl _ rfl _).2 (by decide)⟩

/-- With no frame received, the timeout of I-PDU 1 of the sample configuration fires on the
third tick after its group starts, and then stays quiet. -/
example :
    (run sampleConfig ComState.zero (.groupStart 1 false :: List.replicate 5 .mainFunctionRx)).map
      (fun r => decide (ComEvent.rxTimeout 1 ∈ r.events)) =
      [false, false, false, true, false, false] := by
  decide

end Proofs

end Ssas
