-- SUMMARY: A stopped I-PDU stays stopped over every run in which no call starts one of its configured groups: no frame or callback of it, no timer move, no accepted frame, and its buffer written only through the signal API.
import Ssas.Com.System

/-!
# Stopped I-PDUs over runs

An I-PDU is stopped when none of its groups has its bit in `GroupStatus`. `Com_Init` stops every
I-PDU; `Com_IpduGroupStop` only clears bits; `Com_IpduGroupStart` sets the bit of one configured
group, which starts the I-PDU only when its `GroupRefMask` holds that bit.

So over every run from a state in which I-PDU `p` is stopped, as long as no call starts a
configured group of `p` (`ComOp.startsGroupOf`), `p` stays stopped, and every step obeys
`StoppedLaw`: Com hands PduR no frame of `p` and calls none of its callbacks, leaves its timers,
and writes its buffer only through the signal API (`stopped_run`). A reception for `p`, a
triggered send of `p` and the main functions are all turned away while it is stopped, whatever
the other I-PDUs do; PduR's own calls, `Com_TriggerTransmit` and `Com_TxConfirmation`, write no
buffer at all.
-/

namespace Ssas

/-- The call starts a configured group of I-PDU `p`. -/
def ComOp.startsGroupOf (cfg : Com_ConfigType) (p : Nat) : ComOp → Bool
  | groupStart g _ => decide (g < cfg.numOfGroups ∧ (cfg.IPduConfigs p).GroupRefMask &&& 2 ^ g ≠ 0)
  | _ => false

/-- What a step does to a stopped I-PDU `p`: it stays stopped, gets no event, keeps its timers,
and keeps its buffer unless the call is one of the signal API. -/
def StoppedLaw (cfg : Com_ConfigType) (p : Nat) (r : StepRecord) : Prop :=
  r.post.active cfg p = false ∧ eventsOf p r.events = [] ∧ r.post.rxTimer p = r.pre.rxTimer p ∧
    r.post.txTimer p = r.pre.txTimer p ∧
    (r.op.isSignalCall = false → r.post.pduData p = r.pre.pduData p)

-- ---------------------------------------------------------------------------
-- The group bitmap of a stopped I-PDU
-- ---------------------------------------------------------------------------

section Bitmap

variable {cfg : Com_ConfigType} {p : Nat}

theorem active_eq_false_iff (s : ComState) :
    s.active cfg p = false ↔ ∀ k, s.GroupStatus.testBit k → (cfg.IPduConfigs p).GroupRefMask.testBit k = false := by
  simp only [ComState.active, bne_eq_false_iff_eq]
  constructor
  · intro h k hk
    have := congrArg (·.testBit k) h
    simpa [Nat.testBit_and, hk] using this
  · intro h
    apply Nat.eq_of_testBit_eq
    intro k
    cases hk : s.GroupStatus.testBit k <;> simp [Nat.testBit_and, hk, h k]

/-- Setting the bit of a group that does not cover `p` keeps `p` stopped. -/
theorem active_setGroupStatusBit {s : ComState} (hs : s.active cfg p = false) {g : Nat}
    (hcov : (cfg.IPduConfigs p).GroupRefMask &&& 2 ^ g = 0) (w : Nat) :
    ({ s with GroupStatus := setGroupStatusBit w s.GroupStatus (2 ^ g) } : ComState).active cfg p =
      false := by
  rw [active_eq_false_iff] at hs ⊢
  intro k hk
  simp only [testBit_setGroupStatusBit, Bool.and_eq_true, decide_eq_true_eq, Bool.or_eq_true] at hk
  rcases hk.2 with hk | rfl
  · exact hs k hk
  · simpa [Nat.testBit_and] using congrArg (·.testBit k) hcov

/-- Clearing a bit keeps `p` stopped. -/
theorem active_clearGroupStatusBit {s : ComState} (hs : s.active cfg p = false) (w g : Nat) :
    ({ s with GroupStatus := clearGroupStatusBit w s.GroupStatus (2 ^ g) } : ComState).active cfg p =
      false := by
  rw [active_eq_false_iff] at hs ⊢
  intro k hk
  simp only [testBit_clearGroupStatusBit, Bool.and_eq_true, decide_eq_true_eq] at hk
  exact hs k hk.2.1

end Bitmap

-- ---------------------------------------------------------------------------
-- The calls on a stopped I-PDU
-- ---------------------------------------------------------------------------

section Calls

variable {cfg : Com_ConfigType} {p : Nat}

/-- A group start that does not cover `p` leaves `p` stopped, with its timers and buffer. -/
theorem Com_IpduGroupStart_stopped (hwf : cfg.WellFormed) (hp : p < cfg.numOfIPdus)
    {g : Nat} {doInit : Bool} (hg : ¬ (g < cfg.numOfGroups ∧ (cfg.IPduConfigs p).GroupRefMask &&& 2 ^ g ≠ 0))
    {s s' : ComState} (hs : s.active cfg p = false) (h : Com_IpduGroupStart cfg g doInit s = some s') :
    s'.active cfg p = false ∧ s'.view p = { s with GroupStatus := s'.GroupStatus }.view p := by
  unfold Com_IpduGroupStart at h
  split at h
  · next hlt =>
    have hcov : (cfg.IPduConfigs p).GroupRefMask &&& 2 ^ g = 0 := by simpa [hlt] using hg
    obtain ⟨bit, hbit, rfl⟩ := Option.map_eq_some'.1 h
    obtain ⟨-, rfl⟩ := groupBit_eq_some hbit
    have hV : (forEachIPdu (ipduGroupStart cfg (2 ^ g) doInit) (List.range cfg.numOfIPdus)
        ({ s with GroupStatus := setGroupStatusBit cfg.GroupStatusWidth s.GroupStatus (2 ^ g) } :
          ComState)).1.view p =
        ({ s with GroupStatus := setGroupStatusBit cfg.GroupStatusWidth s.GroupStatus (2 ^ g) } :
          ComState).view p :=
      forEachIPdu_frame (fun s => s.view p) (fun i hi s => by
        by_cases hip : i = p
        · subst hip; simp [ipduGroupStart, hcov]
        · exact ipduGroupStart_view_other hwf (List.mem_range.1 hi) (Ne.symm hip) s) _
    simp only [ComState.view, Prod.mk.injEq] at hV ⊢
    refine ⟨?_, trivial, hV.2⟩
    simp only [ComState.active, hV.1]
    exact active_setGroupStatusBit hs hcov _
  · cases h; exact ⟨hs, rfl⟩

/-- A triggered send of a stopped I-PDU is refused. -/
theorem Com_TriggerIPDUSend_stopped {s : ComState} (hs : s.active cfg p = false) (ret : Std_ReturnType) :
    Com_TriggerIPDUSend cfg p ret s = (.E_NOT_OK, s, []) := by
  unfold Com_TriggerIPDUSend
  split <;> [split <;> simp [hs]; rfl]

/-- A frame for a stopped I-PDU is turned away. -/
theorem Com_RxIndication_stopped {s : ComState} (hs : s.active cfg p = false) (PduInfo : PduInfoType) :
    Com_RxIndication cfg p PduInfo s = (s, []) := by
  simp only [Com_RxIndication]
  split <;> [cases (cfg.IPduConfigs p).rxConfig <;> simp [hs]; rfl]

/-- A confirmation for a stopped I-PDU calls no callback. -/
theorem Com_TxConfirmation_stopped {s : ComState} (hs : s.active cfg p = false) (result : Std_ReturnType) :
    Com_TxConfirmation cfg p result s = [] := by
  unfold Com_TxConfirmation
  split <;> [split <;> simp [hs]; rfl]

/-- An RX tick leaves a stopped I-PDU alone. -/
theorem Com_MainFunctionRx_stopped (hp : p < cfg.numOfIPdus) {s : ComState}
    (hs : s.active cfg p = false) : Untouched p s (Com_MainFunctionRx cfg s) := by
  obtain ⟨hV, hE⟩ := Com_MainFunctionRx_at hp s
  rw [ipduMainFunctionRx_inactive hs] at hV hE
  exact untouched_of_view hV hE

/-- A TX tick leaves a stopped I-PDU alone. -/
theorem Com_MainFunctionTx_stopped (hwf : cfg.WellFormed) (hp : p < cfg.numOfIPdus)
    (res : Nat → Std_ReturnType) {s : ComState} (hs : s.active cfg p = false) :
    Untouched p s (Com_MainFunctionTx cfg res s) := by
  obtain ⟨hV, hE⟩ := Com_MainFunctionTx_at hwf res hp s
  rw [ipduMainFunctionTx_inactive hs] at hV hE
  exact untouched_of_view hV hE

/-- A call for another I-PDU emits nothing for `p`. -/
theorem eventsOf_of_other {i : Nat} (hi : i ≠ p) {evs : List ComEvent} (h : ∀ e ∈ evs, e.pdu = i) :
    eventsOf p evs = [] :=
  eventsOf_of_forall_ne fun e he => (h e he).trans_ne hi

end Calls

-- ---------------------------------------------------------------------------
-- The law over runs
-- ---------------------------------------------------------------------------

section Law

variable {cfg : Com_ConfigType} {p : Nat}

/-- The step lemma: a call that starts no configured group of a stopped `p` obeys the law. -/
theorem stopped_step (hwf : cfg.WellFormed) (hp : p < cfg.numOfIPdus) {s : ComState} {op : ComOp}
    {r : ComState × List ComEvent} (hs : s.active cfg p = false)
    (hop : op.startsGroupOf cfg p = false) (h : op.step cfg s = some r) :
    StoppedLaw cfg p ⟨s, op, r.1, r.2⟩ := by
  have hact : op.isGroupCall = false → r.1.active cfg p = false := fun hg => by
    simp only [ComState.active, step_GroupStatus hg h]; exact hs
  cases op with
  | init =>
    obtain rfl := Option.some.inj h
    exact ⟨by simp [ComState.active, Com_Init], rfl, rfl, rfl, fun _ => rfl⟩
  | groupStart g d =>
    obtain ⟨s', hs', rfl⟩ := Option.map_eq_some'.1 h
    obtain ⟨ha, hV⟩ := Com_IpduGroupStart_stopped hwf hp (by simpa [ComOp.startsGroupOf] using hop) hs hs'
    simp only [ComState.view, Prod.mk.injEq] at hV
    exact ⟨ha, rfl, hV.2.2.1, hV.2.2.2.1, fun _ => hV.2.2.2.2⟩
  | groupStop g =>
    obtain ⟨s', hs', rfl⟩ := Option.map_eq_some'.1 h
    have he := Com_IpduGroupStop_eq hs'
    refine ⟨?_, rfl, by rw [he], by rw [he], fun _ => by rw [he]⟩
    rw [he, Com_IpduGroupStop_GroupStatus hs']
    split
    · exact active_clearGroupStatusBit hs _ _
    · exact hs
  | triggerIPDUSend i ret =>
    obtain rfl := Option.some.inj h
    by_cases hi : i = p
    · subst hi
      rw [Com_TriggerIPDUSend_stopped hs]
      exact ⟨hs, rfl, rfl, rfl, fun _ => rfl⟩
    · obtain ⟨t, e⟩ := Com_TriggerIPDUSend_state cfg i ret s
      refine ⟨hact rfl, eventsOf_of_other hi fun e he => (Com_TriggerIPDUSend_events cfg i ret s e he).1,
        by simp [e], by simp [e, Ne.symm hi], fun _ => by simp [e]⟩
  | rxIndication i PduInfo =>
    obtain rfl := Option.some.inj h
    by_cases hi : i = p
    · subst hi
      rw [Com_RxIndication_stopped hs]
      exact ⟨hs, rfl, rfl, rfl, fun _ => rfl⟩
    · obtain ⟨m, t, e⟩ := Com_RxIndication_state cfg i PduInfo s
      refine ⟨hact rfl, eventsOf_of_other hi fun e he => by rw [Com_RxIndication_events cfg i PduInfo s e he]; rfl,
        by simp [e, Ne.symm hi], by simp [e], fun _ => by simp [e, Ne.symm hi]⟩
  | txConfirmation i result =>
    obtain rfl := Option.some.inj h
    refine ⟨hs, ?_, rfl, rfl, fun _ => rfl⟩
    by_cases hi : i = p
    · subst hi; rw [Com_TxConfirmation_stopped hs]; rfl
    · exact eventsOf_of_other hi fun e he => by
        rcases Com_TxConfirmation_events cfg i result s e he with rfl | rfl <;> rfl
  | mainFunctionRx =>
    obtain rfl := Option.some.inj h
    obtain ⟨hb, hr, ht, he⟩ := Com_MainFunctionRx_stopped hp hs
    exact ⟨hact rfl, he, hr, ht, fun _ => hb⟩
  | mainFunctionTx res =>
    obtain rfl := Option.some.inj h
    obtain ⟨hb, hr, ht, he⟩ := Com_MainFunctionTx_stopped hwf hp res hs
    exact ⟨hact rfl, he, hr, ht, fun _ => hb⟩
  | mainFunction res =>
    obtain rfl := Option.some.inj h
    obtain ⟨hb, hr, ht, he⟩ := Com_MainFunctionRx_stopped hp hs
    have hs' : (Com_MainFunctionRx cfg s).1.active cfg p = false := by
      simp only [ComState.active, Com_MainFunctionRx_GroupStatus]; exact hs
    obtain ⟨hb', hr', ht', he'⟩ := Com_MainFunctionTx_stopped hwf hp res hs'
    refine ⟨hact rfl, ?_, hr'.trans hr, ht'.trans ht, fun _ => hb'.trans hb⟩
    simp only [Com_MainFunction, eventsOf_append, he, he', List.append_nil]
  | triggerTransmit =>
    obtain rfl := Option.some.inj h
    exact ⟨hs, rfl, rfl, rfl, fun _ => rfl⟩
  | sendSignal | receiveSignal | sendSignalGroup | receiveSignalGroup =>
    have hV := step_frame (fun s => (s.GroupStatus, s.rxTimer, s.txTimer)) (fun _ _ _ => rfl)
      (fun _ _ _ => rfl) (by rfl) h
    simp only [Prod.mk.injEq] at hV
    have hev : r.2 = [] := by
      revert h; simp only [ComOp.step]
      first
        | (intro h; obtain ⟨a, -, rfl⟩ := Option.map_eq_some'.1 h; rfl)
        | (intro h; obtain rfl := Option.some.inj h; rfl)
    refine ⟨hact rfl, by rw [hev]; rfl,
      congrFun hV.2.1 p, congrFun hV.2.2 p, fun h => by cases h⟩

/-- The run lemma of a stopped I-PDU: in a well-formed configuration, for an I-PDU `p`, in every
run from a state in which `p` is stopped and in which no call starts a configured group of `p`,
every step keeps `p` stopped, emits nothing for `p` (no `PduR_ComTransmit` call, no callback),
keeps `p`'s timers, and keeps `p`'s buffer unless it is a call of the signal API; and a run of
defined calls covers every call. -/
theorem stopped_run (hwf : cfg.WellFormed) (hp : p < cfg.numOfIPdus) (ops : List ComOp)
    (hops : ∀ op ∈ ops, op.startsGroupOf cfg p = false) :
    ∀ (s : ComState), s.active cfg p = false →
      (∀ r ∈ run cfg s ops, StoppedLaw cfg p r) ∧
        ((∀ op ∈ ops, op.isDefined cfg) → (run cfg s ops).length = ops.length) := by
  refine fun s hs => ⟨?_, fun h => run_length_of_defined h s⟩
  induction ops generalizing s with
  | nil => simp [run]
  | cons op ops ih =>
    simp only [run]
    split
    · next r hr =>
      have hlaw := stopped_step hwf hp hs (hops op (by simp)) hr
      intro x hx
      rcases List.mem_cons.1 hx with rfl | hx
      · exact hlaw
      · exact ih (fun o ho => hops o (by simp [ho])) r.1 hlaw.1 x hx
    · simp

/-- I-PDU 1 of the sample configuration, stopped in the zero state, through a start of group 0,
a frame for it, a main function tick, PduR's pull and confirmation of it, and a stop of its
group: all five calls are defined and the run covers them. -/
theorem stopped_run_sample :
    sampleConfig.WellFormed ∧ 1 < sampleConfig.numOfIPdus ∧
      (∀ op ∈ [ComOp.groupStart 0 true, .rxIndication 1 ⟨Mem.zero, 2⟩,
        .mainFunction fun _ => .E_OK, .triggerTransmit 1 ⟨Mem.zero, 2⟩, .groupStop 1],
        op.startsGroupOf sampleConfig 1 = false) ∧
      ComState.zero.active sampleConfig 1 = false ∧
      (∀ r ∈ run sampleConfig ComState.zero [.groupStart 0 true, .rxIndication 1 ⟨Mem.zero, 2⟩,
        .mainFunction fun _ => .E_OK, .triggerTransmit 1 ⟨Mem.zero, 2⟩, .groupStop 1],
        StoppedLaw sampleConfig 1 r) ∧
      (run sampleConfig ComState.zero [.groupStart 0 true, .rxIndication 1 ⟨Mem.zero, 2⟩,
        .mainFunction fun _ => .E_OK, .triggerTransmit 1 ⟨Mem.zero, 2⟩, .groupStop 1]).length = 5 :=
  ⟨sampleConfig_wellFormed, by decide, by decide, rfl,
    (@stopped_run sampleConfig 1 sampleConfig_wellFormed (by decide) _ (by decide) ComState.zero rfl).1,
    (@stopped_run sampleConfig 1 sampleConfig_wellFormed (by decide) _ (by decide) ComState.zero rfl).2 (by decide)⟩

end Law

end Ssas
