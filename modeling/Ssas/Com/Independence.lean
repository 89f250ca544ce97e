-- SUMMARY: Calls of Com.c that touch disjoint parts of the state are independent: the reception and the transmission path in every interleaving, and sends of signals that share no bit in every order.
import Ssas.Com.Layout

/-!
# Independent calls

Calls of `Com.c` that read and write disjoint parts of the state commute, and so a run of them
is the same in every order that keeps the order of the calls that do not. Two such families
matter to the users of the layer.

The first is the two paths below the signal API. The reception path is PduR's
`Com_RxIndication` and `Com_MainFunctionRx`; the transmission path is `Com_TriggerIPDUSend`,
PduR's `Com_TriggerTransmit` and `Com_TxConfirmation`, and `Com_MainFunctionTx`
(`ComOp.path`). A call of the reception path writes and reads only I-PDUs with an RX
configuration, besides reading the group bitmap; in a well-formed configuration, where no I-PDU
is both received and sent, a call of the transmission path writes and reads only the others
(`PathLocal`). So every interleaving of the same calls of each path ends in the same state, and
the calls of each path emit exactly what they emit when that path runs alone
(`paths_interleave`): when a reception arrives relative to the transmission schedule changes
nothing on either side. Locality is proved per I-PDU (`pathLocal_of_at`), from the lemmas that
a call writes only its I-PDU's view and reads nothing else, and the main functions' loops
inherit it pass by pass (`pathLocal_forEachIPdu`). The run lemma compares a path's calls from
two states that agree on the path (`samePath_run`); the filter lemma moves the other path's
calls out of a run (`samePath_pathCalls`).

The second is the application's sends. `Com_SendSignal` rewrites the bytes of its field with
the read-modify-write of the codec, and sets its update bit, but changes no bit it does not
write (`Com_SendSignal_bit`). So sends of signals no two of which write a common bit of a common
I-PDU leave the same state in every order (`sendSignal_perm`), even when their fields share
bytes.
-/

namespace Ssas

/-- The path of a call: `some true` for the reception path, `some false` for the transmission
path, `none` for the signal API, the group calls and `Com_MainFunction`, which runs both. -/
def ComOp.path : ComOp → Option Bool
  | .rxIndication _ _ | .mainFunctionRx => some true
  | .triggerIPDUSend _ _ | .triggerTransmit _ _ | .txConfirmation _ _ | .mainFunctionTx _ =>
    some false
  | _ => none

/-- Two states agree on path `b`: on the view of every I-PDU of the path, those with an RX
configuration for the reception path and the others for the transmission path. -/
def SamePath (cfg : Com_ConfigType) (b : Bool) (s t : ComState) : Prop :=
  ∀ p, (cfg.IPduConfigs p).rxConfig.isSome = b → s.view p = t.view p

/-- A call `f` of path `b`: it keeps the view of every I-PDU off the path, and what it makes of
the path's views and what it emits depend on nothing but the path's views. -/
structure PathLocal (cfg : Com_ConfigType) (b : Bool) (f : ComState → ComState × List ComEvent) :
    Prop where
  other : ∀ s p, (cfg.IPduConfigs p).rxConfig.isSome ≠ b → (f s).1.view p = s.view p
  congr : ∀ s t, SamePath cfg b s t → SamePath cfg b (f s).1 (f t).1 ∧ (f s).2 = (f t).2

/-- The state after running `ops` from `s`, up to the first undefined step. -/
def runFinal (cfg : Com_ConfigType) : ComState → List ComOp → ComState
  | s, [] => s
  | s, op :: ops =>
    match op.step cfg s with
    | some r => runFinal cfg r.1 ops
    | none => s

/-- The calls of path `b`, in order. -/
def pathCalls (b : Bool) (ops : List ComOp) : List ComOp := ops.filter (·.path == some b)

/-- The events the calls of path `b` emit in a run, in order. -/
def pathEvents (b : Bool) (rs : List StepRecord) : List ComEvent :=
  (rs.filter (·.op.path == some b)).flatMap (·.events)

/-- Signals `i` and `j` write no common bit of a common I-PDU. -/
def SignalsDisjoint (cfg : Com_ConfigType) (i j : Nat) : Prop :=
  (cfg.SignalConfigs i).ptr.pdu = (cfg.SignalConfigs j).ptr.pdu →
    ∀ q, WritesBit (cfg.SignalConfigs i) q → ¬ WritesBit (cfg.SignalConfigs j) q

/-- The calls `Com_SendSignal(SignalId, SignalDataPtr)` of a list of signals with their
sources. -/
def sendCalls (l : List (Nat × Mem)) : List ComOp := l.map fun a => .sendSignal a.1 (some a.2)

-- ---------------------------------------------------------------------------
-- Agreeing on a path
-- ---------------------------------------------------------------------------

section SamePath

variable {cfg : Com_ConfigType} {b : Bool} {s t u : ComState}

theorem SamePath.refl (s : ComState) : SamePath cfg b s s := fun _ _ => rfl

theorem SamePath.symm (h : SamePath cfg b s t) : SamePath cfg b t s := fun p hp => (h p hp).symm

theorem SamePath.trans (h₁ : SamePath cfg b s t) (h₂ : SamePath cfg b t u) : SamePath cfg b s u :=
  fun p hp => (h₁ p hp).trans (h₂ p hp)

/-- Every I-PDU is on one of the two paths, so states that agree on both are equal. -/
theorem eq_of_samePath (h₁ : SamePath cfg true s t) (h₂ : SamePath cfg false s t) : s = t := by
  have hv : ∀ p, s.view p = t.view p := fun p => by
    cases hb : (cfg.IPduConfigs p).rxConfig.isSome
    exacts [h₂ p hb, h₁ p hb]
  obtain ⟨G, R, T, P, I⟩ := s
  obtain ⟨G', R', T', P', I'⟩ := t
  simp only [ComState.view, Prod.mk.injEq] at hv
  obtain ⟨rfl, rfl, -⟩ := hv 0
  congr <;> funext p
  exacts [(hv p).2.2.1, (hv p).2.2.2.1, (hv p).2.2.2.2]

end SamePath

-- ---------------------------------------------------------------------------
-- Calls of a path
-- ---------------------------------------------------------------------------

section Locality

variable {cfg : Com_ConfigType} {b : Bool}

/-- A call that writes at most I-PDU `q`'s view, reads nothing but it, and does nothing when `q`
is off path `b`, is a call of path `b`. -/
theorem pathLocal_of_at {f : ComState → ComState × List ComEvent} {q : Nat}
    (hother : ∀ s p, p ≠ q → (f s).1.view p = s.view p)
    (hlocal : ∀ s t, s.view q = t.view q → (f s).1.view q = (f t).1.view q ∧ (f s).2 = (f t).2)
    (hoff : (cfg.IPduConfigs q).rxConfig.isSome ≠ b → ∀ s, f s = (s, [])) : PathLocal cfg b f := by
  refine ⟨fun s p hp => ?_, fun s t hst => ?_⟩
  · by_cases hpq : p = q
    · subst hpq; rw [hoff hp s]
    · exact hother s p hpq
  · by_cases hq : (cfg.IPduConfigs q).rxConfig.isSome = b
    · refine ⟨fun p hp => ?_, (hlocal s t (hst q hq)).2⟩
      by_cases hpq : p = q
      · subst hpq; exact (hlocal s t (hst p hq)).1
      · rw [hother s p hpq, hother t p hpq]; exact hst p hp
    · rw [hoff hq s, hoff hq t]; exact ⟨hst, rfl⟩

/-- A loop whose passes are all calls of path `b` is one. -/
theorem pathLocal_forEachIPdu {body : Nat → ComState → ComState × List ComEvent} :
    ∀ {l : List Nat}, (∀ i ∈ l, PathLocal cfg b (body i)) → PathLocal cfg b (forEachIPdu body l)
  | [], _ => ⟨fun _ _ _ => rfl, fun _ _ hst => ⟨hst, rfl⟩⟩
  | i :: l, h => by
    have hi := h i (List.mem_cons_self i l)
    have hl := pathLocal_forEachIPdu fun j hj => h j (List.mem_cons_of_mem i hj)
    refine ⟨fun s p hp => (hl.other _ p hp).trans (hi.other s p hp), fun s t hst => ?_⟩
    obtain ⟨h1, e1⟩ := hi.congr s t hst
    obtain ⟨h2, e2⟩ := hl.congr _ _ h1
    exact ⟨h2, by simp only [forEachIPdu, e1, e2]⟩

/-- A reception for an I-PDU that is out of range or has no RX configuration does nothing. -/
theorem Com_RxIndication_off {q : Nat} (h : ¬(q < cfg.numOfIPdus ∧ (cfg.IPduConfigs q).rxConfig.isSome))
    (PduInfo : PduInfoType) (s : ComState) : Com_RxIndication cfg q PduInfo s = (s, []) := by
  by_cases hq : q < cfg.numOfIPdus
  · have hrx : (cfg.IPduConfigs q).rxConfig = none := by simpa [hq] using h
    simp [Com_RxIndication, hq, hrx]
  · simp [Com_RxIndication, hq]

theorem Com_RxIndication_pathLocal (q : Nat) (PduInfo : PduInfoType) :
    PathLocal cfg true (Com_RxIndication cfg q PduInfo) := by
  refine pathLocal_of_at (q := q) (fun s p hp => ?_) (fun s t h => ?_) fun hq s =>
    Com_RxIndication_off (fun h => hq h.2) PduInfo s
  · obtain ⟨m, t, e⟩ := Com_RxIndication_state cfg q PduInfo s
    simp [e, ComState.view, hp]
  · by_cases hon : q < cfg.numOfIPdus ∧ (cfg.IPduConfigs q).rxConfig.isSome
    · obtain ⟨rx, hrx⟩ := Option.isSome_iff_exists.1 hon.2
      simp only [ComState.view, Prod.mk.injEq] at h ⊢
      obtain ⟨hG, hI, hR, hT, hP⟩ := h
      have hA : s.active cfg q = t.active cfg q := by simp only [ComState.active, hG]
      rw [Com_RxIndication_of_rx hon.1 hrx, Com_RxIndication_of_rx hon.1 hrx, hA]
      split <;> simp [hG, hI, hR, hT, hP]
    · rw [Com_RxIndication_off hon, Com_RxIndication_off hon]; exact ⟨h, rfl⟩

/-- A triggered send of an I-PDU that is out of range or has no TX configuration does
nothing. -/
theorem Com_TriggerIPDUSend_off {q : Nat}
    (h : ¬(q < cfg.numOfIPdus ∧ (cfg.IPduConfigs q).txConfig.isSome)) (ret : Std_ReturnType)
    (s : ComState) : Com_TriggerIPDUSend cfg q ret s = (.E_NOT_OK, s, []) := by
  by_cases hq : q < cfg.numOfIPdus
  · have htx : (cfg.IPduConfigs q).txConfig = none := by simpa [hq] using h
    simp [Com_TriggerIPDUSend, hq, htx]
  · simp [Com_TriggerIPDUSend, hq]

/-- In a well-formed configuration an I-PDU in range with an RX configuration has no TX one. -/
theorem not_tx_of_rx (hwf : cfg.WellFormed) {q : Nat} (hrx : (cfg.IPduConfigs q).rxConfig.isSome) :
    ¬(q < cfg.numOfIPdus ∧ (cfg.IPduConfigs q).txConfig.isSome) := fun ⟨hq, htx⟩ => by
  rcases hwf.direction q hq with h | h <;> simp [h] at hrx htx

theorem Com_TriggerIPDUSend_pathLocal (hwf : cfg.WellFormed) (q : Nat) (ret : Std_ReturnType) :
    PathLocal cfg false fun s => (Com_TriggerIPDUSend cfg q ret s).2 := by
  refine pathLocal_of_at (q := q) (fun s p hp => ?_) (fun s t h => ?_) fun hq s => by
    rw [Com_TriggerIPDUSend_off (not_tx_of_rx hwf (Bool.of_not_eq_false hq))]
  · obtain ⟨t, e⟩ := Com_TriggerIPDUSend_state cfg q ret s
    simp [e, ComState.view, hp]
  · by_cases hon : q < cfg.numOfIPdus ∧ (cfg.IPduConfigs q).txConfig.isSome
    · obtain ⟨tx, htx⟩ := Option.isSome_iff_exists.1 hon.2
      simp only [ComState.view, Prod.mk.injEq] at h ⊢
      obtain ⟨hG, hI, hR, hT, hP⟩ := h
      have hA : s.active cfg q = t.active cfg q := by simp only [ComState.active, hG]
      rw [Com_TriggerIPDUSend_of_tx hon.1 htx, Com_TriggerIPDUSend_of_tx hon.1 htx, hA]
      split <;> simp [hG, hI, hR, hT, hP]
    · rw [Com_TriggerIPDUSend_off hon, Com_TriggerIPDUSend_off hon]; exact ⟨h, rfl⟩

theorem Com_TxConfirmation_pathLocal (hwf : cfg.WellFormed) (q : Nat) (result : Std_ReturnType) :
    PathLocal cfg false fun s => (s, Com_TxConfirmation cfg q result s) := by
  refine pathLocal_of_at (q := q) (fun _ _ _ => rfl) (fun s t h => ⟨h, ?_⟩) fun hq s => ?_
  · have hG : s.GroupStatus = t.GroupStatus := congrArg Prod.fst h
    simp only [Com_TxConfirmation, ComState.active, hG]
  · have hoff := not_tx_of_rx hwf (q := q) (Bool.of_not_eq_false hq)
    by_cases hq' : q < cfg.numOfIPdus
    · have htx : (cfg.IPduConfigs q).txConfig = none := by simpa [hq'] using hoff
      simp [Com_TxConfirmation, hq', htx]
    · simp [Com_TxConfirmation, hq']

theorem Com_MainFunctionRx_pathLocal : PathLocal cfg true (Com_MainFunctionRx cfg) :=
  pathLocal_forEachIPdu fun i _ =>
    pathLocal_of_at (fun s _ hp => ipduMainFunctionRx_view_other hp s)
      (fun _ _ h => ipduMainFunctionRx_local h) fun hi s => by
        have hrx : (cfg.IPduConfigs i).rxConfig = none := by simpa using hi
        simp [ipduMainFunctionRx, hrx]

theorem Com_MainFunctionTx_pathLocal (hwf : cfg.WellFormed) (res : Nat → Std_ReturnType) :
    PathLocal cfg false (Com_MainFunctionTx cfg res) :=
  pathLocal_forEachIPdu fun i hi => by
    have hi : i < cfg.numOfIPdus := List.mem_range.1 hi
    refine pathLocal_of_at (fun s _ hp => ipduMainFunctionTx_view_other hwf hi hp (res i) s)
      (fun _ _ h => ipduMainFunctionTx_local hwf hi (res i) h) fun hrx s => ?_
    have htx : (cfg.IPduConfigs i).txConfig = none := by
      simpa [hi] using not_tx_of_rx hwf (q := i) (Bool.of_not_eq_false hrx)
    simp [ipduMainFunctionTx, htx]

/-- Every call of a path is defined and is a call of that path. -/
theorem step_pathLocal (hwf : cfg.WellFormed) {op : ComOp} (h : op.path = some b) :
    ∃ f, PathLocal cfg b f ∧ ∀ s, op.step cfg s = some (f s) := by
  cases op with
  | rxIndication q info => cases h; exact ⟨_, Com_RxIndication_pathLocal q info, fun _ => rfl⟩
  | mainFunctionRx => cases h; exact ⟨_, Com_MainFunctionRx_pathLocal, fun _ => rfl⟩
  | triggerIPDUSend q ret =>
    cases h; exact ⟨_, Com_TriggerIPDUSend_pathLocal hwf q ret, fun _ => rfl⟩
  | triggerTransmit => cases h; exact ⟨_, ⟨fun _ _ _ => rfl, fun _ _ h => ⟨h, rfl⟩⟩, fun _ => rfl⟩
  | txConfirmation q result =>
    cases h; exact ⟨_, Com_TxConfirmation_pathLocal hwf q result, fun _ => rfl⟩
  | mainFunctionTx res => cases h; exact ⟨_, Com_MainFunctionTx_pathLocal hwf res, fun _ => rfl⟩
  | _ => cases h

end Locality

-- ---------------------------------------------------------------------------
-- Interleavings
-- ---------------------------------------------------------------------------

section Interleaving

variable {cfg : Com_ConfigType}

theorem pathCalls_path {b : Bool} {ops : List ComOp} : ∀ op ∈ pathCalls b ops, op.path = some b :=
  fun op hop => by simpa [pathCalls] using (List.mem_filter.1 hop).2

/-- The run lemma: calls of path `b` from two states that agree on the path end in states that
agree on it, and emit the same events. -/
theorem samePath_run (hwf : cfg.WellFormed) {b : Bool} :
    ∀ {ops : List ComOp}, (∀ op ∈ ops, op.path = some b) → ∀ {s t : ComState},
      SamePath cfg b s t → SamePath cfg b (runFinal cfg s ops) (runFinal cfg t ops) ∧
        (run cfg s ops).flatMap (·.events) = (run cfg t ops).flatMap (·.events)
  | [], _, _, _, hst => ⟨hst, rfl⟩
  | op :: ops, hops, s, t, hst => by
    obtain ⟨f, hf, hstep⟩ := step_pathLocal hwf (hops op (List.mem_cons_self op ops))
    obtain ⟨h1, e1⟩ := hf.congr s t hst
    obtain ⟨h2, e2⟩ := samePath_run hwf (fun o ho => hops o (List.mem_cons_of_mem op ho)) h1
    simp only [runFinal, run, hstep, List.flatMap_cons]
    exact ⟨h2, by rw [e1, e2]⟩

/-- The filter lemma: on path `b`, a run of calls of both paths ends as the run of its calls
of path `b` alone, and those calls emit what they emit alone. -/
theorem samePath_pathCalls (hwf : cfg.WellFormed) (b : Bool) :
    ∀ (ops : List ComOp), (∀ op ∈ ops, op.path.isSome) → ∀ s : ComState,
      SamePath cfg b (runFinal cfg s ops) (runFinal cfg s (pathCalls b ops)) ∧
        pathEvents b (run cfg s ops) = (run cfg s (pathCalls b ops)).flatMap (·.events)
  | [], _, s => ⟨SamePath.refl s, rfl⟩
  | op :: ops, hops, s => by
    obtain ⟨c, hc⟩ := Option.isSome_iff_exists.1 (hops op (List.mem_cons_self op ops))
    obtain ⟨f, hf, hstep⟩ := step_pathLocal hwf hc
    obtain ⟨h1, e1⟩ := samePath_pathCalls hwf b ops
      (fun o ho => hops o (List.mem_cons_of_mem op ho)) (f s).1
    by_cases hcb : c = b
    · subst hcb
      simp only [pathCalls, pathEvents, List.filter_cons, hc, beq_self_eq_true, if_true, runFinal,
        run, hstep, List.flatMap_cons] at h1 e1 ⊢
      exact ⟨h1, by rw [e1]⟩
    · have hne : (some c == some b) = false := by simpa using hcb
      have hoff : SamePath cfg b (f s).1 s := fun p hp => hf.other s p (hp ▸ Ne.symm hcb)
      obtain ⟨h2, e2⟩ := samePath_run hwf pathCalls_path hoff
      simp only [pathCalls, pathEvents, List.filter_cons, hc, hne, runFinal, run, hstep,
        Bool.false_eq_true, if_false] at h1 e1 h2 e2 ⊢
      exact ⟨h1.trans h2, e1.trans e2⟩

/-- The reception and the transmission path are independent: in a well-formed configuration,
two runs of calls of the two paths from the same state in which each path makes the same calls
in the same order end in the same state, whatever the interleaving; and in each run the calls
of each path emit exactly what they emit when that path runs alone. What a call returns to its
caller is outside the result, and so is the copy `Com_TriggerTransmit` makes into PduR's
buffer, which a run does not keep: PduR's pull of an RX I-PDU through `Com_TriggerTransmit`
reads the reception path's buffer, and what it gets depends on the interleaving. -/
theorem paths_interleave (hwf : cfg.WellFormed) {ops ops' : List ComOp}
    (hops : ∀ op ∈ ops, op.path.isSome) (hops' : ∀ op ∈ ops', op.path.isSome)
    (hsame : ∀ b, pathCalls b ops = pathCalls b ops') (s : ComState) :
    runFinal cfg s ops = runFinal cfg s ops' ∧
      ∀ b, pathEvents b (run cfg s ops) = (run cfg s (pathCalls b ops)).flatMap (·.events) := by
  have hpath : ∀ b, SamePath cfg b (runFinal cfg s ops) (runFinal cfg s ops') := fun b => by
    have h' := (samePath_pathCalls hwf b ops' hops' s).1
    rw [← hsame b] at h'
    exact (samePath_pathCalls hwf b ops hops s).1.trans h'.symm
  exact ⟨eq_of_samePath (hpath true) (hpath false), fun b => (samePath_pathCalls hwf b ops hops s).2⟩

/-- A reception, a TX tick, an RX tick and a triggered send, against the TX calls first. -/
theorem paths_interleave_sample :
    let ops : List ComOp := [.rxIndication 1 ⟨fun _ => 0xFF#8, 2⟩, .mainFunctionTx fun _ => .E_OK,
      .mainFunctionRx, .triggerIPDUSend 0 .E_OK]
    let ops' : List ComOp := [.mainFunctionTx fun _ => .E_OK, .triggerIPDUSend 0 .E_OK,
      .rxIndication 1 ⟨fun _ => 0xFF#8, 2⟩, .mainFunctionRx]
    sampleConfig.WellFormed ∧ (∀ op ∈ ops, op.path.isSome) ∧ (∀ op ∈ ops', op.path.isSome) ∧
      (∀ b, pathCalls b ops = pathCalls b ops') ∧
      runFinal sampleConfig ComState.zero ops = runFinal sampleConfig ComState.zero ops' := by
  intro ops ops'
  have hops : ∀ op ∈ ops, op.path.isSome := by decide
  have hops' : ∀ op ∈ ops', op.path.isSome := by decide
  have hsame : ∀ b, pathCalls b ops = pathCalls b ops' := fun b => by cases b <;> rfl
  exact ⟨sampleConfig_wellFormed, hops, hops', hsame,
    (paths_interleave sampleConfig_wellFormed hops hops' hsame ComState.zero).1⟩

end Interleaving

-- ---------------------------------------------------------------------------
-- Sends of disjoint signals
-- ---------------------------------------------------------------------------

section Sends

variable {cfg : Com_ConfigType}

theorem SignalsDisjoint.symm {i j : Nat} (h : SignalsDisjoint cfg i j) : SignalsDisjoint cfg j i :=
  fun hp q hj hi => h hp.symm q hi hj

/-- A send with a source is always defined. -/
theorem Com_SendSignal_isSome (i : Nat) (src : Mem) (s : ComState) :
    (Com_SendSignal cfg i (some src) s).isSome := by
  unfold Com_SendSignal; split <;> rfl

/-- Two sends of disjoint signals leave the same state in either order: the buffers agree bit by
bit, since each bit is written by at most one of them, and nothing else is written. -/
theorem Com_SendSignal_swap {i j : Nat} (h : SignalsDisjoint cfg i j) {src src' : Mem}
    {s : ComState} {a b c d : Std_ReturnType × ComState}
    (ha : Com_SendSignal cfg i (some src) s = some a) (hb : Com_SendSignal cfg j (some src') a.2 = some b)
    (hc : Com_SendSignal cfg j (some src') s = some c) (hd : Com_SendSignal cfg i (some src) c.2 = some d) :
    b.2 = d.2 := by
  have hdata : b.2.pduData = d.2.pduData := funext fun p => Mem.ext_bits fun q => by
    rw [Com_SendSignal_bit hb, Com_SendSignal_bit ha, Com_SendSignal_bit hd, Com_SendSignal_bit hc]
    by_cases hi : i < cfg.numOfSignals ∧ (cfg.SignalConfigs i).ptr.pdu = p ∧
        WritesBit (cfg.SignalConfigs i) q
    · have hj : ¬(j < cfg.numOfSignals ∧ (cfg.SignalConfigs j).ptr.pdu = p ∧
          WritesBit (cfg.SignalConfigs j) q) := fun hj => h (hi.2.1.trans hj.2.1.symm) q hi.2.2 hj.2.2
      simp only [if_pos hi, if_neg hj]
    · simp only [if_neg hi]
  obtain ⟨q1, m1, e1⟩ := Com_SendSignal_state ha
  obtain ⟨q2, m2, e2⟩ := Com_SendSignal_state hb
  obtain ⟨q3, m3, e3⟩ := Com_SendSignal_state hc
  obtain ⟨q4, m4, e4⟩ := Com_SendSignal_state hd
  rw [e2, e1, e4, e3] at hdata ⊢
  simp only [ComState.setPdu] at hdata ⊢
  rw [hdata]

/-- Sends of disjoint signals commute at the head of a run. -/
theorem sendSignal_swap {i j : Nat} (h : SignalsDisjoint cfg i j) (src src' : Mem) (s : ComState)
    (ops : List ComOp) :
    runFinal cfg s (.sendSignal i (some src) :: .sendSignal j (some src') :: ops) =
      runFinal cfg s (.sendSignal j (some src') :: .sendSignal i (some src) :: ops) := by
  obtain ⟨a, ha⟩ := Option.isSome_iff_exists.1 (@Com_SendSignal_isSome cfg i src s)
  obtain ⟨b, hb⟩ := Option.isSome_iff_exists.1 (@Com_SendSignal_isSome cfg j src' a.2)
  obtain ⟨c, hc⟩ := Option.isSome_iff_exists.1 (@Com_SendSignal_isSome cfg j src' s)
  obtain ⟨d, hd⟩ := Option.isSome_iff_exists.1 (@Com_SendSignal_isSome cfg i src c.2)
  simp only [runFinal, ComOp.step, ha, hb, hc, hd, Option.map_some', Com_SendSignal_swap h ha hb hc hd]

/-- Sends of signals no two of which write a common bit of a common I-PDU, each with a source,
leave the same state in every order, even where their fields share bytes: the read-modify-write
of one send never disturbs another's bits. -/
theorem sendSignal_perm {l l' : List (Nat × Mem)} (hp : l.Perm l')
    (hdisj : l.Pairwise fun a b => SignalsDisjoint cfg a.1 b.1) (s : ComState) :
    runFinal cfg s (sendCalls l) = runFinal cfg s (sendCalls l') := by
  induction hp generalizing s with
  | nil => rfl
  | cons x _ ih =>
    obtain ⟨a, ha⟩ := Option.isSome_iff_exists.1 (@Com_SendSignal_isSome cfg x.1 x.2 s)
    simp only [sendCalls, List.map_cons, runFinal, ComOp.step, ha, Option.map_some'] at ih ⊢
    exact ih (List.pairwise_cons.1 hdisj).2 _
  | swap x y l => exact sendSignal_swap ((List.pairwise_cons.1 hdisj).1 x (List.mem_cons_self x l)) _ _ _ _
  | trans h₁ _ ih₁ ih₂ =>
    exact (ih₁ hdisj s).trans (ih₂ ((h₁.pairwise_iff SignalsDisjoint.symm).1 hdisj) s)

/-- Two 4-bit signals in the two halves of byte 0 of one I-PDU, without update bits. -/
def nibbleConfig : Com_ConfigType where
  SignalConfigs i := ⟨.COM_UINT8, .LITTLE, 4 * i, 4, ⟨0, 0⟩, i, none⟩
  numOfSignals := 2
  IPduConfigs _ := ⟨1, [0, 1], 1, none, some ⟨5, 0, 0, false, false⟩⟩
  numOfIPdus := 1
  numOfGroups := 1
  GroupStatusWidth := 8

/-- Signal 0 sent with `0xA`, then signal 1 with `0x5`. -/
def nibbleSends : List (Nat × Mem) := [(0, fun _ => 0x0A#8), (1, fun _ => 0x05#8)]

/-- The two halves of a byte, written in either order. -/
theorem sendSignal_perm_sample :
    nibbleSends.Perm nibbleSends.reverse ∧
      nibbleSends.Pairwise (fun a b => SignalsDisjoint nibbleConfig a.1 b.1) ∧
      runFinal nibbleConfig ComState.zero (sendCalls nibbleSends) =
        runFinal nibbleConfig ComState.zero (sendCalls nibbleSends.reverse) := by
  have hp : nibbleSends.Perm nibbleSends.reverse := (List.reverse_perm _).symm
  have hdisj : nibbleSends.Pairwise (fun a b => SignalsDisjoint nibbleConfig a.1 b.1) := by
    refine List.pairwise_pair.2 fun _ q h0 h1 => ?_
    simp [nibbleConfig, WritesBit, Com_SignalConfigType.inField, Com_SignalConfigType.updatePos,
      Com_SignalConfigType.supported, Com_SignalConfigType.isByteCopy, Com_SignalConfigType.loc,
      Com_SignalConfigType.bitAt, leLoc] at h0 h1
    obtain ⟨-, k, hk, rfl⟩ := h1
    omega
  exact ⟨hp, hdisj, sendSignal_perm hp hdisj _⟩

end Sends

end Ssas
