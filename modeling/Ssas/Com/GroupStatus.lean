-- SUMMARY: The group bitmap over runs: bit g is set exactly when g is a configured group whose latest Com_Init, start or stop call was a start, once the int shift that selects a group's bit is defined for every group.
import Ssas.Com.System

/-!
# The group bitmap over runs

`Com_IpduGroupStart` and `Com_IpduGroupStop` set and clear bit `1 << IpduGroupId` of
`GroupStatus`; `Com_Init` clears them all. Tracking, per group, whether its latest call among
`Com_Init`, a start and a stop was a start, bit `g` is set exactly for the configured groups
whose latest call was a start, as long as every configured group's bit fits `GroupStatus`.

The bit is an `int` shift, defined only up to group 30: in a configuration of 32 groups,
starting group 31 is undefined behaviour. With at most 31 groups every group call is defined.
-/

namespace Ssas

/-- For each group `g`, whether the latest among `Com_Init`, `Com_IpduGroupStart(g, _)` and
`Com_IpduGroupStop(g)` up to and including the step was a start. -/
def latestIsStart (r : StepRecord) (a : Nat → Bool) : Nat → Bool :=
  match r.op with
  | .init => fun _ => false
  | .groupStart g _ => Function.update a g true
  | .groupStop g => Function.update a g false
  | _ => a

/-- The bitmap holds the configured groups whose latest call was a start. -/
def GroupStatusInv (cfg : Com_ConfigType) (a : Nat → Bool) (s : ComState) : Prop :=
  ∀ g, s.GroupStatus.testBit g = (decide (g < cfg.numOfGroups) && a g)

/-- The law of a step: after it, the bitmap holds the configured groups whose latest call was a
start. -/
def GroupStatusLaw (cfg : Com_ConfigType) (a : Nat → Bool) (r : StepRecord) : Prop :=
  GroupStatusInv cfg (latestIsStart r a) r.post

section Runs

variable {cfg : Com_ConfigType}

/-- A group call is defined when every configured group's bit fits an `int`. -/
theorem groupCall_defined (hg : cfg.numOfGroups ≤ 31) {op : ComOp} (hop : op.isGroupCall)
    (s : ComState) : op.step cfg s ≠ none := by
  refine Option.ne_none_iff_isSome.2 ((step_isSome op s).trans ?_)
  cases op with
  | init => rfl
  | groupStart g | groupStop g => simp only [ComOp.isDefined, decide_eq_true_eq]; omega
  | _ => cases hop

/-- The step lemma: every step keeps the bitmap in line with the latest calls. -/
theorem groupStatusInv_step (hw : cfg.numOfGroups ≤ cfg.GroupStatusWidth) {a : Nat → Bool}
    {s : ComState} {op : ComOp} {r : ComState × List ComEvent} (hinv : GroupStatusInv cfg a s)
    (h : op.step cfg s = some r) : GroupStatusInv cfg (latestIsStart ⟨s, op, r.1, r.2⟩ a) r.1 := by
  intro g'
  cases hop : op.isGroupCall
  · have hla : latestIsStart ⟨s, op, r.1, r.2⟩ a = a := by
      cases op <;> first | rfl | cases hop
    rw [hla, step_GroupStatus hop h, hinv g']
  · cases op with
    | init =>
      obtain rfl := Option.some.inj h
      simp [latestIsStart, Com_Init]
    | groupStart g d =>
      obtain ⟨s', hs', rfl⟩ := Option.map_eq_some'.1 h
      simp only [Com_IpduGroupStart_GroupStatus hs', latestIsStart, Function.update_apply]
      split
      · rw [testBit_setGroupStatusBit, hinv g']
        by_cases hgg : g' = g <;> by_cases hlt : g' < cfg.numOfGroups <;> simp [hgg, hlt] <;> omega
      · rw [hinv g']
        by_cases hgg : g' = g <;> simp_all
    | groupStop g =>
      obtain ⟨s', hs', rfl⟩ := Option.map_eq_some'.1 h
      simp only [Com_IpduGroupStop_GroupStatus hs', latestIsStart, Function.update_apply]
      split
      · rw [testBit_clearGroupStatusBit, hinv g']
        by_cases hgg : g' = g <;> by_cases hlt : g' < cfg.numOfGroups <;> simp [hgg, hlt]
        omega
      · rw [hinv g']
        by_cases hgg : g' = g <;> simp_all
    | _ => cases hop

/-- The group bitmap law: when every configured group's bit fits both an `int` and
`GroupStatus`, every group call is defined, and in every run from a cleared bitmap, after each
call bit `g` is set exactly when `g` is a configured group whose latest call among `Com_Init`,
a start and a stop of `g` was a start. -/
theorem groupStatus_latestIsStart (hg : cfg.numOfGroups ≤ 31)
    (hw : cfg.numOfGroups ≤ cfg.GroupStatusWidth) (s₀ : ComState) (hs₀ : s₀.GroupStatus = 0)
    (ops : List ComOp) :
    (∀ op : ComOp, op.isGroupCall → ∀ s, op.step cfg s ≠ none) ∧
      Along latestIsStart (GroupStatusLaw cfg) (fun _ => false) (run cfg s₀ ops) :=
  ⟨fun _ hop s => groupCall_defined hg hop s,
    along_run (GroupStatusInv cfg)
      (fun _ _ _ _ hinv h => (fun h' => ⟨h', h'⟩) (groupStatusInv_step hw hinv h)) ops _ _
      (fun g => by simp [hs₀])⟩

/-- In the sample configuration, a start of group 1 with data init and a stop of group 0. -/
theorem groupStatus_latestIsStart_sample :
    sampleConfig.numOfGroups ≤ 31 ∧ sampleConfig.numOfGroups ≤ sampleConfig.GroupStatusWidth ∧
      ComState.zero.GroupStatus = 0 ∧
      ((∀ op : ComOp, op.isGroupCall → ∀ s, op.step sampleConfig s ≠ none) ∧
        Along latestIsStart (GroupStatusLaw sampleConfig) (fun _ => false)
          (run sampleConfig ComState.zero [.groupStart 1 true, .groupStop 0])) :=
  ⟨by decide, by decide, rfl, groupStatus_latestIsStart (by decide) (by decide) ComState.zero rfl _⟩

/-- The sample configuration grown to 32 groups, in a 32-bit `GroupStatus`. -/
def thirtyTwoGroupsConfig : Com_ConfigType :=
  { sampleConfig with numOfGroups := 32, GroupStatusWidth := 32 }

/-- With 32 groups, starting or stopping group 31, a configured group, shifts `1` into the sign
bit of `int`: the call is undefined. -/
theorem groupStart_thirtyTwoGroups_undefined :
    31 < thirtyTwoGroupsConfig.numOfGroups ∧
      (ComOp.groupStart 31 false).step thirtyTwoGroupsConfig ComState.zero = none ∧
      (ComOp.groupStop 31).step thirtyTwoGroupsConfig ComState.zero = none :=
  ⟨by decide, rfl, rfl⟩

end Runs

end Ssas
