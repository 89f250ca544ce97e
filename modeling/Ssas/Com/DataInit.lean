-- SUMMARY: The data init of a group start: the bits of an I-PDU buffer its signals write are a function of the init regions alone, and every other bit keeps what the history left there.
import Ssas.Com.System

/-!
# Data init of a group start

`Com_IpduGroupStart(g, TRUE)` sends every signal of each I-PDU of the group from its init
region. The bits this writes are those of the data of the supported signals and their update
bits (`InitWritten`); each of them ends up as the last signal writing it leaves it, whatever
the buffer held before, so two states with the same init regions agree on them afterwards.
Every other bit of the buffer, such as the bits between fields, keeps its value: the data init
does not clear the buffer, and what a received frame left there survives it. The init regions
are themselves state, written by `Com_ReceiveSignalGroup`.
-/

namespace Ssas

open Com_SignalConfigType

/-- Bit `q` of an I-PDU buffer is written by sending one of the signals `l`. -/
def InitWritten (cfg : Com_ConfigType) (l : List Nat) (q : Nat) : Prop :=
  ∃ j ∈ l, WritesBit (cfg.SignalConfigs j) q

section Fold

variable {cfg : Com_ConfigType} {initData : Nat → Mem}

/-- The data init keeps every bit its signals do not write. -/
theorem Std_BitGet_initFold_of_not {l : List Nat} {q : Nat} (h : ¬ InitWritten cfg l q)
    (buf : Mem) : Std_BitGet (initFold cfg initData l buf) q = Std_BitGet buf q := by
  induction l generalizing buf with
  | nil => rfl
  | cons j l ih =>
    rw [initFold_cons, ih (fun ⟨j', hj', hw⟩ => h ⟨j', by simp [hj'], hw⟩),
      Std_BitGet_comSendSignal_of_not_writesBit (fun hw => h ⟨j, by simp, hw⟩)]

/-- The data init sets every bit its signals write independently of the buffer it starts
from. -/
theorem Std_BitGet_initFold_congr {l : List Nat} {q : Nat} (h : InitWritten cfg l q)
    (buf buf' : Mem) :
    Std_BitGet (initFold cfg initData l buf) q = Std_BitGet (initFold cfg initData l buf') q := by
  induction l generalizing buf buf' with
  | nil => obtain ⟨j, hj, -⟩ := h; simp at hj
  | cons j l ih =>
    rw [initFold_cons, initFold_cons]
    by_cases hl : InitWritten cfg l q
    · exact ih hl _ _
    · obtain ⟨j', hj', hw⟩ := h
      have hjj : j' = j := by
        rcases List.mem_cons.1 hj' with rfl | hj'
        · rfl
        · exact absurd ⟨j', hj', hw⟩ hl
      subst hjj
      rw [Std_BitGet_initFold_of_not hl, Std_BitGet_initFold_of_not hl,
        Std_BitGet_comSendSignal_congr hw]

end Fold

/-- The data init of a group start depends on the init regions only: in a well-formed
configuration, for a group `g` and an I-PDU `p` of the group, a start of `g` with data init from
two states with the same init regions leaves the same bits in `p`'s buffer wherever `p`'s signals
write, and elsewhere leaves `p`'s buffer as it was. -/
theorem Com_IpduGroupStart_initWritten {cfg : Com_ConfigType} (hwf : cfg.WellFormed)
    {IpduGroupId p : Nat} (hg : IpduGroupId < cfg.numOfGroups) (hp : p < cfg.numOfIPdus)
    (hcov : (cfg.IPduConfigs p).GroupRefMask &&& 2 ^ IpduGroupId ≠ 0) {s₁ s₂ s₁' s₂' : ComState}
    (h₁ : Com_IpduGroupStart cfg IpduGroupId true s₁ = some s₁')
    (h₂ : Com_IpduGroupStart cfg IpduGroupId true s₂ = some s₂') (hinit : s₁.initData = s₂.initData)
    (q : Nat) :
    (InitWritten cfg (cfg.IPduConfigs p).signals q →
        Std_BitGet (s₁'.pduData p) q = Std_BitGet (s₂'.pduData p) q) ∧
      (¬ InitWritten cfg (cfg.IPduConfigs p).signals q →
        Std_BitGet (s₁'.pduData p) q = Std_BitGet (s₁.pduData p) q) := by
  rw [Com_IpduGroupStart_pduData hwf h₁ hp, Com_IpduGroupStart_pduData hwf h₂ hp,
    if_pos ⟨hg, hcov, rfl⟩, if_pos ⟨hg, hcov, rfl⟩, hinit]
  exact ⟨fun hw => Std_BitGet_initFold_congr hw _ _, fun hn => Std_BitGet_initFold_of_not hn _⟩

/-- The sample configuration after group 1 started and a frame for I-PDU 1 set its byte 1. -/
def framedState : ComState :=
  (Com_RxIndication sampleConfig 1 ⟨fun k => if k = 1 then 0xFF#8 else 0, 2⟩
    { ComState.zero with GroupStatus := 2 }).1

/-- Two histories of I-PDU 1 of the sample configuration, a fresh state and `framedState`, at its
update bit, bit 8. -/
theorem Com_IpduGroupStart_initWritten_sample :
    sampleConfig.WellFormed ∧ 1 < sampleConfig.numOfGroups ∧ 1 < sampleConfig.numOfIPdus ∧
      (sampleConfig.IPduConfigs 1).GroupRefMask &&& 2 ^ 1 ≠ 0 ∧
      ∃ s₁' s₂', Com_IpduGroupStart sampleConfig 1 true ComState.zero = some s₁' ∧
        Com_IpduGroupStart sampleConfig 1 true framedState = some s₂' ∧
        ComState.zero.initData = framedState.initData ∧
        (InitWritten sampleConfig (sampleConfig.IPduConfigs 1).signals 8 →
          Std_BitGet (s₁'.pduData 1) 8 = Std_BitGet (s₂'.pduData 1) 8) ∧
        (¬ InitWritten sampleConfig (sampleConfig.IPduConfigs 1).signals 8 →
          Std_BitGet (s₁'.pduData 1) 8 = Std_BitGet (ComState.zero.pduData 1) 8) :=
  ⟨sampleConfig_wellFormed, by decide, by decide, by decide, _, _, rfl, rfl, rfl,
    @Com_IpduGroupStart_initWritten sampleConfig sampleConfig_wellFormed 1 1 (by decide) (by decide)
      (by decide) ComState.zero framedState _ _ rfl rfl rfl 8⟩

/-- The data init does not clear the buffer: after a frame that set byte 1 of I-PDU 1 of the
sample configuration, a start of its group with data init leaves that byte at `0xFF`, where a
start from a fresh state leaves `0x01`, its update bit. -/
theorem Com_IpduGroupStart_init_keeps_history :
    (run sampleConfig ComState.zero [.groupStart 1 true]).getLast?.map (·.post.pduData 1 1) =
        some 0x01#8 ∧
      (run sampleConfig ComState.zero [.groupStart 1 false,
          .rxIndication 1 ⟨fun k => if k = 1 then 0xFF#8 else 0, 2⟩, .groupStart 1 true]).getLast?.map
        (·.post.pduData 1 1) = some 0xFF#8 := by
  decide

end Ssas
