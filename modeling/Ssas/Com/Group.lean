-- SUMMARY: The I-PDU group controller of Com.c: Com_Init, Com_IpduGroupStart with its data init and timer arming, and Com_IpduGroupStop, with the int shift that selects a group's bit.
import Ssas.Com.Ipdu

/-!
# Group controller

`Com_IpduGroupStart` and `Com_IpduGroupStop` select group `IpduGroupId`'s bit with the C
expression `1 << IpduGroupId`, an `int`. It is defined only while the result is representable
in a 32-bit `int`, that is below bit 31 (C11 6.5.7); beyond, the call has undefined behaviour,
which `none` stands for. The result is then combined with `GroupStatus` at the width of
`GroupStatus`'s type: `|=` keeps the bit when it fits, and `&= ~bit` clears exactly it, since
the negative `~bit` sign-extends when that type is wider than `int`.
-/

namespace Ssas

/-- `1 << IpduGroupId` on a 32-bit `int`; `none` where it overflows. -/
def groupBit (IpduGroupId : Nat) : Option Nat :=
  if IpduGroupId < 31 then some (2 ^ IpduGroupId) else none

/-- `Com_Init(config)`. -/
def Com_Init (s : ComState) : ComState := { s with GroupStatus := 0 }

/-- The timer arming of `Com_IpduGroupStart` for I-PDU `i`: its RX timer at the first timeout,
or, for an I-PDU with no RX configuration, its TX timer at the first time. -/
def armIPduTimer (cfg : Com_ConfigType) (i : Nat) (s : ComState) : ComState :=
  match (cfg.IPduConfigs i).rxConfig, (cfg.IPduConfigs i).txConfig with
  | some rx, _ => s.setRxTimer i (if rx.FirstTimeout > 0 then rx.FirstTimeout else rx.Timeout)
  | none, some tx => s.setTxTimer i (if tx.FirstTime > 0 then tx.FirstTime else tx.CycleTime)
  | none, none => s

/-- The pass of `Com_IpduGroupStart`'s loop over I-PDU `i`: for an I-PDU of the group, the
optional data init, then the timer arming. -/
def ipduGroupStart (cfg : Com_ConfigType) (bit : Nat) (doInit : Bool) (i : Nat) (s : ComState) :
    ComState × List ComEvent :=
  let IPduConfig := cfg.IPduConfigs i
  if IPduConfig.GroupRefMask &&& bit != 0 then
    (armIPduTimer cfg i (if doInit then comIPduDataInit cfg IPduConfig s else s), [])
  else (s, [])

/-- `GroupStatus |= bit`, at the width of `GroupStatus`'s type. -/
def setGroupStatusBit (w gs bit : Nat) : Nat := (BitVec.ofNat w gs ||| BitVec.ofNat w bit).toNat

/-- `GroupStatus &= ~bit`, at the width of `GroupStatus`'s type. -/
def clearGroupStatusBit (w gs bit : Nat) : Nat := (BitVec.ofNat w gs &&& ~~~(BitVec.ofNat w bit)).toNat

/-- `Com_IpduGroupStart(IpduGroupId, initialize)`, with `doInit` for `initialize`. -/
def Com_IpduGroupStart (cfg : Com_ConfigType) (IpduGroupId : Nat) (doInit : Bool)
    (s : ComState) : Option ComState :=
  if IpduGroupId < cfg.numOfGroups then
    (groupBit IpduGroupId).map fun bit =>
      (forEachIPdu (ipduGroupStart cfg bit doInit) (List.range cfg.numOfIPdus)
        { s with GroupStatus := setGroupStatusBit cfg.GroupStatusWidth s.GroupStatus bit }).1
  else some s

/-- `Com_IpduGroupStop(IpduGroupId)`. -/
def Com_IpduGroupStop (cfg : Com_ConfigType) (IpduGroupId : Nat) (s : ComState) :
    Option ComState :=
  if IpduGroupId < cfg.numOfGroups then
    (groupBit IpduGroupId).map fun bit =>
      { s with GroupStatus := clearGroupStatusBit cfg.GroupStatusWidth s.GroupStatus bit }
  else some s

-- ---------------------------------------------------------------------------
-- The group bitmap
-- ---------------------------------------------------------------------------

theorem groupBit_eq_some {IpduGroupId bit : Nat} (h : groupBit IpduGroupId = some bit) :
    IpduGroupId < 31 ∧ bit = 2 ^ IpduGroupId := by
  unfold groupBit at h; split at h <;> simp_all

theorem testBit_setGroupStatusBit (w gs id g : Nat) :
    (setGroupStatusBit w gs (2 ^ id)).testBit g = (decide (g < w) && (gs.testBit g || decide (g = id))) := by
  simp only [setGroupStatusBit, BitVec.testBit_toNat, BitVec.getLsbD_or, BitVec.getLsbD_ofNat,
    Nat.testBit_two_pow]
  by_cases h : g < w <;> simp [h, eq_comm]

theorem testBit_clearGroupStatusBit (w gs id g : Nat) :
    (clearGroupStatusBit w gs (2 ^ id)).testBit g = (decide (g < w) && (gs.testBit g && !decide (g = id))) := by
  simp only [clearGroupStatusBit, BitVec.testBit_toNat, BitVec.getLsbD_and, BitVec.getLsbD_not,
    BitVec.getLsbD_ofNat, Nat.testBit_two_pow]
  by_cases h : g < w <;> simp [h, eq_comm]

-- ---------------------------------------------------------------------------
-- The pass over one I-PDU
-- ---------------------------------------------------------------------------

section Pass

variable {cfg : Com_ConfigType} {bit : Nat} {doInit : Bool}

@[simp] theorem armIPduTimer_GroupStatus (i : Nat) (s : ComState) :
    (armIPduTimer cfg i s).GroupStatus = s.GroupStatus := by
  unfold armIPduTimer; split <;> rfl

@[simp] theorem armIPduTimer_initData (i : Nat) (s : ComState) :
    (armIPduTimer cfg i s).initData = s.initData := by
  unfold armIPduTimer; split <;> rfl

@[simp] theorem armIPduTimer_pduData (i : Nat) (s : ComState) :
    (armIPduTimer cfg i s).pduData = s.pduData := by
  unfold armIPduTimer; split <;> rfl

theorem armIPduTimer_rxTimer_other {i p : Nat} (h : p ≠ i) (s : ComState) :
    (armIPduTimer cfg i s).rxTimer p = s.rxTimer p := by
  unfold armIPduTimer; split <;> simp [h]

theorem armIPduTimer_txTimer_other {i p : Nat} (h : p ≠ i) (s : ComState) :
    (armIPduTimer cfg i s).txTimer p = s.txTimer p := by
  unfold armIPduTimer; split <;> simp [h]

/-- The state a pass arms the timer in: after the data init if one is asked for. -/
def initIfAsked (cfg : Com_ConfigType) (doInit : Bool) (i : Nat) (s : ComState) : ComState :=
  if doInit then comIPduDataInit cfg (cfg.IPduConfigs i) s else s

/-- The pass: nothing for an I-PDU outside the group, the data init and the timer arming for
one in it; never an event. -/
theorem ipduGroupStart_eq (i : Nat) (s : ComState) :
    ipduGroupStart cfg bit doInit i s =
      (if (cfg.IPduConfigs i).GroupRefMask &&& bit = 0 then s
       else armIPduTimer cfg i (initIfAsked cfg doInit i s), []) := by
  unfold ipduGroupStart initIfAsked
  by_cases hc : (cfg.IPduConfigs i).GroupRefMask &&& bit = 0 <;> simp [hc]

@[simp] theorem initIfAsked_GroupStatus (i : Nat) (s : ComState) :
    (initIfAsked cfg doInit i s).GroupStatus = s.GroupStatus := by
  unfold initIfAsked; split <;> simp [comIPduDataInit]

@[simp] theorem initIfAsked_initData (i : Nat) (s : ComState) :
    (initIfAsked cfg doInit i s).initData = s.initData := by
  unfold initIfAsked; split <;> simp [comIPduDataInit]

@[simp] theorem initIfAsked_rxTimer (i : Nat) (s : ComState) :
    (initIfAsked cfg doInit i s).rxTimer = s.rxTimer := by
  unfold initIfAsked; split <;> simp [comIPduDataInit]

@[simp] theorem initIfAsked_txTimer (i : Nat) (s : ComState) :
    (initIfAsked cfg doInit i s).txTimer = s.txTimer := by
  unfold initIfAsked; split <;> simp [comIPduDataInit]

theorem ipduGroupStart_emitsOwn : EmitsOwn (ipduGroupStart cfg bit doInit) := by
  intro i s e he
  simp [ipduGroupStart_eq] at he

@[simp] theorem ipduGroupStart_GroupStatus (i : Nat) (s : ComState) :
    (ipduGroupStart cfg bit doInit i s).1.GroupStatus = s.GroupStatus := by
  rw [ipduGroupStart_eq]; split <;> simp

@[simp] theorem ipduGroupStart_initData (i : Nat) (s : ComState) :
    (ipduGroupStart cfg bit doInit i s).1.initData = s.initData := by
  rw [ipduGroupStart_eq]; split <;> simp

@[simp] theorem ipduGroupStart_snd (i : Nat) (s : ComState) : (ipduGroupStart cfg bit doInit i s).2 = [] := by
  rw [ipduGroupStart_eq]

theorem ipduGroupStart_rxTimer_other {i q : Nat} (h : q ≠ i) (s : ComState) :
    (ipduGroupStart cfg bit doInit i s).1.rxTimer q = s.rxTimer q := by
  rw [ipduGroupStart_eq]; split <;> simp [armIPduTimer_rxTimer_other h]

theorem ipduGroupStart_txTimer_other {i q : Nat} (h : q ≠ i) (s : ComState) :
    (ipduGroupStart cfg bit doInit i s).1.txTimer q = s.txTimer q := by
  rw [ipduGroupStart_eq]; split <;> simp [armIPduTimer_txTimer_other h]

/-- The pass over an I-PDU of the group with an RX configuration arms its RX timer at the first
timeout. -/
theorem ipduGroupStart_rxTimer_self {i : Nat} {rx : Com_IPduRxConfigType}
    (hrx : (cfg.IPduConfigs i).rxConfig = some rx) (s : ComState) :
    (ipduGroupStart cfg bit doInit i s).1.rxTimer i =
      if (cfg.IPduConfigs i).GroupRefMask &&& bit = 0 then s.rxTimer i
      else if rx.FirstTimeout > 0 then rx.FirstTimeout else rx.Timeout := by
  rw [ipduGroupStart_eq]; split <;> simp [armIPduTimer, hrx]

/-- The pass over an I-PDU of the group with only a TX configuration arms its TX timer at the
first time. -/
theorem ipduGroupStart_txTimer_self {i : Nat} {tx : Com_IPduTxConfigType}
    (hrx : (cfg.IPduConfigs i).rxConfig = none) (htx : (cfg.IPduConfigs i).txConfig = some tx)
    (s : ComState) :
    (ipduGroupStart cfg bit doInit i s).1.txTimer i =
      if (cfg.IPduConfigs i).GroupRefMask &&& bit = 0 then s.txTimer i
      else if tx.FirstTime > 0 then tx.FirstTime else tx.CycleTime := by
  rw [ipduGroupStart_eq]; split <;> simp [armIPduTimer, hrx, htx]

/-- In a well-formed configuration the pass over another I-PDU leaves `p`'s view alone. -/
theorem ipduGroupStart_view_other (hwf : cfg.WellFormed) {i p : Nat} (hi : i < cfg.numOfIPdus)
    (h : p ≠ i) (s : ComState) : (ipduGroupStart cfg bit doInit i s).1.view p = s.view p := by
  have hbuf : (initIfAsked cfg doInit i s).pduData p = s.pduData p := by
    cases doInit <;> simp [initIfAsked, comIPduDataInit_pduData_other hwf hi h]
  rw [ipduGroupStart_eq]
  split
  · rfl
  · simp [ComState.view, armIPduTimer_rxTimer_other h, armIPduTimer_txTimer_other h, hbuf]

/-- The buffer of an I-PDU after its pass: its data init, if the I-PDU is in the group and one is
asked for. -/
theorem ipduGroupStart_pduData_self (hwf : cfg.WellFormed) {i : Nat} (hi : i < cfg.numOfIPdus)
    (s : ComState) :
    (ipduGroupStart cfg bit doInit i s).1.pduData i =
      if (cfg.IPduConfigs i).GroupRefMask &&& bit ≠ 0 ∧ doInit then
        initFold cfg s.initData (cfg.IPduConfigs i).signals (s.pduData i)
      else s.pduData i := by
  rw [ipduGroupStart_eq]
  by_cases hm : (cfg.IPduConfigs i).GroupRefMask &&& bit = 0
  · simp [hm]
  · cases doInit <;> simp [hm, initIfAsked, comIPduDataInit_pduData_self hwf hi]

/-- In a well-formed configuration the pass over `p` reads nothing of the state but `p`'s
view. -/
theorem ipduGroupStart_local (hwf : cfg.WellFormed) {p : Nat} (hp : p < cfg.numOfIPdus)
    {s s' : ComState} (h : s.view p = s'.view p) :
    (ipduGroupStart cfg bit doInit p s).1.view p = (ipduGroupStart cfg bit doInit p s').1.view p ∧
      (ipduGroupStart cfg bit doInit p s).2 = (ipduGroupStart cfg bit doInit p s').2 := by
  simp only [ComState.view, Prod.mk.injEq] at h
  obtain ⟨hG, hI, hR, hT, hP⟩ := h
  refine ⟨?_, by simp⟩
  simp only [ComState.view, Prod.mk.injEq, ipduGroupStart_GroupStatus, ipduGroupStart_initData,
    ipduGroupStart_pduData_self hwf hp, hG, hI, hP, true_and]
  constructor <;> rw [ipduGroupStart_eq, ipduGroupStart_eq] <;> split
  all_goals (try unfold armIPduTimer); (try split) <;> simp [hR, hT]

end Pass

-- ---------------------------------------------------------------------------
-- Group start and stop
-- ---------------------------------------------------------------------------

/-- A group call is defined exactly when a valid id's bit fits an `int`. -/
theorem Com_IpduGroupStart_isSome (cfg : Com_ConfigType) (IpduGroupId : Nat) (doInit : Bool)
    (s : ComState) :
    (Com_IpduGroupStart cfg IpduGroupId doInit s).isSome =
      decide (IpduGroupId < cfg.numOfGroups → IpduGroupId < 31) := by
  unfold Com_IpduGroupStart groupBit
  by_cases h : IpduGroupId < cfg.numOfGroups <;> by_cases h' : IpduGroupId < 31 <;> simp [h, h']

theorem Com_IpduGroupStop_isSome (cfg : Com_ConfigType) (IpduGroupId : Nat) (s : ComState) :
    (Com_IpduGroupStop cfg IpduGroupId s).isSome =
      decide (IpduGroupId < cfg.numOfGroups → IpduGroupId < 31) := by
  unfold Com_IpduGroupStop groupBit
  by_cases h : IpduGroupId < cfg.numOfGroups <;> by_cases h' : IpduGroupId < 31 <;> simp [h, h']

/-- A group start sets its group's bit; the passes after it keep the bitmap. -/
theorem Com_IpduGroupStart_GroupStatus {cfg : Com_ConfigType} {IpduGroupId : Nat} {doInit : Bool}
    {s s' : ComState} (h : Com_IpduGroupStart cfg IpduGroupId doInit s = some s') :
    s'.GroupStatus = if IpduGroupId < cfg.numOfGroups then
      setGroupStatusBit cfg.GroupStatusWidth s.GroupStatus (2 ^ IpduGroupId) else s.GroupStatus := by
  unfold Com_IpduGroupStart at h
  split at h
  · obtain ⟨bit, hbit, rfl⟩ := Option.map_eq_some'.1 h
    rw [forEachIPdu_frame ComState.GroupStatus (fun _ _ _ => ipduGroupStart_GroupStatus _ _),
      (groupBit_eq_some hbit).2, if_pos ‹_›]
  · cases h; rw [if_neg ‹_›]

/-- A group stop clears its group's bit. -/
theorem Com_IpduGroupStop_GroupStatus {cfg : Com_ConfigType} {IpduGroupId : Nat} {s s' : ComState}
    (h : Com_IpduGroupStop cfg IpduGroupId s = some s') :
    s'.GroupStatus = if IpduGroupId < cfg.numOfGroups then
      clearGroupStatusBit cfg.GroupStatusWidth s.GroupStatus (2 ^ IpduGroupId) else s.GroupStatus := by
  unfold Com_IpduGroupStop at h
  split at h
  · obtain ⟨bit, hbit, rfl⟩ := Option.map_eq_some'.1 h
    rw [(groupBit_eq_some hbit).2, if_pos ‹_›]
  · cases h; rw [if_neg ‹_›]

/-- A group start arms the RX timer of each I-PDU of the group that has an RX configuration, and
leaves the other I-PDUs' RX timers alone. -/
theorem Com_IpduGroupStart_rxTimer {cfg : Com_ConfigType} {IpduGroupId : Nat} {doInit : Bool}
    {s s' : ComState} (h : Com_IpduGroupStart cfg IpduGroupId doInit s = some s') {p : Nat}
    (hp : p < cfg.numOfIPdus) {rx : Com_IPduRxConfigType}
    (hrx : (cfg.IPduConfigs p).rxConfig = some rx) :
    s'.rxTimer p =
      if IpduGroupId < cfg.numOfGroups ∧ (cfg.IPduConfigs p).GroupRefMask &&& 2 ^ IpduGroupId ≠ 0
      then (if rx.FirstTimeout > 0 then rx.FirstTimeout else rx.Timeout) else s.rxTimer p := by
  unfold Com_IpduGroupStart at h
  split at h
  · obtain ⟨bit, hbit, rfl⟩ := Option.map_eq_some'.1 h
    obtain ⟨-, rfl⟩ := groupBit_eq_some hbit
    rw [(forEachIPdu_at (fun s => s.rxTimer p) id ipduGroupStart_emitsOwn (List.mem_range.2 hp)
      (List.nodup_range _) (fun i _ hi s => ipduGroupStart_rxTimer_other (Ne.symm hi) s)
      (fun s s' h => by simp [ipduGroupStart_rxTimer_self hrx, h]) _).1,
      ipduGroupStart_rxTimer_self hrx]
    by_cases hm : (cfg.IPduConfigs p).GroupRefMask &&& 2 ^ IpduGroupId = 0 <;> simp [hm, *]
  · cases h; simp [*]

/-- A group start arms the TX timer of each I-PDU of the group that has only a TX configuration,
and leaves the other I-PDUs' TX timers alone. -/
theorem Com_IpduGroupStart_txTimer {cfg : Com_ConfigType} {IpduGroupId : Nat} {doInit : Bool}
    {s s' : ComState} (h : Com_IpduGroupStart cfg IpduGroupId doInit s = some s') {p : Nat}
    (hp : p < cfg.numOfIPdus) {tx : Com_IPduTxConfigType}
    (hrx : (cfg.IPduConfigs p).rxConfig = none) (htx : (cfg.IPduConfigs p).txConfig = some tx) :
    s'.txTimer p =
      if IpduGroupId < cfg.numOfGroups ∧ (cfg.IPduConfigs p).GroupRefMask &&& 2 ^ IpduGroupId ≠ 0
      then (if tx.FirstTime > 0 then tx.FirstTime else tx.CycleTime) else s.txTimer p := by
  unfold Com_IpduGroupStart at h
  split at h
  · obtain ⟨bit, hbit, rfl⟩ := Option.map_eq_some'.1 h
    obtain ⟨-, rfl⟩ := groupBit_eq_some hbit
    rw [(forEachIPdu_at (fun s => s.txTimer p) id ipduGroupStart_emitsOwn (List.mem_range.2 hp)
      (List.nodup_range _) (fun i _ hi s => ipduGroupStart_txTimer_other (Ne.symm hi) s)
      (fun s s' h => by simp [ipduGroupStart_txTimer_self hrx htx, h]) _).1,
      ipduGroupStart_txTimer_self hrx htx]
    by_cases hm : (cfg.IPduConfigs p).GroupRefMask &&& 2 ^ IpduGroupId = 0 <;> simp [hm, *]
  · cases h; simp [*]

/-- A group stop writes the group bitmap and nothing else. -/
theorem Com_IpduGroupStop_eq {cfg : Com_ConfigType} {IpduGroupId : Nat} {s s' : ComState}
    (h : Com_IpduGroupStop cfg IpduGroupId s = some s') : s' = { s with GroupStatus := s'.GroupStatus } := by
  unfold Com_IpduGroupStop at h
  split at h
  · obtain ⟨bit, -, rfl⟩ := Option.map_eq_some'.1 h
    rfl
  · cases h; rfl

/-- In a well-formed configuration a group start does to I-PDU `p`'s buffer what its pass does:
the data init, when `p` is in the group and one is asked for. -/
theorem Com_IpduGroupStart_pduData {cfg : Com_ConfigType} (hwf : cfg.WellFormed) {IpduGroupId : Nat}
    {doInit : Bool} {s s' : ComState} (h : Com_IpduGroupStart cfg IpduGroupId doInit s = some s')
    {p : Nat} (hp : p < cfg.numOfIPdus) :
    s'.pduData p =
      if IpduGroupId < cfg.numOfGroups ∧
          (cfg.IPduConfigs p).GroupRefMask &&& 2 ^ IpduGroupId ≠ 0 ∧ doInit then
        initFold cfg s.initData (cfg.IPduConfigs p).signals (s.pduData p)
      else s.pduData p := by
  unfold Com_IpduGroupStart at h
  split at h
  · obtain ⟨bit, hbit, rfl⟩ := Option.map_eq_some'.1 h
    obtain ⟨-, rfl⟩ := groupBit_eq_some hbit
    have hV := (forEachIPdu_at (fun s => s.view p) id
      (@ipduGroupStart_emitsOwn cfg (2 ^ IpduGroupId) doInit) (List.mem_range.2 hp)
      (List.nodup_range _)
      (fun i hi hip s => ipduGroupStart_view_other hwf (List.mem_range.1 hi) (Ne.symm hip) s)
      (fun s s' h => by simp [ipduGroupStart_local hwf hp h])
      { s with GroupStatus := setGroupStatusBit cfg.GroupStatusWidth s.GroupStatus (2 ^ IpduGroupId) }).1
    simp only [ComState.view, Prod.mk.injEq] at hV
    rw [hV.2.2.2.2, ipduGroupStart_pduData_self hwf hp]
    simp [*]
  · cases h; simp [*]

end Ssas
