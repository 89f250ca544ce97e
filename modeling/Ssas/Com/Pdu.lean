-- SUMMARY: The I-PDU side of Com.c: reception, triggered and cyclic transmission, confirmation, and the RX and TX main functions with their per-I-PDU passes.
import Ssas.Com.Group

/-!
# I-PDU handling and the main functions

`Com.c` is modelled as built with `COM_USE_CAN` and `COM_USE_SIGNAL_UPDATE_BIT`, where
`Com_TriggerIPDUSend`, the TX main function and the update-bit handling exist. `PduR_ComTransmit`
is an oracle that does not call back into Com: its result is an argument, one per I-PDU for a
main-function tick (each I-PDU is sent at most once per tick), and the call is recorded as a
`ComEvent.transmit` with the buffer it was handed. The callbacks are events too.

The main functions are `forEachIPdu` over the passes `ipduMainFunctionRx` and
`ipduMainFunctionTx`. `Com_MainFunctionRx_at` and `Com_MainFunctionTx_at` say that a tick does
to I-PDU `p` what the pass over `p` does; the TX one needs the configuration's promise that an
I-PDU's signals point into its own buffer, since a pass clears its signals' update bits.
-/

namespace Ssas

/-- `PduInfoType`: the frame's bytes and its length. -/
structure PduInfoType where
  SduDataPtr : Mem
  SduLength : Nat

/-- The `PduR_ComTransmit` call of I-PDU `i`, handing it the I-PDU's buffer `buf` and length. -/
def transmitEvent (cfg : Com_ConfigType) (i : Nat) (tx : Com_IPduTxConfigType) (buf : Mem)
    (ret : Std_ReturnType) : ComEvent :=
  .transmit i tx.TxPduId (buf.take (cfg.IPduConfigs i).length) ret

/-- `Com_TriggerIPDUSend(PduId)`, where `PduR_ComTransmit` returns `ret`. -/
def Com_TriggerIPDUSend (cfg : Com_ConfigType) (PduId : Nat) (ret : Std_ReturnType)
    (s : ComState) : Std_ReturnType × ComState × List ComEvent :=
  if PduId < cfg.numOfIPdus then
    match (cfg.IPduConfigs PduId).txConfig with
    | some tx =>
      if s.active cfg PduId then
        let ev := transmitEvent cfg PduId tx (s.pduData PduId) ret
        if ret = .E_OK then (.E_OK, s.setTxTimer PduId tx.CycleTime, [ev])
        else (.E_OK, s.setTxTimer PduId 1, [ev])
      else (.E_NOT_OK, s, [])
    | none => (.E_NOT_OK, s, [])
  else (.E_NOT_OK, s, [])

/-- `Com_RxIndication(RxPduId, PduInfoPtr)`. -/
def Com_RxIndication (cfg : Com_ConfigType) (RxPduId : Nat) (PduInfo : PduInfoType)
    (s : ComState) : ComState × List ComEvent :=
  if RxPduId < cfg.numOfIPdus then
    let IPduConfig := cfg.IPduConfigs RxPduId
    match IPduConfig.rxConfig with
    | some rx =>
      if s.active cfg RxPduId then
        if IPduConfig.length ≤ PduInfo.SduLength then
          let s := s.setPdu RxPduId (memcpy (s.pduData RxPduId) 0 PduInfo.SduDataPtr 0 IPduConfig.length)
          (s.setRxTimer RxPduId rx.Timeout,
           if rx.RxNotification then [.rxNotification RxPduId] else [])
        else (s, [])
      else (s, [])
    | none => (s, [])
  else (s, [])

/-- `Com_TriggerTransmit(TxPduId, PduInfoPtr)`: the return code and the caller's frame. -/
def Com_TriggerTransmit (cfg : Com_ConfigType) (TxPduId : Nat) (PduInfo : PduInfoType)
    (s : ComState) : Std_ReturnType × PduInfoType :=
  if TxPduId < cfg.numOfIPdus then
    let IPduConfig := cfg.IPduConfigs TxPduId
    if IPduConfig.length ≤ PduInfo.SduLength then
      (.E_OK, { PduInfo with
        SduDataPtr := memcpy PduInfo.SduDataPtr 0 (s.pduData TxPduId) 0 IPduConfig.length })
    else (.E_NOT_OK, PduInfo)
  else (.E_NOT_OK, PduInfo)

/-- `Com_TxConfirmation(TxPduId, result)`: the callbacks it invokes. -/
def Com_TxConfirmation (cfg : Com_ConfigType) (TxPduId : Nat) (result : Std_ReturnType)
    (s : ComState) : List ComEvent :=
  if TxPduId < cfg.numOfIPdus then
    match (cfg.IPduConfigs TxPduId).txConfig with
    | some tx =>
      if s.active cfg TxPduId then
        if result = .E_OK then (if tx.TxNotification then [.txNotification TxPduId] else [])
        else (if tx.ErrorNotification then [.errorNotification TxPduId] else [])
      else []
    | none => []
  else []

/-- The pass of `Com_MainFunctionRx`'s loop over I-PDU `i`. -/
def ipduMainFunctionRx (cfg : Com_ConfigType) (i : Nat) (s : ComState) : ComState × List ComEvent :=
  match (cfg.IPduConfigs i).rxConfig with
  | some rx =>
    if s.active cfg i then
      if s.rxTimer i > 0 then
        let timer := s.rxTimer i - 1
        (s.setRxTimer i timer,
         if timer = 0 then (if rx.RxTOut then [.rxTimeout i] else []) else [])
      else (s, [])
    else (s, [])
  | none => (s, [])

/-- The pass of `Com_MainFunctionTx`'s loop over I-PDU `i`, where `PduR_ComTransmit` returns
`ret`. -/
def ipduMainFunctionTx (cfg : Com_ConfigType) (ret : Std_ReturnType) (i : Nat) (s : ComState) :
    ComState × List ComEvent :=
  let IPduConfig := cfg.IPduConfigs i
  match IPduConfig.txConfig with
  | some tx =>
    if s.active cfg i then
      if s.txTimer i > 0 then
        let s := s.setTxTimer i (s.txTimer i - 1)
        if s.txTimer i = 0 then
          if ret = .E_OK then
            (comTxClearUpdateBit cfg IPduConfig (s.setTxTimer i tx.CycleTime),
             [transmitEvent cfg i tx (s.pduData i) ret])
          else (s.setTxTimer i 1, [transmitEvent cfg i tx (s.pduData i) ret])
        else (s, [])
      else (s, [])
    else (s, [])
  | none => (s, [])

/-- `Com_MainFunctionRx()`. -/
def Com_MainFunctionRx (cfg : Com_ConfigType) (s : ComState) : ComState × List ComEvent :=
  forEachIPdu (ipduMainFunctionRx cfg) (List.range cfg.numOfIPdus) s

/-- `Com_MainFunctionTx()`, where `PduR_ComTransmit` returns `res i` for I-PDU `i`. -/
def Com_MainFunctionTx (cfg : Com_ConfigType) (res : Nat → Std_ReturnType) (s : ComState) :
    ComState × List ComEvent :=
  forEachIPdu (fun i => ipduMainFunctionTx cfg (res i) i) (List.range cfg.numOfIPdus) s

/-- `Com_MainFunction()`. -/
def Com_MainFunction (cfg : Com_ConfigType) (res : Nat → Std_ReturnType) (s : ComState) :
    ComState × List ComEvent :=
  let r := Com_MainFunctionRx cfg s
  let r' := Com_MainFunctionTx cfg res r.1
  (r'.1, r.2 ++ r'.2)

-- ---------------------------------------------------------------------------
-- What the calls write
-- ---------------------------------------------------------------------------

/-- A triggered send writes the I-PDU's TX timer and nothing else. -/
theorem Com_TriggerIPDUSend_state (cfg : Com_ConfigType) (PduId : Nat) (ret : Std_ReturnType)
    (s : ComState) : ∃ t, (Com_TriggerIPDUSend cfg PduId ret s).2.1 = s.setTxTimer PduId t := by
  unfold Com_TriggerIPDUSend
  split
  · split
    · split
      · split
        · exact ⟨_, rfl⟩
        · exact ⟨_, rfl⟩
      · exact ⟨_, (s.setTxTimer_self _).symm⟩
    · exact ⟨_, (s.setTxTimer_self _).symm⟩
  · exact ⟨_, (s.setTxTimer_self _).symm⟩

/-- A reception writes the I-PDU's buffer and RX timer and nothing else. -/
theorem Com_RxIndication_state (cfg : Com_ConfigType) (RxPduId : Nat) (PduInfo : PduInfoType)
    (s : ComState) :
    ∃ m t, (Com_RxIndication cfg RxPduId PduInfo s).1 = (s.setPdu RxPduId m).setRxTimer RxPduId t := by
  have hself : s = (s.setPdu RxPduId (s.pduData RxPduId)).setRxTimer RxPduId (s.rxTimer RxPduId) := by
    simp
  simp only [Com_RxIndication]
  split
  · split
    · split
      · split
        · exact ⟨_, _, rfl⟩
        · exact ⟨_, _, hself⟩
      · exact ⟨_, _, hself⟩
    · exact ⟨_, _, hself⟩
  · exact ⟨_, _, hself⟩

/-- A triggered send of a TX I-PDU: sent exactly when the I-PDU is active, and then re-armed
for a cycle after a success or for the next tick after a refusal, returning `E_OK` either way. -/
theorem Com_TriggerIPDUSend_of_tx {cfg : Com_ConfigType} {PduId : Nat} (hp : PduId < cfg.numOfIPdus)
    {tx : Com_IPduTxConfigType} (htx : (cfg.IPduConfigs PduId).txConfig = some tx)
    (ret : Std_ReturnType) (s : ComState) :
    Com_TriggerIPDUSend cfg PduId ret s =
      if s.active cfg PduId then
        (.E_OK, s.setTxTimer PduId (if ret = .E_OK then tx.CycleTime else 1),
          [transmitEvent cfg PduId tx (s.pduData PduId) ret])
      else (.E_NOT_OK, s, []) := by
  simp only [Com_TriggerIPDUSend, if_pos hp, htx]
  split <;> [split <;> simp [*]; rfl]

theorem Com_TriggerIPDUSend_events (cfg : Com_ConfigType) (PduId : Nat) (ret : Std_ReturnType)
    (s : ComState) : ∀ e ∈ (Com_TriggerIPDUSend cfg PduId ret s).2.2, e.pdu = PduId ∧ e.isTransmit := by
  intro e he
  by_cases hp : PduId < cfg.numOfIPdus
  · cases htx : (cfg.IPduConfigs PduId).txConfig with
    | some tx =>
      rw [Com_TriggerIPDUSend_of_tx hp htx] at he
      split at he
      · obtain rfl := List.mem_singleton.1 he; exact ⟨rfl, rfl⟩
      · cases he
    | none => simp [Com_TriggerIPDUSend, hp, htx] at he
  · simp [Com_TriggerIPDUSend, hp] at he

/-- A reception for an RX I-PDU: accepted exactly when the I-PDU is active and the frame is long
enough, and then copied into the buffer, with the RX timer re-armed. -/
theorem Com_RxIndication_of_rx {cfg : Com_ConfigType} {RxPduId : Nat} (hp : RxPduId < cfg.numOfIPdus)
    {rx : Com_IPduRxConfigType} (hrx : (cfg.IPduConfigs RxPduId).rxConfig = some rx)
    (PduInfo : PduInfoType) (s : ComState) :
    Com_RxIndication cfg RxPduId PduInfo s =
      if s.active cfg RxPduId ∧ (cfg.IPduConfigs RxPduId).length ≤ PduInfo.SduLength then
        ((s.setPdu RxPduId (memcpy (s.pduData RxPduId) 0 PduInfo.SduDataPtr 0
            (cfg.IPduConfigs RxPduId).length)).setRxTimer RxPduId rx.Timeout,
          if rx.RxNotification then [.rxNotification RxPduId] else [])
      else (s, []) := by
  simp only [Com_RxIndication, if_pos hp, hrx]
  by_cases ha : s.active cfg RxPduId <;>
    by_cases hl : (cfg.IPduConfigs RxPduId).length ≤ PduInfo.SduLength <;> simp [ha, hl]

theorem Com_RxIndication_events (cfg : Com_ConfigType) (RxPduId : Nat) (PduInfo : PduInfoType)
    (s : ComState) : ∀ e ∈ (Com_RxIndication cfg RxPduId PduInfo s).2, e = .rxNotification RxPduId := by
  simp only [Com_RxIndication]
  split
  · split
    · split <;> [split <;> simp; simp]
    · simp
  · simp

theorem Com_TxConfirmation_events (cfg : Com_ConfigType) (TxPduId : Nat) (result : Std_ReturnType)
    (s : ComState) : ∀ e ∈ Com_TxConfirmation cfg TxPduId result s,
      e = .txNotification TxPduId ∨ e = .errorNotification TxPduId := by
  unfold Com_TxConfirmation
  split
  · split
    · split <;> [split <;> [split; split]; skip] <;> simp
    · simp
  · simp

-- ---------------------------------------------------------------------------
-- The passes of the main functions
-- ---------------------------------------------------------------------------

section Passes

variable {cfg : Com_ConfigType}

/-- The RX pass: an active I-PDU with an RX configuration counts its timer down, stopping at
zero, and the timeout callback fires on the tick that reaches zero. -/
theorem ipduMainFunctionRx_eq (i : Nat) (s : ComState) :
    ipduMainFunctionRx cfg i s =
      (s.setRxTimer i
        (if (cfg.IPduConfigs i).rxConfig.isSome ∧ s.active cfg i then s.rxTimer i - 1
         else s.rxTimer i),
       if (cfg.IPduConfigs i).rxConfig.any (·.RxTOut) ∧ s.active cfg i ∧ s.rxTimer i = 1 then
         [.rxTimeout i]
       else []) := by
  unfold ipduMainFunctionRx
  cases hrx : (cfg.IPduConfigs i).rxConfig with
  | none => simp
  | some rx =>
    by_cases ha : s.active cfg i
    · rcases Nat.lt_trichotomy (s.rxTimer i) 1 with h | h | h
      · have h0 : s.rxTimer i = 0 := by omega
        simp [ha, h0, s.setRxTimer_eq_self h0]
      · simp [ha, h]
      · simp [ha, show s.rxTimer i ≠ 1 by omega, show s.rxTimer i - 1 ≠ 0 by omega,
          show 0 < s.rxTimer i by omega]
    · simp [ha]

/-- The TX pass: an active I-PDU with a TX configuration counts its timer down, stopping at
zero; on the tick that reaches zero it is sent, and then either re-armed for a cycle with its
update bits cleared, or, when PduR refused it, armed for the next tick. -/
theorem ipduMainFunctionTx_eq (ret : Std_ReturnType) (i : Nat) (s : ComState) :
    ipduMainFunctionTx cfg ret i s =
      match (cfg.IPduConfigs i).txConfig with
      | some tx =>
        if s.active cfg i ∧ s.txTimer i = 1 then
          (if ret = .E_OK then comTxClearUpdateBit cfg (cfg.IPduConfigs i) (s.setTxTimer i tx.CycleTime)
           else s.setTxTimer i 1,
           [transmitEvent cfg i tx (s.pduData i) ret])
        else (s.setTxTimer i (if s.active cfg i then s.txTimer i - 1 else s.txTimer i), [])
      | none => (s, []) := by
  simp only [ipduMainFunctionTx]
  cases (cfg.IPduConfigs i).txConfig with
  | none => rfl
  | some tx =>
    by_cases ha : s.active cfg i
    · rcases Nat.lt_trichotomy (s.txTimer i) 1 with h | h | h
      · have h0 : s.txTimer i = 0 := by omega
        simp [ha, h0, s.setTxTimer_eq_self h0]
      · by_cases hr : ret = .E_OK <;> simp [ha, h, hr]
      · simp [ha, show s.txTimer i ≠ 1 by omega, show s.txTimer i - 1 ≠ 0 by omega,
          show 0 < s.txTimer i by omega]
    · simp [ha]

theorem ipduMainFunctionRx_emitsOwn : EmitsOwn (ipduMainFunctionRx cfg) := by
  intro i s e he
  rw [ipduMainFunctionRx_eq] at he
  split at he <;> simp_all [ComEvent.pdu]

theorem ipduMainFunctionTx_emitsOwn (res : Nat → Std_ReturnType) :
    EmitsOwn fun i => ipduMainFunctionTx cfg (res i) i := by
  intro i s e he
  simp only [ipduMainFunctionTx_eq] at he
  split at he
  · split at he <;> simp_all [transmitEvent, ComEvent.pdu]
  · simp at he

@[simp] theorem ipduMainFunctionRx_GroupStatus (i : Nat) (s : ComState) :
    (ipduMainFunctionRx cfg i s).1.GroupStatus = s.GroupStatus := by
  simp [ipduMainFunctionRx_eq]

@[simp] theorem ipduMainFunctionTx_GroupStatus (ret : Std_ReturnType) (i : Nat) (s : ComState) :
    (ipduMainFunctionTx cfg ret i s).1.GroupStatus = s.GroupStatus := by
  rw [ipduMainFunctionTx_eq]
  split
  · split <;> [split; skip] <;> simp
  · rfl

theorem ipduMainFunctionRx_inactive {p : Nat} {s : ComState} (hp : s.active cfg p = false) :
    ipduMainFunctionRx cfg p s = (s, []) := by
  simp [ipduMainFunctionRx_eq, hp]

theorem ipduMainFunctionTx_inactive {p : Nat} {s : ComState} (hp : s.active cfg p = false)
    (ret : Std_ReturnType) : ipduMainFunctionTx cfg ret p s = (s, []) := by
  rw [ipduMainFunctionTx_eq]
  split <;> simp [hp]

@[simp] theorem ipduMainFunctionRx_txTimer (i : Nat) (s : ComState) :
    (ipduMainFunctionRx cfg i s).1.txTimer = s.txTimer := by
  simp [ipduMainFunctionRx_eq]

@[simp] theorem ipduMainFunctionRx_pduData (i : Nat) (s : ComState) :
    (ipduMainFunctionRx cfg i s).1.pduData = s.pduData := by
  simp [ipduMainFunctionRx_eq]

@[simp] theorem ipduMainFunctionTx_rxTimer (ret : Std_ReturnType) (i : Nat) (s : ComState) :
    (ipduMainFunctionTx cfg ret i s).1.rxTimer = s.rxTimer := by
  rw [ipduMainFunctionTx_eq]
  split
  · split <;> [split; skip] <;> simp
  · rfl

/-- The RX timer of an I-PDU after its RX pass. -/
theorem ipduMainFunctionRx_rxTimer_self (i : Nat) (s : ComState) :
    (ipduMainFunctionRx cfg i s).1.rxTimer i =
      if (cfg.IPduConfigs i).rxConfig.isSome ∧ s.active cfg i then s.rxTimer i - 1
      else s.rxTimer i := by
  simp [ipduMainFunctionRx_eq]

/-- The RX pass of an I-PDU fires its timeout callback exactly on the tick its active timer
reaches zero, if the callback is configured. -/
theorem ipduMainFunctionRx_rxTimeout (i : Nat) (s : ComState) :
    .rxTimeout i ∈ (ipduMainFunctionRx cfg i s).2 ↔
      (cfg.IPduConfigs i).rxConfig.any (·.RxTOut) ∧ s.active cfg i ∧ s.rxTimer i = 1 := by
  rw [ipduMainFunctionRx_eq]
  split <;> simp_all

/-- The TX timer of a TX I-PDU after its TX pass. -/
theorem ipduMainFunctionTx_txTimer_self {i : Nat} {tx : Com_IPduTxConfigType}
    (htx : (cfg.IPduConfigs i).txConfig = some tx) (ret : Std_ReturnType) (s : ComState) :
    (ipduMainFunctionTx cfg ret i s).1.txTimer i =
      if s.active cfg i ∧ s.txTimer i = 1 then (if ret = .E_OK then tx.CycleTime else 1)
      else if s.active cfg i then s.txTimer i - 1 else s.txTimer i := by
  rw [ipduMainFunctionTx_eq]
  simp only [htx]
  split <;> [split <;> simp [*]; simp]

/-- The TX pass of a TX I-PDU sends it once on the tick its active timer reaches zero, and
emits nothing on any other tick. -/
theorem ipduMainFunctionTx_isTransmit_self {i : Nat} {tx : Com_IPduTxConfigType}
    (htx : (cfg.IPduConfigs i).txConfig = some tx) (ret : Std_ReturnType) (s : ComState) :
    (ipduMainFunctionTx cfg ret i s).2.map ComEvent.isTransmit =
      if s.active cfg i ∧ s.txTimer i = 1 then [true] else [] := by
  rw [ipduMainFunctionTx_eq]
  simp only [htx]
  split <;> simp_all [transmitEvent, ComEvent.isTransmit]

theorem ipduMainFunctionRx_view_other {i p : Nat} (h : p ≠ i) (s : ComState) :
    (ipduMainFunctionRx cfg i s).1.view p = s.view p := by
  simp [ipduMainFunctionRx_eq, ComState.view, h]

/-- The RX pass over `p` reads nothing of the state but `p`'s view. -/
theorem ipduMainFunctionRx_local {p : Nat} {s s' : ComState} (h : s.view p = s'.view p) :
    (ipduMainFunctionRx cfg p s).1.view p = (ipduMainFunctionRx cfg p s').1.view p ∧
      (ipduMainFunctionRx cfg p s).2 = (ipduMainFunctionRx cfg p s').2 := by
  simp only [ComState.view, Prod.mk.injEq] at h
  obtain ⟨hG, hI, hR, hT, hP⟩ := h
  simp [ipduMainFunctionRx_eq, ComState.view, ComState.active, hG, hI, hR, hT, hP]

theorem ipduMainFunctionTx_txTimer_other {i p : Nat} (h : p ≠ i) (ret : Std_ReturnType)
    (s : ComState) : (ipduMainFunctionTx cfg ret i s).1.txTimer p = s.txTimer p := by
  rw [ipduMainFunctionTx_eq]
  split
  · split <;> [split; skip] <;> simp [h]
  · rfl

theorem ipduMainFunctionTx_view_other (hwf : cfg.WellFormed) {i p : Nat} (hi : i < cfg.numOfIPdus)
    (h : p ≠ i) (ret : Std_ReturnType) (s : ComState) :
    (ipduMainFunctionTx cfg ret i s).1.view p = s.view p := by
  rw [ipduMainFunctionTx_eq]
  split
  · split <;> [split; skip] <;>
      simp [ComState.view, h, comTxClearUpdateBit_pduData_other hwf hi h]
  · rfl

/-- In a well-formed configuration the TX pass over `p` reads nothing of the state but `p`'s
view. -/
theorem ipduMainFunctionTx_local (hwf : cfg.WellFormed) {p : Nat} (hp : p < cfg.numOfIPdus)
    (ret : Std_ReturnType) {s s' : ComState} (h : s.view p = s'.view p) :
    (ipduMainFunctionTx cfg ret p s).1.view p = (ipduMainFunctionTx cfg ret p s').1.view p ∧
      (ipduMainFunctionTx cfg ret p s).2 = (ipduMainFunctionTx cfg ret p s').2 := by
  simp only [ComState.view, Prod.mk.injEq] at h
  obtain ⟨hG, hI, hR, hT, hP⟩ := h
  simp only [ipduMainFunctionTx_eq, ComState.active, hG, hT, hP]
  split
  · split <;> [split; skip] <;>
      simp [ComState.view, comTxClearUpdateBit_pduData_self hwf hp, hG, hI, hR, hT, hP]
  · simp [ComState.view, hG, hI, hR, hT, hP]

-- ---------------------------------------------------------------------------
-- The main functions, one I-PDU at a time
-- ---------------------------------------------------------------------------

@[simp] theorem Com_MainFunctionRx_GroupStatus (s : ComState) :
    (Com_MainFunctionRx cfg s).1.GroupStatus = s.GroupStatus :=
  forEachIPdu_frame ComState.GroupStatus (fun _ _ _ => ipduMainFunctionRx_GroupStatus _ _) s

@[simp] theorem Com_MainFunctionRx_txTimer (s : ComState) :
    (Com_MainFunctionRx cfg s).1.txTimer = s.txTimer :=
  forEachIPdu_frame ComState.txTimer (fun _ _ _ => ipduMainFunctionRx_txTimer _ _) s

@[simp] theorem Com_MainFunctionRx_pduData (s : ComState) :
    (Com_MainFunctionRx cfg s).1.pduData = s.pduData :=
  forEachIPdu_frame ComState.pduData (fun _ _ _ => ipduMainFunctionRx_pduData _ _) s

@[simp] theorem Com_MainFunctionTx_GroupStatus (res : Nat → Std_ReturnType) (s : ComState) :
    (Com_MainFunctionTx cfg res s).1.GroupStatus = s.GroupStatus :=
  forEachIPdu_frame ComState.GroupStatus (fun _ _ _ => ipduMainFunctionTx_GroupStatus _ _ _) s

@[simp] theorem Com_MainFunctionTx_rxTimer (res : Nat → Std_ReturnType) (s : ComState) :
    (Com_MainFunctionTx cfg res s).1.rxTimer = s.rxTimer :=
  forEachIPdu_frame ComState.rxTimer (fun _ _ _ => ipduMainFunctionTx_rxTimer _ _ _) s

@[simp] theorem Com_MainFunction_GroupStatus (res : Nat → Std_ReturnType) (s : ComState) :
    (Com_MainFunction cfg res s).1.GroupStatus = s.GroupStatus := by
  simp [Com_MainFunction]

/-- An RX tick calls no `PduR_ComTransmit`. -/
theorem Com_MainFunctionRx_events (s : ComState) :
    ∀ e ∈ (Com_MainFunctionRx cfg s).2, e.isTransmit = false :=
  forEachIPdu_events (fun i _ s e he => by
    rw [ipduMainFunctionRx_eq] at he
    split at he <;> simp_all [ComEvent.isTransmit]) s

/-- A TX tick only calls `PduR_ComTransmit`. -/
theorem Com_MainFunctionTx_events (res : Nat → Std_ReturnType) (s : ComState) :
    ∀ e ∈ (Com_MainFunctionTx cfg res s).2, e.isTransmit = true :=
  forEachIPdu_events (fun i _ s e he => by
    rw [ipduMainFunctionTx_eq] at he
    split at he
    · split at he <;> simp_all [transmitEvent, ComEvent.isTransmit]
    · simp at he) s

/-- A TX tick does to the TX timer and the transmissions of I-PDU `p` what its pass does; this
holds in every configuration, since no pass writes another I-PDU's timer. -/
theorem Com_MainFunctionTx_txTimer_at (res : Nat → Std_ReturnType) {p : Nat}
    (hp : p < cfg.numOfIPdus) (s : ComState) :
    (Com_MainFunctionTx cfg res s).1.txTimer p = (ipduMainFunctionTx cfg (res p) p s).1.txTimer p ∧
      (eventsOf p (Com_MainFunctionTx cfg res s).2).map ComEvent.isTransmit =
        (ipduMainFunctionTx cfg (res p) p s).2.map ComEvent.isTransmit := by
  obtain ⟨hV, hE⟩ := forEachIPdu_at (fun s => (s.GroupStatus, s.txTimer p)) ComEvent.isTransmit
    (@ipduMainFunctionTx_emitsOwn cfg res) (List.mem_range.2 hp) (List.nodup_range _)
    (fun i _ hi s => by simp [ipduMainFunctionTx_txTimer_other (Ne.symm hi)])
    (fun s s' h => by
      simp only [Prod.mk.injEq] at h
      obtain ⟨hG, hT⟩ := h
      simp only [ipduMainFunctionTx_eq, ComState.active, hG, hT]
      split
      · split <;> [split; skip] <;> simp [hG, hT, transmitEvent, ComEvent.isTransmit]
      · simp [hG, hT]) s
  exact ⟨(Prod.mk.inj hV).2, hE⟩

/-- An RX tick does to I-PDU `p` what its pass does. -/
theorem Com_MainFunctionRx_at {p : Nat} (hp : p < cfg.numOfIPdus) (s : ComState) :
    (Com_MainFunctionRx cfg s).1.view p = (ipduMainFunctionRx cfg p s).1.view p ∧
      eventsOf p (Com_MainFunctionRx cfg s).2 = (ipduMainFunctionRx cfg p s).2 := by
  simpa using forEachIPdu_at (fun s => s.view p) id ipduMainFunctionRx_emitsOwn
    (List.mem_range.2 hp) (List.nodup_range _)
    (fun i _ hi s => ipduMainFunctionRx_view_other (Ne.symm hi) s)
    (fun s s' h => by simp [ipduMainFunctionRx_local h]) s

/-- An RX tick leaves an I-PDU outside the configuration alone. -/
theorem Com_MainFunctionRx_of_ge {p : Nat} (hp : cfg.numOfIPdus ≤ p) (s : ComState) :
    (Com_MainFunctionRx cfg s).1.view p = s.view p ∧ eventsOf p (Com_MainFunctionRx cfg s).2 = [] :=
  ⟨forEachIPdu_frame (fun s => s.view p)
      (fun i hi s => ipduMainFunctionRx_view_other (by simp at hi; omega) s) s,
    forEachIPdu_eventsOf_not_mem ipduMainFunctionRx_emitsOwn (by simp; omega) s⟩

/-- In a well-formed configuration a TX tick does to I-PDU `p` what its pass does. -/
theorem Com_MainFunctionTx_at (hwf : cfg.WellFormed) (res : Nat → Std_ReturnType) {p : Nat}
    (hp : p < cfg.numOfIPdus) (s : ComState) :
    (Com_MainFunctionTx cfg res s).1.view p = (ipduMainFunctionTx cfg (res p) p s).1.view p ∧
      eventsOf p (Com_MainFunctionTx cfg res s).2 = (ipduMainFunctionTx cfg (res p) p s).2 := by
  simpa using forEachIPdu_at (fun s => s.view p) id (ipduMainFunctionTx_emitsOwn res)
    (List.mem_range.2 hp) (List.nodup_range _)
    (fun i hi hip s => ipduMainFunctionTx_view_other hwf (List.mem_range.1 hi) (Ne.symm hip) _ s)
    (fun s s' h => by simp [ipduMainFunctionTx_local hwf hp _ h]) s

/-- A TX tick leaves the buffer of an I-PDU that is not sent. -/
theorem Com_MainFunctionTx_pduData_of_rx (hwf : cfg.WellFormed) (res : Nat → Std_ReturnType)
    {p : Nat} (hp : p < cfg.numOfIPdus) (htx : (cfg.IPduConfigs p).txConfig = none) (s : ComState) :
    (Com_MainFunctionTx cfg res s).1.pduData p = s.pduData p := by
  have h := congrArg (fun v => v.2.2.2.2) (Com_MainFunctionTx_at hwf res hp s).1
  simpa [ComState.view, ipduMainFunctionTx_eq, htx] using h

/-- In a well-formed configuration a TX tick leaves an I-PDU outside the configuration alone. -/
theorem Com_MainFunctionTx_of_ge (hwf : cfg.WellFormed) (res : Nat → Std_ReturnType) {p : Nat}
    (hp : cfg.numOfIPdus ≤ p) (s : ComState) :
    (Com_MainFunctionTx cfg res s).1.view p = s.view p ∧
      eventsOf p (Com_MainFunctionTx cfg res s).2 = [] :=
  ⟨forEachIPdu_frame (fun s => s.view p) (fun i hi s =>
      ipduMainFunctionTx_view_other hwf (List.mem_range.1 hi) (by simp at hi; omega) _ s) s,
    forEachIPdu_eventsOf_not_mem (ipduMainFunctionTx_emitsOwn res) (by simp; omega) s⟩

end Passes

-- ---------------------------------------------------------------------------
-- Stopped I-PDUs
-- ---------------------------------------------------------------------------

/-- What a call leaves of I-PDU `p`: its buffer, its timers, and no event of `p`. -/
def Untouched (p : Nat) (s : ComState) (r : ComState × List ComEvent) : Prop :=
  r.1.pduData p = s.pduData p ∧ r.1.rxTimer p = s.rxTimer p ∧ r.1.txTimer p = s.txTimer p ∧
    eventsOf p r.2 = []

theorem untouched_of_view {p : Nat} {s : ComState} {r : ComState × List ComEvent}
    (hV : r.1.view p = s.view p) (hE : eventsOf p r.2 = []) : Untouched p s r := by
  simp only [ComState.view, Prod.mk.injEq] at hV
  exact ⟨hV.2.2.2.2, hV.2.2.1, hV.2.2.2.1, hE⟩

/-- A pass over another I-PDU leaves `p` alone. -/
theorem untouched_of_other {body : Nat → ComState → ComState × List ComEvent} (hown : EmitsOwn body)
    {i p : Nat} (h : i ≠ p) {s : ComState} (hV : (body i s).1.view p = s.view p) :
    Untouched p s (body i s) :=
  untouched_of_view hV (eventsOf_of_forall_ne fun e he => hown i s e he ▸ h)

/-- An I-PDU none of whose groups is started is frozen: neither main function, nor a
reception, a triggered send or a confirmation for it, changes its buffer or timers or emits
anything for it, the triggered send is refused, and the passes over the other I-PDUs leave it
alone too. -/
theorem inactive_frozen (hwf : cfg.WellFormed) (res : Nat → Std_ReturnType) (PduInfo : PduInfoType)
    (ret result : Std_ReturnType) {p : Nat} {s : ComState} (hp : s.active cfg p = false) :
    Untouched p s (Com_MainFunctionRx cfg s) ∧ Untouched p s (Com_MainFunctionTx cfg res s) ∧
      Com_RxIndication cfg p PduInfo s = (s, []) ∧
      Com_TriggerIPDUSend cfg p ret s = (.E_NOT_OK, s, []) ∧
      Com_TxConfirmation cfg p result s = [] ∧
      ∀ i < cfg.numOfIPdus, i ≠ p → ∀ s' : ComState,
        Untouched p s' (ipduMainFunctionRx cfg i s') ∧
          Untouched p s' (ipduMainFunctionTx cfg (res i) i s') := by
  refine ⟨?_, ?_, ?_, ?_, ?_, fun i hi hip s' =>
    ⟨untouched_of_other ipduMainFunctionRx_emitsOwn hip (ipduMainFunctionRx_view_other (Ne.symm hip) s'),
     untouched_of_other (ipduMainFunctionTx_emitsOwn res) hip
       (ipduMainFunctionTx_view_other hwf hi (Ne.symm hip) _ s')⟩⟩
  · by_cases hlt : p < cfg.numOfIPdus
    · obtain ⟨hV, hE⟩ := Com_MainFunctionRx_at hlt s
      rw [ipduMainFunctionRx_inactive hp] at hV hE
      exact untouched_of_view hV hE
    · exact untouched_of_view (Com_MainFunctionRx_of_ge (by omega) s).1
        (Com_MainFunctionRx_of_ge (by omega) s).2
  · by_cases hlt : p < cfg.numOfIPdus
    · obtain ⟨hV, hE⟩ := Com_MainFunctionTx_at hwf res hlt s
      rw [ipduMainFunctionTx_inactive hp] at hV hE
      exact untouched_of_view hV hE
    · exact untouched_of_view (Com_MainFunctionTx_of_ge hwf res (by omega) s).1
        (Com_MainFunctionTx_of_ge hwf res (by omega) s).2
  · simp only [Com_RxIndication]
    split <;> [cases (cfg.IPduConfigs p).rxConfig <;> simp [hp]; rfl]
  · unfold Com_TriggerIPDUSend
    split <;> [split <;> simp [hp]; rfl]
  · unfold Com_TxConfirmation
    split <;> [split <;> simp [hp]; rfl]

/-- A state of the sample configuration in which no group is started while every timer is due:
started, it would have I-PDU 0 sent and I-PDU 1 timed out on the next tick. -/
def stoppedDueState : ComState :=
  ⟨0, fun _ => 1, fun _ => 1, fun _ => Mem.zero, fun _ => Mem.zero⟩

/-- In the sample configuration, with no group started, I-PDU 0 is frozen although its TX timer
is due. -/
theorem inactive_frozen_sample :
    sampleConfig.WellFormed ∧ stoppedDueState.txTimer 0 = 1 ∧
      stoppedDueState.active sampleConfig 0 = false ∧
      (Untouched 0 stoppedDueState (Com_MainFunctionRx sampleConfig stoppedDueState) ∧
        Untouched 0 stoppedDueState
          (Com_MainFunctionTx sampleConfig (fun _ => .E_OK) stoppedDueState) ∧
        Com_RxIndication sampleConfig 0 ⟨Mem.zero, 2⟩ stoppedDueState = (stoppedDueState, []) ∧
        Com_TriggerIPDUSend sampleConfig 0 .E_OK stoppedDueState =
          (.E_NOT_OK, stoppedDueState, []) ∧
        Com_TxConfirmation sampleConfig 0 .E_OK stoppedDueState = [] ∧
        ∀ i < sampleConfig.numOfIPdus, i ≠ 0 → ∀ s' : ComState,
          Untouched 0 s' (ipduMainFunctionRx sampleConfig i s') ∧
            Untouched 0 s' (ipduMainFunctionTx sampleConfig ((fun _ => .E_OK) i) i s')) :=
  ⟨sampleConfig_wellFormed, rfl, rfl,
    inactive_frozen sampleConfig_wellFormed (fun _ => .E_OK) ⟨Mem.zero, 2⟩ .E_OK .E_OK rfl⟩

/-- Stopped, the state's tick does nothing; with both groups started, the same tick times I-PDU
1 out and sends I-PDU 0. -/
example :
    (Com_MainFunction sampleConfig (fun _ => .E_OK) stoppedDueState).2 = [] ∧
      (Com_MainFunction sampleConfig (fun _ => .E_OK)
        { stoppedDueState with GroupStatus := 3 }).2 =
        [.rxTimeout 1, .transmit 0 0 [0, 0] .E_OK] := by
  decide

end Ssas
