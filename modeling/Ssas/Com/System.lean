-- SUMMARY: The Com layer as a state machine: one operation per public call, its step on the state, runs of operations, and the run lemma that lifts a per-step invariant to every run.
import Ssas.Com.Api
import Ssas.Com.Pdu

/-!
# The Com layer as a state machine

Each public function of `Com.c` that its callers (application, PduR, scheduler) invoke is an
operation. A step is the call on the state: the state after it and the events it emitted, or
`none` where the call has undefined behaviour (a group bit shifted past `int`, a null signal
source read). What a call returns to its caller is a function of the state before it, so the
run records the state before and after each step.

A run stops at the first undefined step. Properties of runs are stated with `Along`: a
predicate of each step and of an abstract state advanced by the steps, which keeps what a law
counts from ("since the last arming", "the latest call"). `along_run` is the run lemma: an
invariant between the abstract and the concrete state that every step keeps gives the
predicate at every step of every run. `isDefined` names the calls with defined behaviour, and a
run of them covers every call (`run_length_of_defined`).
-/

namespace Ssas

/-- The calls into the Com layer, with their arguments and, for the `PduR_ComTransmit` calls a
call makes, the results PduR returns. -/
inductive ComOp where
  | init
  | groupStart (IpduGroupId : Nat) (doInit : Bool)
  | groupStop (IpduGroupId : Nat)
  | sendSignal (SignalId : Nat) (SignalDataPtr : Option Mem)
  | receiveSignal (SignalId : Nat) (SignalDataPtr : Option Mem)
  | sendSignalGroup (SignalGroupId : Nat)
  | receiveSignalGroup (SignalGroupId : Nat)
  | triggerIPDUSend (PduId : Nat) (ret : Std_ReturnType)
  | rxIndication (RxPduId : Nat) (PduInfo : PduInfoType)
  | triggerTransmit (TxPduId : Nat) (PduInfo : PduInfoType)
  | txConfirmation (TxPduId : Nat) (result : Std_ReturnType)
  | mainFunctionRx
  | mainFunctionTx (res : Nat → Std_ReturnType)
  | mainFunction (res : Nat → Std_ReturnType)

namespace ComOp

/-- The call on the state: the state after it and its events; `none` for undefined
behaviour. -/
def step (cfg : Com_ConfigType) : ComOp → ComState → Option (ComState × List ComEvent)
  | init, s => some (Com_Init s, [])
  | groupStart g d, s => (Com_IpduGroupStart cfg g d s).map (·, [])
  | groupStop g, s => (Com_IpduGroupStop cfg g s).map (·, [])
  | sendSignal id src, s => (Com_SendSignal cfg id src s).map (·.2, [])
  | receiveSignal id dst, s => some ((Com_ReceiveSignal cfg id dst s).2.1, [])
  | sendSignalGroup id, s => some ((Com_SendSignalGroup cfg id s).2, [])
  | receiveSignalGroup id, s => some ((Com_ReceiveSignalGroup cfg id s).2, [])
  | triggerIPDUSend id ret, s => some (Com_TriggerIPDUSend cfg id ret s).2
  | rxIndication id info, s => some (Com_RxIndication cfg id info s)
  | triggerTransmit _ _, s => some (s, [])
  | txConfirmation id result, s => some (s, Com_TxConfirmation cfg id result s)
  | mainFunctionRx, s => some (Com_MainFunctionRx cfg s)
  | mainFunctionTx res, s => some (Com_MainFunctionTx cfg res s)
  | mainFunction res, s => some (Com_MainFunction cfg res s)

/-- The main-function ticks that run the TX loop. -/
def isTxTick : ComOp → Bool
  | mainFunctionTx _ | mainFunction _ => true
  | _ => false

/-- The main-function ticks that run the RX loop. -/
def isRxTick : ComOp → Bool
  | mainFunctionRx | mainFunction _ => true
  | _ => false

/-- The calls that write at most I-PDU buffers and init regions: the signal API, and the calls
of PduR that only read or notify. -/
def isBufferCall : ComOp → Bool
  | sendSignal _ _ | receiveSignal _ _ | sendSignalGroup _ | receiveSignalGroup _
  | triggerTransmit _ _ | txConfirmation _ _ => true
  | _ => false

/-- `Com_Init` and the group calls, the only writers of the group bitmap. -/
def isGroupCall : ComOp → Bool
  | init | groupStart _ _ | groupStop _ => true
  | _ => false

/-- The calls of the signal API, through which the application writes I-PDU buffers and init
regions. -/
def isSignalCall : ComOp → Bool
  | sendSignal _ _ | receiveSignal _ _ | sendSignalGroup _ | receiveSignalGroup _ => true
  | _ => false

/-- The calls whose C code is defined in every state: a group call on a configured group shifts
`1` at most into bit 30 of an `int`, and a send of a supported signal has a source to read. -/
def isDefined (cfg : Com_ConfigType) : ComOp → Bool
  | groupStart g _ | groupStop g => decide (g < cfg.numOfGroups → g < 31)
  | sendSignal i none => !(decide (i < cfg.numOfSignals) && (cfg.SignalConfigs i).supported)
  | _ => true

end ComOp

/-- One step of a run. -/
structure StepRecord where
  pre : ComState
  op : ComOp
  post : ComState
  events : List ComEvent

/-- The steps of running `ops` from `s`, up to the first undefined one. -/
def run (cfg : Com_ConfigType) : ComState → List ComOp → List StepRecord
  | _, [] => []
  | s, op :: ops =>
    match op.step cfg s with
    | some r => ⟨s, op, r.1, r.2⟩ :: run cfg r.1 ops
    | none => []

/-- `P a r` at every step `r` of a run, with `a` the abstract state before it, advanced by
`δ`. -/
def Along {σ : Type} (δ : StepRecord → σ → σ) (P : σ → StepRecord → Prop) :
    σ → List StepRecord → Prop
  | _, [] => True
  | a, r :: rs => P a r ∧ Along δ P (δ r a) rs

section Runs

variable {cfg : Com_ConfigType}

/-- The run lemma. -/
theorem along_run {σ : Type} {δ : StepRecord → σ → σ} {P : σ → StepRecord → Prop}
    (Inv : σ → ComState → Prop)
    (hstep : ∀ a s op r, Inv a s → op.step cfg s = some r →
      P a ⟨s, op, r.1, r.2⟩ ∧ Inv (δ ⟨s, op, r.1, r.2⟩ a) r.1) :
    ∀ (ops : List ComOp) (a : σ) (s : ComState), Inv a s → Along δ P a (run cfg s ops)
  | [], _, _, _ => trivial
  | op :: ops, a, s, hinv => by
    simp only [run]
    split
    · next r hr =>
      obtain ⟨hP, hinv'⟩ := hstep a s op r hinv hr
      exact ⟨hP, along_run Inv hstep ops _ _ hinv'⟩
    · trivial

/-- A buffer call keeps every part of the state that buffer and init-region writes keep. -/
theorem step_frame {α : Type} (V : ComState → α) (hPdu : ∀ s q m, V (s.setPdu q m) = V s)
    (hInit : ∀ s q m, V (s.setInitData q m) = V s) {op : ComOp} {s : ComState}
    {r : ComState × List ComEvent} (hop : op.isBufferCall) (h : op.step cfg s = some r) :
    V r.1 = V s := by
  cases op with
  | sendSignal id src =>
    obtain ⟨a, ha, rfl⟩ := Option.map_eq_some'.1 h
    obtain ⟨q, m, e⟩ := Com_SendSignal_state ha
    rw [e, hPdu]
  | receiveSignal id dst =>
    obtain rfl := Option.some.inj h
    obtain ⟨q, m, e⟩ := Com_ReceiveSignal_state cfg id dst s
    rw [e, hPdu]
  | sendSignalGroup id =>
    obtain rfl := Option.some.inj h
    obtain ⟨q, m, e⟩ := Com_SendSignalGroup_state cfg id s
    rw [e, hPdu]
  | receiveSignalGroup id =>
    obtain rfl := Option.some.inj h
    obtain ⟨q, m, e⟩ := Com_ReceiveSignalGroup_state cfg id s
    rw [e, hInit]
  | triggerTransmit | txConfirmation => obtain rfl := Option.some.inj h; rfl
  | _ => cases hop

/-- Only `Com_Init` and the group calls write the group bitmap. -/
theorem step_GroupStatus {op : ComOp} {s : ComState} {r : ComState × List ComEvent}
    (hop : op.isGroupCall = false) (h : op.step cfg s = some r) :
    r.1.GroupStatus = s.GroupStatus := by
  cases hb : op.isBufferCall
  · cases op with
    | init | groupStart | groupStop => cases hop
    | triggerIPDUSend id ret =>
      obtain rfl := Option.some.inj h
      obtain ⟨t, e⟩ := Com_TriggerIPDUSend_state cfg id ret s
      simp [e]
    | rxIndication id info =>
      obtain rfl := Option.some.inj h
      obtain ⟨m, t, e⟩ := Com_RxIndication_state cfg id info s
      simp [e]
    | mainFunctionRx | mainFunctionTx | mainFunction => obtain rfl := Option.some.inj h; simp
    | _ => cases hb
  · exact step_frame ComState.GroupStatus (fun _ _ _ => rfl) (fun _ _ _ => rfl) hb h

/-- Only the RX ticks call a timeout callback. -/
theorem step_rxTimeout_not_mem {op : ComOp} {s : ComState} {r : ComState × List ComEvent}
    (hop : op.isRxTick = false) (h : op.step cfg s = some r) (p : Nat) :
    ComEvent.rxTimeout p ∉ r.2 := by
  cases op with
  | groupStart | groupStop => obtain ⟨s', -, rfl⟩ := Option.map_eq_some'.1 h; simp
  | sendSignal => obtain ⟨a, -, rfl⟩ := Option.map_eq_some'.1 h; simp
  | init | receiveSignal | sendSignalGroup | receiveSignalGroup | triggerTransmit =>
    obtain rfl := Option.some.inj h; simp
  | triggerIPDUSend id ret =>
    obtain rfl := Option.some.inj h
    intro hm
    simpa [ComEvent.isTransmit] using (Com_TriggerIPDUSend_events cfg id ret s _ hm).2
  | rxIndication id info =>
    obtain rfl := Option.some.inj h
    intro hm
    cases Com_RxIndication_events cfg id info s _ hm
  | txConfirmation id result =>
    obtain rfl := Option.some.inj h
    intro hm
    rcases Com_TxConfirmation_events cfg id result s _ hm with h | h <;> cases h
  | mainFunctionTx res =>
    obtain rfl := Option.some.inj h
    intro hm
    simpa [ComEvent.isTransmit] using Com_MainFunctionTx_events res s _ hm
  | mainFunctionRx | mainFunction => cases hop

/-- A run of steps that are all defined covers every operation. -/
theorem run_length {ops : List ComOp} (h : ∀ op ∈ ops, ∀ s, op.step cfg s ≠ none)
    (s : ComState) :
    (run cfg s ops).length = ops.length := by
  induction ops generalizing s with
  | nil => rfl
  | cons op ops ih =>
    simp only [run]
    cases hr : op.step cfg s with
    | none => exact absurd hr (h op (by simp) s)
    | some r => simp [ih (fun o ho => h o (by simp [ho]))]

/-- A call has a step in a state exactly when it is defined: the undefined behaviour of a call
depends on its arguments alone. -/
theorem step_isSome (op : ComOp) (s : ComState) : (op.step cfg s).isSome = op.isDefined cfg := by
  cases op with
  | groupStart g d => simpa [ComOp.step, ComOp.isDefined] using Com_IpduGroupStart_isSome cfg g d s
  | groupStop g => simpa [ComOp.step, ComOp.isDefined] using Com_IpduGroupStop_isSome cfg g s
  | sendSignal i src =>
    cases src <;> by_cases hi : i < cfg.numOfSignals <;>
      cases hsup : (cfg.SignalConfigs i).supported <;>
      simp [ComOp.step, ComOp.isDefined, Com_SendSignal, hi, hsup]
  | _ => rfl

/-- A run of defined calls covers every call. -/
theorem run_length_of_defined {ops : List ComOp} (h : ∀ op ∈ ops, op.isDefined cfg)
    (s : ComState) : (run cfg s ops).length = ops.length :=
  run_length (fun op hop s => Option.ne_none_iff_isSome.2 ((step_isSome op s).trans (h op hop))) s

end Runs

end Ssas
