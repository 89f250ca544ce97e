-- SUMMARY: One TX main-function tick as a whole: the PduR_ComTransmit calls it makes, one per due TX I-PDU in index order with that I-PDU's buffer, and the timer and buffer it leaves each I-PDU, which depend on that I-PDU's own transmit outcome alone.
import Ssas.Com.Pdu

/-!
# One TX tick

`Com_MainFunctionTx_at` follows one I-PDU through a tick; here the tick is taken as a whole.
What a tick owes I-PDU `i` is read off its state on entry and the result PduR gives for `i`:
`txCall` is the `PduR_ComTransmit` call, one for a TX I-PDU that is active with its timer at
one, with its `TxPduId`, its buffer and its length; `txTimerNext` and `pduDataNext` are the
timer and the buffer the I-PDU is left with.

In a well-formed configuration a tick makes exactly the calls it owes, in increasing index
order, and leaves every I-PDU what it owes it (`Com_MainFunctionTx_calls`). Since the three
read the transmit results only at `i`, the result PduR gives one I-PDU changes neither the
timer nor the buffer of another.
-/

namespace Ssas

/-- The `PduR_ComTransmit` call a TX tick owes I-PDU `i` in state `s`, where PduR returns
`ret`: the I-PDU's `TxPduId` and the first `length` bytes of its buffer. -/
def txCall (cfg : Com_ConfigType) (ret : Std_ReturnType) (i : Nat) (s : ComState) :
    Option ComEvent :=
  match (cfg.IPduConfigs i).txConfig with
  | some tx =>
    if s.active cfg i ∧ s.txTimer i = 1 then
      some (.transmit i tx.TxPduId ((s.pduData i).take (cfg.IPduConfigs i).length) ret)
    else none
  | none => none

/-- The TX timer a tick leaves I-PDU `i`: re-armed after a transmission, one tick less for an
active I-PDU still counting down, unchanged otherwise. -/
def txTimerNext (cfg : Com_ConfigType) (ret : Std_ReturnType) (i : Nat) (s : ComState) : Nat :=
  match (cfg.IPduConfigs i).txConfig with
  | some tx =>
    if s.active cfg i ∧ s.txTimer i = 1 then (if ret = .E_OK then tx.CycleTime else 1)
    else if s.active cfg i then s.txTimer i - 1 else s.txTimer i
  | none => s.txTimer i

/-- The buffer a tick leaves I-PDU `i`: its signals' update bits cleared after a transmission
PduR accepted, unchanged otherwise. -/
def pduDataNext (cfg : Com_ConfigType) (ret : Std_ReturnType) (i : Nat) (s : ComState) : Mem :=
  if (txCall cfg ret i s).isSome ∧ ret = .E_OK then
    (cfg.IPduConfigs i).signals.foldl (fun buf j => clearUpdateBit (cfg.SignalConfigs j) buf)
      (s.pduData i)
  else s.pduData i

section Tick

variable {cfg : Com_ConfigType}

/-- The TX pass over `i` makes the call the tick owes `i` and leaves `i` what the tick owes
it. -/
theorem ipduMainFunctionTx_spec (hwf : cfg.WellFormed) {i : Nat} (hi : i < cfg.numOfIPdus)
    (ret : Std_ReturnType) (s : ComState) :
    (ipduMainFunctionTx cfg ret i s).2 = (txCall cfg ret i s).toList ∧
      (ipduMainFunctionTx cfg ret i s).1.txTimer i = txTimerNext cfg ret i s ∧
      (ipduMainFunctionTx cfg ret i s).1.pduData i = pduDataNext cfg ret i s := by
  rw [ipduMainFunctionTx_eq]
  simp only [txCall, txTimerNext, pduDataNext]
  rcases Option.eq_none_or_eq_some (cfg.IPduConfigs i).txConfig with htx | ⟨tx, htx⟩
  · simp [htx]
  · by_cases hdue : s.active cfg i ∧ s.txTimer i = 1
    · by_cases hret : ret = .E_OK <;>
        simp [htx, hdue, hret, transmitEvent, comTxClearUpdateBit_pduData_self hwf hi]
    · simp [htx, hdue]

/-- In a well-formed configuration a TX tick calls `PduR_ComTransmit` once for each TX I-PDU
that is active with its timer at one on entry, for no other, in increasing index order, with
the I-PDU's `TxPduId`, its buffer on entry and its length; and it leaves every I-PDU the timer
and the buffer that its own pass computes from the entry state and its own transmit result. -/
theorem Com_MainFunctionTx_calls (hwf : cfg.WellFormed) (res : Nat → Std_ReturnType)
    (s : ComState) :
    (Com_MainFunctionTx cfg res s).2 =
        (List.range cfg.numOfIPdus).filterMap (fun i => txCall cfg (res i) i s) ∧
      ∀ i < cfg.numOfIPdus,
        (Com_MainFunctionTx cfg res s).1.txTimer i = txTimerNext cfg (res i) i s ∧
        (Com_MainFunctionTx cfg res s).1.pduData i = pduDataNext cfg (res i) i s := by
  refine ⟨?_, fun i hi => ?_⟩
  · have hsnd := forEachIPdu_snd (fun i s => s.view i) (List.nodup_range cfg.numOfIPdus)
      (fun i hi j _ hij s => ipduMainFunctionTx_view_other hwf (List.mem_range.1 hi) (Ne.symm hij)
        (res i) s)
      (fun i hi s s' h => (ipduMainFunctionTx_local hwf (List.mem_range.1 hi) (res i) h).2) s
    rw [Com_MainFunctionTx, hsnd, List.filterMap_eq_flatMap_toList]
    exact List.flatMap_congr fun i hi => (ipduMainFunctionTx_spec hwf (List.mem_range.1 hi) _ s).1
  · have hview := congrArg (fun v => (v.2.2.2.1, v.2.2.2.2)) (Com_MainFunctionTx_at hwf res hi s).1
    obtain ⟨-, htimer, hbuf⟩ := ipduMainFunctionTx_spec hwf hi (res i) s
    simp only [ComState.view, Prod.mk.injEq] at hview
    exact ⟨hview.1.trans htimer, hview.2.trans hbuf⟩

/-- The state of the sample configuration in which I-PDU 0 is active and due, with update bit 8
set. -/
def dueState : ComState :=
  ⟨1, fun _ => 0, fun _ => 1, fun _ k => if k = 1 then 0x01#8 else 0, fun _ => Mem.zero⟩

theorem Com_MainFunctionTx_calls_sample :
    sampleConfig.WellFormed ∧
      (Com_MainFunctionTx sampleConfig (fun _ => .E_OK) dueState).2 =
        (List.range sampleConfig.numOfIPdus).filterMap
          (fun i => txCall sampleConfig ((fun _ => .E_OK) i) i dueState) ∧
      ∀ i < sampleConfig.numOfIPdus,
        (Com_MainFunctionTx sampleConfig (fun _ => .E_OK) dueState).1.txTimer i =
            txTimerNext sampleConfig ((fun _ => .E_OK) i) i dueState ∧
          (Com_MainFunctionTx sampleConfig (fun _ => .E_OK) dueState).1.pduData i =
            pduDataNext sampleConfig ((fun _ => .E_OK) i) i dueState :=
  ⟨sampleConfig_wellFormed, Com_MainFunctionTx_calls sampleConfig_wellFormed _ _⟩

/-- In the sample state the tick sends I-PDU 0 with update bit 8 set, re-arms it for its cycle
of 5 ticks and clears the bit; I-PDU 1 is received and is left alone. -/
example :
    (List.range 2).filterMap (fun i => txCall sampleConfig .E_OK i dueState) =
        [.transmit 0 0 [0x00#8, 0x01#8] .E_OK] ∧
      txTimerNext sampleConfig .E_OK 0 dueState = 5 ∧
      (pduDataNext sampleConfig .E_OK 0 dueState).take 2 = [0x00#8, 0x00#8] := by
  decide

end Tick

end Ssas
