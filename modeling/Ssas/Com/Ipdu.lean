-- SUMMARY: The loops of Com.c: over all I-PDUs, with the law that a pass touches only its own I-PDU, and over one I-PDU's signals (data init, update-bit clearing).
import Ssas.Com.Signal

/-!
# Loops over I-PDUs and signals

`Com.c` runs three loops over all I-PDUs (group start, the RX and the TX main function) and two
over the signals of one I-PDU (`comIPduDataInit` and `comTxClearUpdateBit`). The first kind is
`forEachIPdu`, a pass per index that may emit events; `forEachIPdu_at` says that when the
other passes leave I-PDU `p`'s part of the state alone and the pass over `p` reads only that
part, the loop does to `p` exactly what the pass over `p` does, and `forEachIPdu_snd` that the
loop emits the passes' events in index order, each as from the loop's first state. The second
kind is `forEachSignal`, which rewrites the buffer each signal points into.
-/

namespace Ssas

/-- `for (i ...) body(i)` over the indices `l` in order: the state after the last pass and the
events the passes emitted. -/
def forEachIPdu (body : Nat → ComState → ComState × List ComEvent) :
    List Nat → ComState → ComState × List ComEvent
  | [], s => (s, [])
  | i :: l, s =>
    let r := body i s
    let r' := forEachIPdu body l r.1
    (r'.1, r.2 ++ r'.2)

/-- What a pass over I-PDU `p` may read and write: the group bitmap, the init regions, and `p`'s
timers and buffer. -/
def ComState.view (s : ComState) (p : Nat) : Nat × (Nat → Mem) × Nat × Nat × Mem :=
  (s.GroupStatus, s.initData, s.rxTimer p, s.txTimer p, s.pduData p)

/-- The events of I-PDU `p` in a list. -/
def eventsOf (p : Nat) (evs : List ComEvent) : List ComEvent := evs.filter (·.pdu == p)

/-- Every pass emits events of its own I-PDU only. -/
def EmitsOwn (body : Nat → ComState → ComState × List ComEvent) : Prop :=
  ∀ i s, ∀ e ∈ (body i s).2, e.pdu = i

section Loop

variable {body : Nat → ComState → ComState × List ComEvent} {α : Type}

theorem eventsOf_append (p : Nat) (l₁ l₂ : List ComEvent) :
    eventsOf p (l₁ ++ l₂) = eventsOf p l₁ ++ eventsOf p l₂ := List.filter_append _ _

theorem mem_eventsOf {p : Nat} {e : ComEvent} {evs : List ComEvent} :
    e ∈ eventsOf p evs ↔ e ∈ evs ∧ e.pdu = p := by
  simp [eventsOf]

theorem count_eventsOf {p : Nat} {e : ComEvent} (he : e.pdu = p) (evs : List ComEvent) :
    (eventsOf p evs).count e = evs.count e :=
  List.count_filter (by simpa using he)

theorem eventsOf_of_forall_ne {p : Nat} {evs : List ComEvent} (h : ∀ e ∈ evs, e.pdu ≠ p) :
    eventsOf p evs = [] :=
  List.filter_eq_nil_iff.2 fun e he => by simpa using h e he

theorem eventsOf_of_forall_eq {p : Nat} {evs : List ComEvent} (h : ∀ e ∈ evs, e.pdu = p) :
    eventsOf p evs = evs :=
  List.filter_eq_self.2 fun e he => by simpa using h e he

/-- Passes that all keep a part of the state keep it over the loop. -/
theorem forEachIPdu_frame (V : ComState → α) {l : List Nat}
    (h : ∀ i ∈ l, ∀ s, V (body i s).1 = V s) (s : ComState) :
    V (forEachIPdu body l s).1 = V s := by
  induction l generalizing s with
  | nil => rfl
  | cons i l ih =>
    simp only [forEachIPdu]
    rw [ih (fun j hj => h j (by simp [hj])), h i (by simp)]

/-- What every pass emits, the loop emits. -/
theorem forEachIPdu_events {P : ComEvent → Prop} {l : List Nat} (h : ∀ i ∈ l, ∀ s, ∀ e ∈ (body i s).2, P e)
    (s : ComState) : ∀ e ∈ (forEachIPdu body l s).2, P e := by
  induction l generalizing s with
  | nil => simp [forEachIPdu]
  | cons i l ih =>
    simp only [forEachIPdu, List.mem_append]
    rintro e (he | he)
    · exact h i (by simp) s e he
    · exact ih (fun j hj => h j (by simp [hj])) _ e he

/-- A loop that never passes over `p` emits no event of `p`. -/
theorem forEachIPdu_eventsOf_not_mem (hown : EmitsOwn body) {p : Nat} {l : List Nat}
    (hp : p ∉ l) (s : ComState) : eventsOf p (forEachIPdu body l s).2 = [] := by
  induction l generalizing s with
  | nil => rfl
  | cons i l ih =>
    simp only [forEachIPdu, eventsOf_append]
    rw [ih (fun h => hp (by simp [h])), eventsOf_of_forall_ne fun e he => by
      rw [hown i s e he]; rintro rfl; exact hp (by simp)]
    rfl

/-- The loop does to I-PDU `p` what the pass over `p` does, when the other passes keep `p`'s
view `V` and the pass over `p` depends on nothing else; its events are compared through `E`. -/
theorem forEachIPdu_at {β : Type} (V : ComState → α) (E : ComEvent → β) (hown : EmitsOwn body)
    {p : Nat} {l : List Nat} (hp : p ∈ l) (hnd : l.Nodup)
    (hother : ∀ i ∈ l, i ≠ p → ∀ s, V (body i s).1 = V s)
    (hlocal : ∀ s s', V s = V s' →
      V (body p s).1 = V (body p s').1 ∧ (body p s).2.map E = (body p s').2.map E)
    (s : ComState) :
    V (forEachIPdu body l s).1 = V (body p s).1 ∧
      (eventsOf p (forEachIPdu body l s).2).map E = (body p s).2.map E := by
  induction l generalizing s with
  | nil => simp at hp
  | cons i l ih =>
    obtain ⟨hil, hnd'⟩ := List.nodup_cons.1 hnd
    simp only [forEachIPdu, eventsOf_append]
    by_cases hip : i = p
    · subst hip
      refine ⟨forEachIPdu_frame V (fun j hj => hother j (by simp [hj]) (fun h => hil (h ▸ hj))) _, ?_⟩
      rw [forEachIPdu_eventsOf_not_mem hown hil, eventsOf_of_forall_eq (hown i s), List.append_nil]
    · have hpl : p ∈ l := by simpa [Ne.symm hip] using hp
      obtain ⟨hV, hE⟩ := ih hpl hnd' (fun j hj => hother j (by simp [hj])) (body i s).1
      have hloc := hlocal _ _ (hother i (by simp) hip s)
      refine ⟨hV.trans hloc.1, ?_⟩
      rw [eventsOf_of_forall_ne fun e he => by rw [hown i s e he]; exact hip, List.nil_append, hE,
        hloc.2]

/-- The loop emits, in the order of `l`, what each pass emits from the loop's first state, when
the other passes keep the part `V i` of the state that the pass over `i` reads. -/
theorem forEachIPdu_snd {β : Type} (V : Nat → ComState → β) {l : List Nat} (hnd : l.Nodup)
    (hother : ∀ i ∈ l, ∀ j ∈ l, i ≠ j → ∀ s, V j (body i s).1 = V j s)
    (hlocal : ∀ i ∈ l, ∀ s s', V i s = V i s' → (body i s).2 = (body i s').2) (s : ComState) :
    (forEachIPdu body l s).2 = l.flatMap fun i => (body i s).2 := by
  induction l generalizing s with
  | nil => rfl
  | cons i l ih =>
    obtain ⟨hil, hnd'⟩ := List.nodup_cons.1 hnd
    have hsub : ∀ j ∈ l, j ∈ i :: l := fun j hj => List.mem_cons_of_mem i hj
    rw [forEachIPdu, List.flatMap_cons,
      ih hnd' (fun a ha b hb => hother a (hsub a ha) b (hsub b hb)) (fun a ha => hlocal a (hsub a ha))]
    refine congrArg _ (List.flatMap_congr fun j hj => hlocal j (hsub j hj) _ _ ?_)
    exact hother i (List.mem_cons_self i l) j (hsub j hj) (fun h => hil (h ▸ hj)) s

end Loop

-- ---------------------------------------------------------------------------
-- Loops over the signals of one I-PDU
-- ---------------------------------------------------------------------------

/-- `for (i = 0; i < numOfSignals; i++) { signal = signals[i]; ... }`, where each pass rewrites
the buffer `signal->ptr` points into with `f signal`. -/
def forEachSignal (cfg : Com_ConfigType) (f : Com_SignalConfigType → Mem → Mem) (signals : List Nat)
    (s : ComState) : ComState :=
  signals.foldl (fun s j =>
    let signal := cfg.SignalConfigs j
    s.setPdu signal.ptr.pdu (f signal (s.pduData signal.ptr.pdu))) s

/-- The buffer a data init leaves for the signals `l` of one I-PDU: each sent in turn from its
init region. -/
def initFold (cfg : Com_ConfigType) (initData : Nat → Mem) (l : List Nat) (buf : Mem) : Mem :=
  l.foldl (fun buf j =>
    (comSendSignal (cfg.SignalConfigs j) (initData (cfg.SignalConfigs j).initPtr) buf).2) buf

@[simp] theorem initFold_nil (cfg : Com_ConfigType) (initData : Nat → Mem) (buf : Mem) :
    initFold cfg initData [] buf = buf := rfl

@[simp] theorem initFold_cons (cfg : Com_ConfigType) (initData : Nat → Mem) (j : Nat) (l : List Nat)
    (buf : Mem) :
    initFold cfg initData (j :: l) buf =
      initFold cfg initData l
        (comSendSignal (cfg.SignalConfigs j) (initData (cfg.SignalConfigs j).initPtr) buf).2 := rfl

/-- `comIPduDataInit(IPduConfig)`: send every signal of the I-PDU from its init value. -/
def comIPduDataInit (cfg : Com_ConfigType) (IPduConfig : Com_IPduConfigType) (s : ComState) :
    ComState :=
  forEachSignal cfg (fun signal buf => (comSendSignal signal (s.initData signal.initPtr) buf).2)
    IPduConfig.signals s

/-- The pass of `comTxClearUpdateBit` over one signal: its update bit cleared, if it has one. -/
def clearUpdateBit (signal : Com_SignalConfigType) (buf : Mem) : Mem :=
  match signal.UpdateBit with
  | some u => Std_BitClear buf (signal.bitAt u)
  | none => buf

/-- `comTxClearUpdateBit(IPduConfig)`: clear the update bit of every signal of the I-PDU that
has one. -/
def comTxClearUpdateBit (cfg : Com_ConfigType) (IPduConfig : Com_IPduConfigType) (s : ComState) :
    ComState :=
  forEachSignal cfg clearUpdateBit IPduConfig.signals s

section Signals

variable {cfg : Com_ConfigType} {f : Com_SignalConfigType → Mem → Mem}

/-- What no buffer write changes, no signal loop changes. -/
theorem forEachSignal_frame {α : Type} (V : ComState → α) (hV : ∀ s p m, V (s.setPdu p m) = V s)
    (l : List Nat) (s : ComState) : V (forEachSignal cfg f l s) = V s := by
  induction l generalizing s with
  | nil => rfl
  | cons j l ih => exact (ih _).trans (hV _ _ _)

@[simp] theorem forEachSignal_GroupStatus (l : List Nat) (s : ComState) :
    (forEachSignal cfg f l s).GroupStatus = s.GroupStatus :=
  forEachSignal_frame ComState.GroupStatus (fun _ _ _ => rfl) l s

@[simp] theorem forEachSignal_rxTimer (l : List Nat) (s : ComState) :
    (forEachSignal cfg f l s).rxTimer = s.rxTimer :=
  forEachSignal_frame ComState.rxTimer (fun _ _ _ => rfl) l s

@[simp] theorem forEachSignal_txTimer (l : List Nat) (s : ComState) :
    (forEachSignal cfg f l s).txTimer = s.txTimer :=
  forEachSignal_frame ComState.txTimer (fun _ _ _ => rfl) l s

@[simp] theorem forEachSignal_initData (l : List Nat) (s : ComState) :
    (forEachSignal cfg f l s).initData = s.initData :=
  forEachSignal_frame ComState.initData (fun _ _ _ => rfl) l s

/-- A buffer no signal of the list points into is untouched. -/
theorem forEachSignal_pduData_other {l : List Nat} {q : Nat}
    (h : ∀ j ∈ l, (cfg.SignalConfigs j).ptr.pdu ≠ q) (s : ComState) :
    (forEachSignal cfg f l s).pduData q = s.pduData q := by
  induction l generalizing s with
  | nil => rfl
  | cons j l ih =>
    simp only [forEachSignal, List.foldl_cons] at ih ⊢
    rw [ih (fun k hk => h k (by simp [hk])), ComState.setPdu_pduData,
      if_neg (Ne.symm (h j (by simp)))]

/-- The buffer every signal of the list points into is rewritten by each signal in turn. -/
theorem forEachSignal_pduData_self {l : List Nat} {p : Nat}
    (h : ∀ j ∈ l, (cfg.SignalConfigs j).ptr.pdu = p) (s : ComState) :
    (forEachSignal cfg f l s).pduData p =
      l.foldl (fun buf j => f (cfg.SignalConfigs j) buf) (s.pduData p) := by
  induction l generalizing s with
  | nil => rfl
  | cons j l ih =>
    simp only [forEachSignal, List.foldl_cons] at ih ⊢
    rw [ih (fun k hk => h k (by simp [hk])), ComState.setPdu_pduData, h j (by simp), if_pos rfl]

@[simp] theorem comTxClearUpdateBit_GroupStatus (IPduConfig : Com_IPduConfigType) (s : ComState) :
    (comTxClearUpdateBit cfg IPduConfig s).GroupStatus = s.GroupStatus :=
  forEachSignal_GroupStatus _ _

@[simp] theorem comTxClearUpdateBit_rxTimer (IPduConfig : Com_IPduConfigType) (s : ComState) :
    (comTxClearUpdateBit cfg IPduConfig s).rxTimer = s.rxTimer :=
  forEachSignal_rxTimer _ _

@[simp] theorem comTxClearUpdateBit_txTimer (IPduConfig : Com_IPduConfigType) (s : ComState) :
    (comTxClearUpdateBit cfg IPduConfig s).txTimer = s.txTimer :=
  forEachSignal_txTimer _ _

@[simp] theorem comTxClearUpdateBit_initData (IPduConfig : Com_IPduConfigType) (s : ComState) :
    (comTxClearUpdateBit cfg IPduConfig s).initData = s.initData :=
  forEachSignal_initData _ _

/-- In a well-formed configuration the update-bit clearing of I-PDU `i` touches no other
buffer. -/
theorem comTxClearUpdateBit_pduData_other (hwf : cfg.WellFormed) {i q : Nat}
    (hi : i < cfg.numOfIPdus) (h : q ≠ i) (s : ComState) :
    (comTxClearUpdateBit cfg (cfg.IPduConfigs i) s).pduData q = s.pduData q :=
  forEachSignal_pduData_other (fun j hj => by rw [(hwf.signal_ptr i hi j hj).2]; exact Ne.symm h) s

/-- In a well-formed configuration the update-bit clearing of I-PDU `i` clears its signals'
update bits in its own buffer, one signal after the other. -/
theorem comTxClearUpdateBit_pduData_self (hwf : cfg.WellFormed) {i : Nat} (hi : i < cfg.numOfIPdus)
    (s : ComState) :
    (comTxClearUpdateBit cfg (cfg.IPduConfigs i) s).pduData i =
      (cfg.IPduConfigs i).signals.foldl (fun buf j => clearUpdateBit (cfg.SignalConfigs j) buf)
        (s.pduData i) :=
  forEachSignal_pduData_self (fun j hj => (hwf.signal_ptr i hi j hj).2) s

/-- Clearing a signal's update bit clears that bit and keeps every other. -/
theorem Std_BitGet_clearUpdateBit (signal : Com_SignalConfigType) (buf : Mem) (q : Nat) :
    Std_BitGet (clearUpdateBit signal buf) q = (Std_BitGet buf q && signal.updatePos != some q) := by
  unfold clearUpdateBit
  split
  · next u hU =>
    simp only [Std_BitClear, Std_BitGet_writeBit, Com_SignalConfigType.updatePos, hU,
      Option.map_some']
    by_cases hq : q = signal.bitAt u
    · simp [hq]
    · simp [hq, Ne.symm hq]
  · next hU => simp [Com_SignalConfigType.updatePos, hU]

/-- Clearing the update bits of a list of signals clears exactly their update bits. -/
theorem Std_BitGet_foldl_clearUpdateBit (l : List Nat) (buf : Mem) (q : Nat) :
    Std_BitGet (l.foldl (fun buf j => clearUpdateBit (cfg.SignalConfigs j) buf) buf) q =
      (Std_BitGet buf q && !l.any fun j => (cfg.SignalConfigs j).updatePos == some q) := by
  induction l generalizing buf with
  | nil => simp
  | cons j l ih =>
    rw [List.foldl_cons, ih, Std_BitGet_clearUpdateBit, List.any_cons]
    simp only [bne, Bool.not_or, Bool.and_assoc]

/-- In a well-formed configuration the data init of I-PDU `i` touches no other buffer. -/
theorem comIPduDataInit_pduData_other (hwf : cfg.WellFormed) {i q : Nat} (hi : i < cfg.numOfIPdus)
    (h : q ≠ i) (s : ComState) :
    (comIPduDataInit cfg (cfg.IPduConfigs i) s).pduData q = s.pduData q :=
  forEachSignal_pduData_other (fun j hj => by rw [(hwf.signal_ptr i hi j hj).2]; exact Ne.symm h) s

/-- In a well-formed configuration the data init of I-PDU `i` sends its signals from their init
regions into its own buffer. -/
theorem comIPduDataInit_pduData_self (hwf : cfg.WellFormed) {i : Nat} (hi : i < cfg.numOfIPdus)
    (s : ComState) :
    (comIPduDataInit cfg (cfg.IPduConfigs i) s).pduData i =
      initFold cfg s.initData (cfg.IPduConfigs i).signals (s.pduData i) :=
  forEachSignal_pduData_self (fun j hj => (hwf.signal_ptr i hi j hj).2) s

end Signals

end Ssas
