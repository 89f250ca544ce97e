-- SUMMARY: The handle list of the CAN UDP simulator refines a map from ports to handles: after every sequence of probes and closes, getHandle finds for each port the handle of its last successful probe not closed since, and the rx daemon serves exactly those handles.
import Ssas.Can.Frame

/-!
# The on-line ports

What the handle list of `socketH` is for is a map from each port to the handle it is on-line
with. A probe of a port that is not on-line, whose two sockets open, puts the port on-line
with the handle it builds; a close takes its port off-line; nothing else changes the map
(`CanOp.online`). This is the abstract model; the list, with its `find?` in `getHandle`, its
append in `socket_probe` and its `STAILQ_REMOVE` in `socket_close`, is the code.

The list refines the map over every run from the static `socketH`
(`socketH_refines_online`): what `getHandle` finds, and so the socket `socket_write` sends on and
the sockets `socket_close` closes, is the map's entry, and the handles the rx daemon walks are
exactly the map's entries. The step lemma is `getHandle_step`; it rests on the law of a step
(`simLaw_step`) and on the lookup after an append of a fresh port and after a removal.
-/

namespace Ssas

/-- What a call does to the on-line ports: a probe of a port that is not on-line and whose two
sockets open puts the port on-line with its handle; a close takes its port off-line. -/
def CanOp.online : CanOp → (Nat → Option Can_socketHandle) → Nat → Option Can_socketHandle
  | probe busid port _ cb o, m =>
    if m port = none ∧ o.opened = true then
      Function.update m port (some ⟨busid, port, cb, o.sockRd, o.sockWt⟩)
    else m
  | close port, m => Function.update m port none

/-- The on-line ports after the calls `ops` from none. -/
def onlineAfter (ops : List CanOp) : Nat → Option Can_socketHandle :=
  ops.foldl (fun m op => op.online m) fun _ => none

/-- The list after running `ops` from `S`, up to the first abort. -/
def simFinal : Can_socketHandleList → List CanOp → Can_socketHandleList
  | S, [] => S
  | S, op :: ops =>
    match op.step S with
    | some r => simFinal r.1 ops
    | none => S

/-- One pass of the loop of `rx_daemon`: `rx_notifiy` on each handle in list order, where the
reads on the read socket of handle `h` return `reads h`. -/
def rx_daemon (S : Can_socketHandleList) (frame : can_frame)
    (reads : Can_socketHandle → List RecvFromResult) : List RxNotification :=
  S.head.flatMap fun h => rx_notifiy h frame (reads h)

-- ---------------------------------------------------------------------------
-- Lookups after a step
-- ---------------------------------------------------------------------------

section Lookup

variable {S S' : Can_socketHandleList}

/-- Appending the handle of a port that is not on-line puts that port on-line with it. -/
theorem getHandle_of_head_append {h : Can_socketHandle} (hh : S'.head = S.head ++ [h])
    (hp : h.port ∉ S.ports) : getHandle S' = Function.update (getHandle S) h.port (some h) := by
  funext q
  by_cases hq : q = h.port
  · subst hq
    have hnone : S.head.find? (·.port == h.port) = none := getHandle_eq_none.2 hp
    simp [getHandle, hh, List.find?_append, hnone]
  · have hne : (h.port == q) = false := by simpa using Ne.symm hq
    simp [getHandle, hh, List.find?_append, hne, Function.update_noteq hq]

/-- Removing a port's handles takes that port off-line and keeps every other lookup. -/
theorem getHandle_of_head_filter {port : Nat} (hh : S'.head = S.head.filter (·.port ≠ port)) :
    getHandle S' = Function.update (getHandle S) port none := by
  funext q
  simp only [getHandle, hh, List.find?_filter]
  by_cases hq : q = port
  · subst hq
    simp [List.find?_eq_none]
  · rw [Function.update_noteq hq]
    congr 1
    funext a
    by_cases ha : a.port = q <;> simp [ha, hq]

/-- In a list with one handle per port, the handles are exactly what `getHandle` finds. -/
theorem mem_head_iff_getHandle (hS : S.Valid) {h : Can_socketHandle} :
    h ∈ S.head ↔ getHandle S h.port = some h := by
  refine ⟨fun hm => ?_, fun hg => (getHandle_eq_some hg).1⟩
  obtain ⟨h', hg⟩ := Option.isSome_iff_exists.1
    (List.find?_isSome.2 ⟨h, hm, by simp⟩ : (getHandle S h.port).isSome)
  obtain ⟨hm', hp⟩ := getHandle_eq_some hg
  exact hg.trans (congrArg some (List.inj_on_of_nodup_map hS.nodup hm' hm hp))

end Lookup

-- ---------------------------------------------------------------------------
-- The refinement over runs
-- ---------------------------------------------------------------------------

section Refinement

/-- The step lemma: a call does to the lookups what it does to the on-line ports. -/
theorem getHandle_step {S : Can_socketHandleList} {op : CanOp}
    {r : Can_socketHandleList × List SimEvent} (hS : S.Valid) (h : op.step S = some r) :
    getHandle r.1 = op.online (getHandle S) := by
  have hlaw := simLaw_step hS h
  cases op with
  | probe busid port baudrate cb o =>
    obtain ⟨-, rv, -, hrv, hhead⟩ := hlaw
    simp only [CanOp.online, getHandle_eq_none]
    cases rv
    · have hno : ¬(port ∉ S.ports ∧ o.opened = true) := fun hc => by simpa using hrv.2 hc
      simp only [Bool.false_eq_true, if_false, List.append_nil] at hhead
      rw [if_neg hno]
      funext q
      simp only [getHandle, hhead]
    · rw [if_pos (hrv.1 rfl)]
      exact getHandle_of_head_append (by simpa using hhead) (hrv.1 rfl).1
  | close port => exact getHandle_of_head_filter hlaw.2

/-- The run lemma: from a valid list, a run in which `pthread_create` succeeds keeps the list
valid and does to the lookups what its calls do to the on-line ports. -/
theorem getHandle_simFinal {ops : List CanOp} (hops : ∀ op ∈ ops, op.rxThreadCreated = true) :
    ∀ {S : Can_socketHandleList}, S.Valid →
      (simFinal S ops).Valid ∧
        getHandle (simFinal S ops) = ops.foldl (fun m op => op.online m) (getHandle S) := by
  induction ops with
  | nil => exact fun hS => ⟨hS, rfl⟩
  | cons op ops ih =>
    intro S hS
    obtain ⟨r, hr⟩ := Option.ne_none_iff_exists'.1 (step_ne_none (hops op (by simp)) S)
    have hrest := ih (fun o ho => hops o (by simp [ho])) (simLaw_step hS hr).1
    simp only [simFinal, hr, List.foldl_cons, ← getHandle_step hS hr]
    exact hrest

/-- The handle list of the CAN simulator refines the map of on-line ports: after every sequence
of probes and closes from the static `socketH` in which `pthread_create` succeeds, `getHandle`
finds for each port the handle of its last probe that put it on-line, if no close followed, and
nothing otherwise; the list holds exactly those handles; and so every callback call of a pass
of the rx daemon is a call that `rx_notifiy` makes for one of them. -/
theorem socketH_refines_online (ops : List CanOp) (hops : ∀ op ∈ ops, op.rxThreadCreated = true) :
    getHandle (simFinal socketH ops) = onlineAfter ops ∧
      (∀ h, h ∈ (simFinal socketH ops).head ↔ onlineAfter ops h.port = some h) ∧
      ∀ frame reads, ∀ n ∈ rx_daemon (simFinal socketH ops) frame reads,
        ∃ h, onlineAfter ops h.port = some h ∧ n ∈ rx_notifiy h frame (reads h) := by
  obtain ⟨hv, hg⟩ := getHandle_simFinal hops (⟨fun _ => rfl, List.nodup_nil, fun h => nomatch h⟩ :
    socketH.Valid)
  have hmap : getHandle (simFinal socketH ops) = onlineAfter ops := hg
  have hmem : ∀ h, h ∈ (simFinal socketH ops).head ↔ onlineAfter ops h.port = some h := fun h =>
    hmap ▸ mem_head_iff_getHandle hv
  refine ⟨hmap, hmem, fun frame reads n hn => ?_⟩
  obtain ⟨h, hh, hn⟩ := List.mem_flatMap.1 hn
  exact ⟨h, (hmem h).1 hh, hn⟩

/-- Port 1 probed on bus 0, probed again while on-line, closed, then probed on bus 2. -/
def reprobeOps : List CanOp :=
  [.probe 0 1 500 7 ⟨3, .E_OK, .E_OK, 4, true⟩, .probe 0 1 500 7 ⟨5, .E_OK, .E_OK, 6, true⟩,
    .close 1, .probe 2 1 500 9 ⟨8, .E_OK, .E_OK, 10, true⟩]

/-- After it, `getHandle` finds port 1 with the handle of the last probe. -/
theorem socketH_refines_online_sample :
    (∀ op ∈ reprobeOps, op.rxThreadCreated = true) ∧
      getHandle (simFinal socketH reprobeOps) 1 = some ⟨2, 1, 9, 8, 10⟩ := by
  have hops : ∀ op ∈ reprobeOps, op.rxThreadCreated = true := by decide
  have hon : onlineAfter reprobeOps 1 = some ⟨2, 1, 9, 8, 10⟩ := by decide
  exact ⟨hops, (congrFun (socketH_refines_online reprobeOps hops).1 1).trans hon⟩

end Refinement

end Ssas
