-- SUMMARY: The resources of the CAN UDP simulator over every run of probes and closes from the static socketH: the sockets TcpIp_Create made are exactly those the handles hold and those closed, and the calls to TcpIp_Init, TcpIp_Close and the rx daemon's pthread_create and pthread_join follow their protocol.
import Ssas.Can.Online

/-!
# Resources of the simulator

A probe of a port that is not on-line creates sockets with `TcpIp_Create`: the read socket, and,
once the read socket is bound and joined to the multicast group, the write socket. A socket is
created when its `TcpIp_Create` returns a descriptor that is not negative. `socket_probe` closes
what it created when a later call fails, and `socket_close` closes the two sockets of the handle
it removes. What a maintainer wants of this is that no socket leaks and none is closed that was
not created, or closed twice: at every point of a run, the sockets created are, counted with
multiplicity, exactly the sockets the handles hold and the valid sockets closed
(`socketH_sockets_balance`).

A probe balances exactly, as an equation (`socket_probe_balance`); a close takes its two
sockets out of the middle of the list, so the balance of a step (`step_balance`) and of a run
is up to order, as a `List.Perm`. The close needs that every socket a handle holds is a
descriptor (`HoldsValid`), which every step keeps because it follows from the balance itself.

When the write socket's `TcpIp_Create` fails, `socket_probe` also calls `TcpIp_Close` on the
negative result; that call closes nothing that was created, and the accounting counts only the
calls on descriptors (`closedSockets`).

The other calls the simulator makes outside the list follow a protocol (`simProtocol`):
`TcpIp_Init` once and before every other, `TcpIp_Close` only after it, and the daemon's
`pthread_create` only when no daemon runs and `pthread_join` only when one does. Every run from
`socketH` is a word of that protocol, and at its end a daemon runs exactly when a port is
on-line (`socketH_protocol`): the daemon is never started twice, which would lose the first
thread's id in `socketH.rx_thread`, nor joined when it was not started.
-/

namespace Ssas

/-- The two sockets of a handle. -/
def Can_socketHandle.sockets (h : Can_socketHandle) : List Int := [h.sockRd, h.sockWt]

/-- The sockets the handles of the list hold. -/
def Can_socketHandleList.sockets (S : Can_socketHandleList) : List Int :=
  S.head.flatMap Can_socketHandle.sockets

/-- Every socket a handle holds is a descriptor, not a failed `TcpIp_Create`. -/
def Can_socketHandleList.HoldsValid (S : Can_socketHandleList) : Prop :=
  ∀ sock ∈ S.sockets, 0 ≤ sock

/-- The sockets the `TcpIp_Create` calls of a probe of a port not on-line create: the read
socket when its call returns a descriptor, and then, if the read socket is bound and joined, the
write socket when its call returns one. -/
def ProbeOutcome.created (o : ProbeOutcome) : List Int :=
  if 0 ≤ o.sockRd then
    o.sockRd :: if o.bind = .E_OK ∧ o.addToMulticast = .E_OK ∧ 0 ≤ o.sockWt then [o.sockWt]
      else []
  else []

/-- The descriptors the calls `ev` close; a `TcpIp_Close` of a negative value closes none. -/
def closedSockets (ev : List SimEvent) : List Int :=
  ev.filterMap fun
    | .TcpIp_Close sock => if 0 ≤ sock then some sock else none
    | _ => none

/-- The sockets a step creates: those of a probe of a port not on-line. -/
def SimStep.created (r : SimStep) : List Int :=
  match r.op with
  | .probe _ port _ _ o => if getHandle r.pre port = none then o.created else []
  | .close _ => []

/-- Whether an rx daemon runs: `socketH` is initialized and the daemon not marked terminated. -/
def Can_socketHandleList.daemonRunning (S : Can_socketHandleList) : Bool :=
  S.initialized && !S.terminated

/-- The order of the calls outside the list, over the state (TcpIp initialized, daemon
running): `TcpIp_Init` once and first, `TcpIp_Close` after it, the daemon's `pthread_create`
only when none runs and its `pthread_join` only when one does; `none` for a call out of order. -/
def simProtocol : Bool × Bool → SimEvent → Option (Bool × Bool)
  | (false, false), .TcpIp_Init => some (true, false)
  | (true, r), .TcpIp_Close _ => some (true, r)
  | (true, false), .rxDaemonStart => some (true, true)
  | (true, true), .rxDaemonJoin => some (true, false)
  | _, _ => none

-- ---------------------------------------------------------------------------
-- The blocks
-- ---------------------------------------------------------------------------

section Blocks

@[simp] theorem closedSockets_append (a b : List SimEvent) :
    closedSockets (a ++ b) = closedSockets a ++ closedSockets b :=
  List.filterMap_append _ _ _

theorem created_nonneg {o : ProbeOutcome} {sock : Int} (h : sock ∈ o.created) : 0 ≤ sock := by
  unfold ProbeOutcome.created at h
  split at h
  · next h0 =>
    split at h
    · next hw =>
      rcases List.mem_pair.1 h with rfl | rfl
      exacts [h0, hw.2.2]
    · exact (List.mem_singleton.1 h) ▸ h0
  · simp at h

/-- Opening the sockets: what it closes and, if both opened, the two sockets of the handle are
what it created. -/
theorem closedSockets_openSockets (o : ProbeOutcome) :
    (if (openSockets o).1 then [o.sockRd, o.sockWt] else []) ++ closedSockets (openSockets o).2 =
      o.created := by
  unfold openSockets ProbeOutcome.created
  by_cases h0 : 0 ≤ o.sockRd
  · by_cases hb : o.bind = .E_OK ∧ o.addToMulticast = .E_OK
    · by_cases hw : o.sockWt < 0
      · simp [h0, hb, hw, closedSockets]
      · simp [h0, hb, hw, closedSockets, le_of_not_lt hw]
    · have hb' : ¬(o.bind = .E_OK ∧ o.addToMulticast = .E_OK ∧ 0 ≤ o.sockWt) :=
        fun h => hb ⟨h.1, h.2.1⟩
      simp [h0, hb, hb', closedSockets]
  · simp [h0, closedSockets]

/-- The handle block: the sockets the list holds after it, with those it closes, are those
before it with those it created. -/
theorem probeHandle_balance (busid port cb : Nat) (o : ProbeOutcome) (T : Can_socketHandleList) :
    (probeHandle busid port cb o T).2.1.sockets ++ closedSockets (probeHandle busid port cb o T).2.2 =
      T.sockets ++ if getHandle T port = none then o.created else [] := by
  unfold probeHandle
  split
  · next hg => simp [hg, closedSockets]
  · next hg =>
    rw [if_pos hg, ← closedSockets_openSockets o]
    rcases openSockets o with ⟨_ | _, evs⟩ <;>
      simp [Can_socketHandleList.sockets, Can_socketHandle.sockets]

theorem closedSockets_initSocketH (S : Can_socketHandleList) :
    closedSockets (initSocketH S).2 = [] := by
  unfold initSocketH
  split <;> rfl

theorem closedSockets_startRxDaemon {o : ProbeOutcome} {S S' : Can_socketHandleList}
    {ev : List SimEvent} (h : startRxDaemon o S = some (S', ev)) : closedSockets ev = [] := by
  unfold startRxDaemon at h
  split at h
  · split at h
    · cases h; rfl
    · cases h
  · cases h; rfl

/-- A probe balances exactly: the sockets held after it, with those it closes, are those held
before it with those it created. -/
theorem socket_probe_balance {busid port baudrate cb : Nat} {o : ProbeOutcome}
    {S S' : Can_socketHandleList} {rv : Bool} {ev : List SimEvent} (hS : S.Valid)
    (h : socket_probe busid port baudrate cb o S = some (rv, S', ev)) :
    S'.sockets ++ closedSockets ev = S.sockets ++ if getHandle S port = none then o.created else [] := by
  obtain ⟨-, -, hIh⟩ := initSocketH_valid hS
  simp only [socket_probe, Option.map_eq_some', Prod.mk.injEq] at h
  obtain ⟨⟨S'', ev'⟩, hd, -, rfl, rfl⟩ := h
  have hsock : S''.sockets = (probeHandle busid port cb o (initSocketH S).1).2.1.sockets := by
    simp only [Can_socketHandleList.sockets, (startRxDaemon_spec hd).2.1]
  have hg : getHandle (initSocketH S).1 = getHandle S := by
    funext q; simp only [getHandle, hIh]
  have hT : (initSocketH S).1.sockets = S.sockets := by
    simp only [Can_socketHandleList.sockets, hIh]
  simp only [closedSockets_append, closedSockets_initSocketH, closedSockets_startRxDaemon hd,
    List.nil_append, List.append_nil, hsock, probeHandle_balance, hg, hT]

/-- A close takes out the two sockets of the handle it removes and closes them. -/
theorem socket_close_balance (port : Nat) {S : Can_socketHandleList} (hv : S.HoldsValid) :
    ((socket_close port S).1.sockets ++ closedSockets (socket_close port S).2).Perm S.sockets := by
  unfold socket_close
  dsimp only
  split
  · next h hg =>
    have hmem := (getHandle_eq_some hg).1
    have hheld : ∀ sock ∈ h.sockets, 0 ≤ sock := fun sock hs =>
      hv sock (List.mem_flatMap.2 ⟨h, hmem, hs⟩)
    have hc : closedSockets [.TcpIp_Close h.sockRd, .TcpIp_Close h.sockWt] = h.sockets := by
      simp [closedSockets, Can_socketHandle.sockets, hheld h.sockRd (by simp [Can_socketHandle.sockets]),
        hheld h.sockWt (by simp [Can_socketHandle.sockets])]
    have hperm : ((S.head.erase h).flatMap Can_socketHandle.sockets ++ h.sockets).Perm S.sockets :=
      List.perm_append_comm.trans ((List.perm_cons_erase hmem).flatMap_right _).symm
    have hjoin : closedSockets [.rxDaemonJoin] = [] := rfl
    split <;>
      simpa only [Can_socketHandleList.sockets, closedSockets_append, hc, hjoin, List.append_nil]
        using hperm
  · simp [closedSockets]

end Blocks

-- ---------------------------------------------------------------------------
-- The balance over runs
-- ---------------------------------------------------------------------------

section Balance

open List

/-- The step lemma: the sockets held after a call, with those it closes, are up to order those
held before it with those it created. -/
theorem step_balance {S : Can_socketHandleList} {op : CanOp}
    {r : Can_socketHandleList × List SimEvent} (hS : S.Valid) (hv : S.HoldsValid)
    (h : op.step S = some r) :
    (r.1.sockets ++ closedSockets r.2).Perm (S.sockets ++ SimStep.created ⟨S, op, r.1, r.2⟩) := by
  cases op with
  | probe busid port baudrate cb o =>
    obtain ⟨⟨rv, S', ev⟩, hp, rfl⟩ := Option.map_eq_some'.1 h
    exact .of_eq (socket_probe_balance hS hp)
  | close port =>
    obtain rfl := Option.some.inj h
    simpa [SimStep.created] using socket_close_balance port hv

/-- Every socket held after a call was held before it or created by it, so is a descriptor. -/
theorem holdsValid_step {S : Can_socketHandleList} {op : CanOp}
    {r : Can_socketHandleList × List SimEvent} (hS : S.Valid) (hv : S.HoldsValid)
    (h : op.step S = some r) : r.1.HoldsValid := by
  intro sock hs
  rcases List.mem_append.1 ((step_balance hS hv h).subset (List.mem_append_left _ hs)) with
    hold | hnew
  · exact hv sock hold
  · cases op with
    | probe _ port _ _ o =>
      simp only [SimStep.created] at hnew
      split at hnew
      · exact created_nonneg hnew
      · simp at hnew
    | close _ => simp [SimStep.created] at hnew

/-- The run lemma: from a valid list whose handles hold descriptors, the sockets held at the end
of a run, with those its calls close, are up to order those held at its start with those its
calls create. -/
theorem balance_run : ∀ (ops : List CanOp) {S : Can_socketHandleList}, S.Valid → S.HoldsValid →
    (simFinal S ops).HoldsValid ∧
      ((simFinal S ops).sockets ++ (runSim S ops).flatMap fun r => closedSockets r.events).Perm
        (S.sockets ++ (runSim S ops).flatMap SimStep.created)
  | [], _, _, hv => ⟨hv, by simp [simFinal, runSim]⟩
  | op :: ops, S, hS, hv => by
    cases hr : op.step S with
    | none => exact ⟨by simpa [simFinal, hr] using hv, by simp [simFinal, runSim, hr]⟩
    | some r =>
      obtain ⟨hvF, hrun⟩ := balance_run ops (simLaw_step hS hr).1 (holdsValid_step hS hv hr)
      refine ⟨by simpa [simFinal, hr] using hvF, ?_⟩
      simp only [simFinal, runSim, hr, List.flatMap_cons]
      generalize (simFinal r.1 ops).sockets = F at hrun ⊢
      calc (F ++ (closedSockets r.2 ++ (runSim r.1 ops).flatMap fun r => closedSockets r.events))
          _ ~ closedSockets r.2 ++ (r.1.sockets ++ (runSim r.1 ops).flatMap SimStep.created) :=
            (List.perm_append_comm_assoc _ _ _).trans (hrun.append_left _)
          _ ~ (S.sockets ++ SimStep.created ⟨S, op, r.1, r.2⟩) ++
              (runSim r.1 ops).flatMap SimStep.created := by
            rw [← List.append_assoc]
            exact (List.perm_append_comm.trans (step_balance hS hv hr)).append_right _
          _ = _ := List.append_assoc _ _ _

/-- Socket accounting of the CAN simulator: after every sequence of probes and closes from the
static `socketH`, up to the first abort, every socket a handle holds is a descriptor, and the
sockets held together with the descriptors `TcpIp_Close` was called on are, counted with
multiplicity, exactly the sockets `TcpIp_Create` created: no socket leaks, and none is closed
that was not created, or closed twice. -/
theorem socketH_sockets_balance (ops : List CanOp) :
    (simFinal socketH ops).HoldsValid ∧
      ((simFinal socketH ops).sockets ++ (runSim socketH ops).flatMap fun r => closedSockets r.events).Perm
        ((runSim socketH ops).flatMap SimStep.created) := by
  simpa [Can_socketHandleList.sockets, socketH] using
    balance_run ops (S := socketH) ⟨fun _ => rfl, List.nodup_nil, fun h => nomatch h⟩
      (fun _ h => nomatch h)

/-- A probe whose write socket fails closes its read socket, which it created, and calls
`TcpIp_Close` on the failed result, which closes nothing. -/
example :
    (runSim socketH [.probe 0 1 500 7 ⟨3, .E_OK, .E_OK, -1, true⟩]).map
      (fun r => (r.events, closedSockets r.events, r.created)) =
      [([.TcpIp_Init, .TcpIp_Close 3, .TcpIp_Close (-1)], [3], [3])] := by
  decide

end Balance

-- ---------------------------------------------------------------------------
-- The protocol of the calls outside the list
-- ---------------------------------------------------------------------------

section Protocol

theorem initSocketH_protocol (S : Can_socketHandleList) :
    (initSocketH S).2.foldlM simProtocol (S.initialized, S.daemonRunning) =
      some ((initSocketH S).1.initialized, (initSocketH S).1.daemonRunning) := by
  unfold initSocketH
  cases hi : S.initialized <;> simp [Can_socketHandleList.daemonRunning, hi, simProtocol]

/-- Opening the sockets only closes sockets. -/
theorem probeHandle_protocol (busid port cb : Nat) (o : ProbeOutcome) (T : Can_socketHandleList)
    (r : Bool) : (probeHandle busid port cb o T).2.2.foldlM simProtocol (true, r) = some (true, r) := by
  unfold probeHandle openSockets
  split
  · rfl
  · split_ifs <;> simp [simProtocol]

theorem startRxDaemon_protocol {o : ProbeOutcome} {T T' : Can_socketHandleList}
    {ev : List SimEvent} (h : startRxDaemon o T = some (T', ev)) (hi : T.initialized = true) :
    ev.foldlM simProtocol (true, T.daemonRunning) = some (true, T'.daemonRunning) := by
  unfold startRxDaemon at h
  split at h
  · next hc =>
    split at h
    · cases h; simp [Can_socketHandleList.daemonRunning, hi, hc.1, simProtocol]
    · cases h
  · cases h; rfl

theorem socket_probe_protocol {busid port baudrate cb : Nat} {o : ProbeOutcome}
    {S S' : Can_socketHandleList} {rv : Bool} {ev : List SimEvent}
    (h : socket_probe busid port baudrate cb o S = some (rv, S', ev)) :
    ev.foldlM simProtocol (S.initialized, S.daemonRunning) = some (S'.initialized, S'.daemonRunning) := by
  simp only [socket_probe, Option.map_eq_some', Prod.mk.injEq] at h
  obtain ⟨⟨S'', ev'⟩, hd, -, rfl, rfl⟩ := h
  have hi : (initSocketH S).1.initialized = true := by unfold initSocketH; split <;> simp_all
  have hH := (probeHandle_spec busid port cb o (initSocketH S).1).2
  have hT : (probeHandle busid port cb o (initSocketH S).1).2.1.daemonRunning =
      (initSocketH S).1.daemonRunning := by rw [hH]; rfl
  have hiT : (probeHandle busid port cb o (initSocketH S).1).2.1.initialized = true := by
    rw [hH]; exact hi
  rw [List.foldlM_append, List.foldlM_append, initSocketH_protocol, hi]
  simp only [Option.bind_eq_bind, Option.some_bind, probeHandle_protocol, ← hT,
    startRxDaemon_protocol hd hiT, (startRxDaemon_spec hd).1, hiT]

/-- A close of an on-line port closes its two sockets and joins the daemon when it takes the
last port off-line; the list is valid, so `TcpIp_Init` was called and the daemon runs. -/
theorem socket_close_protocol (port : Nat) {S : Can_socketHandleList} (hS : S.Valid) :
    (socket_close port S).2.foldlM simProtocol (S.initialized, S.daemonRunning) =
      some ((socket_close port S).1.initialized, (socket_close port S).1.daemonRunning) := by
  unfold socket_close
  dsimp only
  split
  · next h hg =>
    have hmem := (getHandle_eq_some hg).1
    have hi : S.initialized = true := by
      cases hi : S.initialized
      · simp [hS.empty_of_uninit hi] at hmem
      · rfl
    have ht : S.terminated = false := by
      cases ht : S.terminated
      · rfl
      · simp [(hS.terminated_iff hi).1 ht] at hmem
    split <;> simp [Can_socketHandleList.daemonRunning, hi, ht, simProtocol]
  · rfl

/-- The step lemma: the calls of a step from a valid list follow the protocol from the list's
state to the next one's. -/
theorem step_protocol {S : Can_socketHandleList} {op : CanOp}
    {r : Can_socketHandleList × List SimEvent} (hS : S.Valid) (h : op.step S = some r) :
    r.2.foldlM simProtocol (S.initialized, S.daemonRunning) =
      some (r.1.initialized, r.1.daemonRunning) := by
  cases op with
  | probe busid port baudrate cb o =>
    obtain ⟨⟨rv, S', ev⟩, hp, rfl⟩ := Option.map_eq_some'.1 h
    exact socket_probe_protocol hp
  | close port =>
    obtain rfl := Option.some.inj h
    exact socket_close_protocol port hS

/-- The run lemma: from a valid list, a run ends in a valid list, and its calls outside the list
follow the protocol from the start's state to the end's. -/
theorem protocol_run : ∀ (ops : List CanOp) {S : Can_socketHandleList}, S.Valid →
    (simFinal S ops).Valid ∧
      ((runSim S ops).flatMap (·.events)).foldlM simProtocol (S.initialized, S.daemonRunning) =
        some ((simFinal S ops).initialized, (simFinal S ops).daemonRunning)
  | [], _, hS => ⟨hS, rfl⟩
  | op :: ops, S, hS => by
    cases hr : op.step S with
    | none => simp [simFinal, runSim, hr, hS]
    | some r =>
      obtain ⟨hv, hrun⟩ := protocol_run ops (simLaw_step hS hr).1
      simp only [simFinal, runSim, hr, List.flatMap_cons, List.foldlM_append, step_protocol hS hr,
        Option.bind_eq_bind, Option.some_bind]
      exact ⟨hv, hrun⟩

/-- In a valid list a daemon runs exactly when a port is on-line. -/
theorem daemonRunning_eq {S : Can_socketHandleList} (hS : S.Valid) :
    S.daemonRunning = decide (S.head ≠ []) := by
  cases hi : S.initialized
  · simp [Can_socketHandleList.daemonRunning, hi, hS.empty_of_uninit hi]
  · have ht := hS.terminated_iff hi
    cases htS : S.terminated <;> simp_all [Can_socketHandleList.daemonRunning]

/-- The protocol of the simulator's calls outside the list: after every sequence of probes and
closes from the static `socketH`, with any socket outcomes and up to the first abort, the calls
to `TcpIp_Init`, `TcpIp_Close` and the daemon's `pthread_create` and `pthread_join` follow
`simProtocol`: `TcpIp_Init` once and before every other call, `TcpIp_Close` only after it, the
daemon created only when none runs and joined only when one runs; and at the end a daemon runs
exactly when a port is on-line. -/
theorem socketH_protocol (ops : List CanOp) :
    ((runSim socketH ops).flatMap (·.events)).foldlM simProtocol (false, false) =
      some ((simFinal socketH ops).initialized, decide ((simFinal socketH ops).head ≠ [])) := by
  obtain ⟨hv, hrun⟩ := protocol_run ops (S := socketH) ⟨fun _ => rfl, List.nodup_nil, fun h => nomatch h⟩
  rw [← daemonRunning_eq hv]
  exact hrun

end Protocol

end Ssas
