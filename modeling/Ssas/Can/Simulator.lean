-- SUMMARY: The handle list of the CAN UDP simulator: over every sequence of socket_probe and socket_close calls and every socket outcome it keeps one handle per port, a probe adds exactly the handle it reports, a close removes exactly its port's, and the rx daemon runs exactly while a port is on-line.
import Ssas.Std.Types

/-!
# The CAN UDP simulator

`simulator_can_v2.c` carries each CAN bus over a UDP multicast port. `socketH` keeps a list of
handles, one per port that is on-line, and an rx daemon thread that serves them.
`socket_probe` initializes `socketH` on its first call, opens a read and a write socket for a
port that is not yet on-line and appends its handle, and starts the daemon when the list has
just become non-empty; `socket_close` removes a port's handle, closing its sockets, and stops
the daemon when the list becomes empty.

The TcpIp layer and `pthread_create` are outside the model: each probe comes with what they
return (`ProbeOutcome`), and the calls the simulator makes outside the list are events. A
failed `pthread_create` reaches `assert(0)`, which aborts: that probe is `none`. The calls are
run one at a time, as the mutex serializes them; the daemon's reads and `socket_write` do not
change the list and are left out.
-/

namespace Ssas

/-- `struct Can_socketHandle_s`; `rx_notification` is the callback's address. -/
structure Can_socketHandle where
  busid : Nat
  port : Nat
  rx_notification : Nat
  sockRd : Int
  sockWt : Int
  deriving DecidableEq, Repr

/-- `struct Can_socketHandleList_s`, without the daemon's thread id and the mutex. -/
structure Can_socketHandleList where
  initialized : Bool
  terminated : Bool
  head : List Can_socketHandle
  deriving DecidableEq, Repr

/-- `socketH` as its static initializer leaves it. -/
def socketH : Can_socketHandleList := ⟨false, false, []⟩

/-- The ports on-line. -/
def Can_socketHandleList.ports (S : Can_socketHandleList) : List Nat := S.head.map (·.port)

/-- What the TcpIp layer and `pthread_create` return to one probe: the two `TcpIp_Create`
results, negative for a failure, `TcpIp_Bind`, `TcpIp_AddToMulticast`, and whether
`pthread_create` succeeds. -/
structure ProbeOutcome where
  sockRd : Int
  bind : Std_ReturnType
  addToMulticast : Std_ReturnType
  sockWt : Int
  rxThreadCreated : Bool
  deriving DecidableEq, Repr

/-- The calls the simulator makes outside the list. -/
inductive SimEvent where
  | TcpIp_Init
  | TcpIp_Close (sock : Int)
  | rxDaemonStart
  | rxDaemonJoin
  deriving DecidableEq, Repr

/-- `getHandle(port)`: the first handle of the port. -/
def getHandle (S : Can_socketHandleList) (port : Nat) : Option Can_socketHandle :=
  S.head.find? (·.port == port)

/-- The first block of `socket_probe`: `socketH` initialized on the first call, with the daemon
marked terminated. -/
def initSocketH (S : Can_socketHandleList) : Can_socketHandleList × List SimEvent :=
  if S.initialized then (S, []) else (⟨true, true, []⟩, [.TcpIp_Init])

/-- The opening of the read and the write socket in `socket_probe`: whether both opened, and
the sockets closed on a failure. -/
def openSockets (o : ProbeOutcome) : Bool × List SimEvent :=
  if 0 ≤ o.sockRd then
    if o.bind = .E_OK ∧ o.addToMulticast = .E_OK then
      if o.sockWt < 0 then (false, [.TcpIp_Close o.sockRd, .TcpIp_Close o.sockWt]) else (true, [])
    else (false, [.TcpIp_Close o.sockRd])
  else (false, [])

/-- The second block of `socket_probe`: for a port not on-line, the sockets opened and, if both
opened, the handle appended. -/
def probeHandle (busid port rx_notification : Nat) (o : ProbeOutcome) (S : Can_socketHandleList) :
    Bool × Can_socketHandleList × List SimEvent :=
  match getHandle S port with
  | some _ => (false, S, [])
  | none =>
    let r := openSockets o
    if r.1 then
      (true,
        { S with head := S.head ++ [⟨busid, port, rx_notification, o.sockRd, o.sockWt⟩] }, r.2)
    else (false, S, r.2)

/-- The last block of `socket_probe`: the daemon started when it is terminated and the list is
not empty; `none` where `pthread_create` fails and `assert(0)` aborts. -/
def startRxDaemon (o : ProbeOutcome) (S : Can_socketHandleList) :
    Option (Can_socketHandleList × List SimEvent) :=
  if S.terminated ∧ S.head ≠ [] then
    if o.rxThreadCreated then some ({ S with terminated := false }, [.rxDaemonStart]) else none
  else some (S, [])

/-- `socket_probe(busid, port, baudrate, rx_notification)`: the return value, the list and the
calls made. The source does not use `baudrate`. -/
def socket_probe (busid port _baudrate rx_notification : Nat) (o : ProbeOutcome)
    (S : Can_socketHandleList) : Option (Bool × Can_socketHandleList × List SimEvent) :=
  let i := initSocketH S
  let h := probeHandle busid port rx_notification o i.1
  (startRxDaemon o h.2.1).map fun d => (h.1, d.1, i.2 ++ h.2.2 ++ d.2)

/-- `socket_close(port)`: the port's handle removed and its sockets closed, and the daemon
joined when the list becomes empty. -/
def socket_close (port : Nat) (S : Can_socketHandleList) : Can_socketHandleList × List SimEvent :=
  match getHandle S port with
  | some h =>
    let S' := { S with head := S.head.erase h }
    let ev := [.TcpIp_Close h.sockRd, .TcpIp_Close h.sockWt]
    if S'.head = [] then ({ S' with terminated := true }, ev ++ [.rxDaemonJoin]) else (S', ev)
  | none => (S, [])

/-- Both sockets of a probe opened. -/
def ProbeOutcome.opened (o : ProbeOutcome) : Bool :=
  decide (0 ≤ o.sockRd ∧ o.bind = .E_OK ∧ o.addToMulticast = .E_OK ∧ 0 ≤ o.sockWt)

-- ---------------------------------------------------------------------------
-- Runs
-- ---------------------------------------------------------------------------

/-- The calls of the CAN device operations that change the list, with the outcomes of the calls
they make. -/
inductive CanOp where
  | probe (busid port baudrate rx_notification : Nat) (o : ProbeOutcome)
  | close (port : Nat)

/-- The call on the list: the list after it and its events; `none` where it aborts. -/
def CanOp.step : CanOp → Can_socketHandleList → Option (Can_socketHandleList × List SimEvent)
  | probe busid port baudrate cb o, S => (socket_probe busid port baudrate cb o S).map (·.2)
  | close port, S => some (socket_close port S)

/-- The calls on which `pthread_create` succeeds. -/
def CanOp.rxThreadCreated : CanOp → Bool
  | probe _ _ _ _ o => o.rxThreadCreated
  | close _ => true

/-- One step of a run. -/
structure SimStep where
  pre : Can_socketHandleList
  op : CanOp
  post : Can_socketHandleList
  events : List SimEvent

/-- The steps of running `ops` from `S`, up to the first abort. -/
def runSim : Can_socketHandleList → List CanOp → List SimStep
  | _, [] => []
  | S, op :: ops =>
    match op.step S with
    | some r => ⟨S, op, r.1, r.2⟩ :: runSim r.1 ops
    | none => []

/-- The invariant of `socketH`: the list is empty until it is initialized, holds one handle per
port, and once initialized the daemon is terminated exactly when the list is empty. -/
structure Can_socketHandleList.Valid (S : Can_socketHandleList) : Prop where
  empty_of_uninit : S.initialized = false → S.head = []
  nodup : S.ports.Nodup
  terminated_iff : S.initialized = true → (S.terminated = true ↔ S.head = [])

/-- The law of a step: the list stays valid; a probe returns `true` exactly when its port was
not on-line and both sockets opened, and then appends that port's handle and otherwise keeps
the list; a close removes its port's handle and keeps the others in order. -/
def SimLaw (r : SimStep) : Prop :=
  r.post.Valid ∧
    match r.op with
    | .probe busid port baudrate cb o => ∃ rv,
      socket_probe busid port baudrate cb o r.pre = some (rv, r.post, r.events) ∧
      (rv = true ↔ port ∉ r.pre.ports ∧ o.opened = true) ∧
      r.post.head = r.pre.head ++ if rv then [⟨busid, port, cb, o.sockRd, o.sockWt⟩] else []
    | .close port => r.post.head = r.pre.head.filter (·.port ≠ port)

-- ---------------------------------------------------------------------------
-- The blocks
-- ---------------------------------------------------------------------------

section Blocks

theorem getHandle_eq_none {S : Can_socketHandleList} {port : Nat} :
    getHandle S port = none ↔ port ∉ S.ports := by
  simp [getHandle, Can_socketHandleList.ports, List.find?_eq_none]

theorem getHandle_eq_some {S : Can_socketHandleList} {port : Nat} {h : Can_socketHandle}
    (hg : getHandle S port = some h) : h ∈ S.head ∧ h.port = port := by
  have := List.find?_some hg
  exact ⟨List.mem_of_find?_eq_some hg, by simpa using this⟩

/-- In a list with one handle per port, removing the first handle of a port removes all of
them. -/
theorem erase_find?_eq_filter {l : List Can_socketHandle} {port : Nat} {h : Can_socketHandle}
    (hnd : (l.map (·.port)).Nodup) (hf : l.find? (·.port == port) = some h) :
    l.erase h = l.filter (·.port ≠ port) := by
  induction l with
  | nil => simp at hf
  | cons x l ih =>
    simp only [List.map_cons, List.nodup_cons, List.mem_map] at hnd
    by_cases hx : x.port = port
    · obtain rfl : x = h := by simpa [hx] using hf
      have hl : ∀ y ∈ l, y.port ≠ port := fun y hy he => hnd.1 ⟨y, hy, he.trans hx.symm⟩
      rw [List.erase_cons_head, List.filter_cons_of_neg (by simpa using hx)]
      exact (List.filter_eq_self.2 fun y hy => by simpa using hl y hy).symm
    · have hf' : l.find? (·.port == port) = some h := by simpa [List.find?_cons, hx] using hf
      have hhp : h.port = port := by simpa using List.find?_some hf'
      have hxh : x ≠ h := by rintro rfl; exact hx hhp
      rw [List.erase_cons_tail (by simpa using hxh), ih hnd.2 hf',
        List.filter_cons_of_pos (by simpa using hx)]

/-- The initialization leaves a valid, initialized list with the same handles. -/
theorem initSocketH_valid {S : Can_socketHandleList} (hS : S.Valid) :
    (initSocketH S).1.Valid ∧ (initSocketH S).1.initialized = true ∧
      (initSocketH S).1.head = S.head := by
  unfold initSocketH
  cases hi : S.initialized
  · exact ⟨⟨by simp, by simp [Can_socketHandleList.ports], by simp⟩, rfl,
      (hS.empty_of_uninit hi).symm⟩
  · exact ⟨hS, hi, rfl⟩

theorem openSockets_fst (o : ProbeOutcome) : (openSockets o).1 = o.opened := by
  unfold openSockets ProbeOutcome.opened
  by_cases h0 : 0 ≤ o.sockRd
  · by_cases hb : o.bind = .E_OK ∧ o.addToMulticast = .E_OK
    · by_cases hw : o.sockWt < 0
      · simp [h0, hb, hw]
      · simp [h0, hb, hw]; omega
    · simp only [h0, hb, if_true, if_false]
      exact (decide_eq_false fun h => hb ⟨h.2.1, h.2.2.1⟩).symm
  · simp [h0]

/-- The handle block returns `true` exactly for a port not on-line whose sockets opened, and
then appends that port's handle; it keeps the flags. -/
theorem probeHandle_spec (busid port cb : Nat) (o : ProbeOutcome) (S : Can_socketHandleList) :
    ((probeHandle busid port cb o S).1 = true ↔ port ∉ S.ports ∧ o.opened = true) ∧
      (probeHandle busid port cb o S).2.1 = { S with head := S.head ++
        if (probeHandle busid port cb o S).1 then [⟨busid, port, cb, o.sockRd, o.sockWt⟩]
        else [] } := by
  unfold probeHandle
  split
  · next h hg =>
    have hmem : port ∈ S.ports := by
      by_contra hn; rw [← getHandle_eq_none] at hn; simp [hn] at hg
    simp [hmem]
  · next hg =>
    rw [getHandle_eq_none] at hg
    cases ho : o.opened <;> simp [openSockets_fst, ho, hg]

/-- The daemon block keeps the list and starts the daemon when it is terminated with a
non-empty list. -/
theorem startRxDaemon_spec {o : ProbeOutcome} {S S' : Can_socketHandleList} {ev : List SimEvent}
    (h : startRxDaemon o S = some (S', ev)) :
    S'.initialized = S.initialized ∧ S'.head = S.head ∧
      (S'.terminated = true ↔ S.terminated = true ∧ S.head = []) := by
  unfold startRxDaemon at h
  split at h
  · next hc =>
    split at h
    · cases h; simp [hc.2]
    · cases h
  · next hc =>
    cases h
    exact ⟨rfl, rfl, fun ht => ⟨ht, not_not.1 fun hne => hc ⟨ht, hne⟩⟩, fun h => h.1⟩

end Blocks

-- ---------------------------------------------------------------------------
-- The law over runs
-- ---------------------------------------------------------------------------

section Law

/-- A probe keeps the list valid and does what it reports. -/
theorem socket_probe_law {busid port baudrate cb : Nat} {o : ProbeOutcome}
    {S S' : Can_socketHandleList} {rv : Bool} {ev : List SimEvent} (hS : S.Valid)
    (h : socket_probe busid port baudrate cb o S = some (rv, S', ev)) :
    S'.Valid ∧ (rv = true ↔ port ∉ S.ports ∧ o.opened = true) ∧
      S'.head = S.head ++ if rv then [⟨busid, port, cb, o.sockRd, o.sockWt⟩] else [] := by
  obtain ⟨hIv, hIi, hIh⟩ := initSocketH_valid hS
  simp only [socket_probe, Option.map_eq_some', Prod.mk.injEq] at h
  obtain ⟨⟨S'', ev'⟩, hd, rfl, rfl, -⟩ := h
  obtain ⟨hdi, hdh, hdt⟩ := startRxDaemon_spec hd
  obtain ⟨hret, hH⟩ := probeHandle_spec busid port cb o (initSocketH S).1
  generalize probeHandle busid port cb o (initSocketH S).1 = P at hret hH hdi hdh hdt ⊢
  obtain ⟨rv, T, evs⟩ := P
  simp only at hret hH hdi hdh hdt ⊢
  rw [hH] at hdi hdh hdt
  simp only [hIh] at hdi hdh hdt
  have hports : (initSocketH S).1.ports = S.ports := by simp only [Can_socketHandleList.ports, hIh]
  rw [hports] at hret
  refine ⟨⟨fun hu => by simp [hdi, hIi] at hu, ?_, fun _ => ?_⟩, hret, hdh⟩
  · rw [Can_socketHandleList.ports, hdh]
    cases rv
    · simpa using hS.nodup
    · simp only [if_true, List.map_append, List.map_cons, List.map_nil]
      rw [List.nodup_append_comm]
      exact List.nodup_cons.2 ⟨(hret.1 rfl).1, hS.nodup⟩
  · have hT := hIv.terminated_iff hIi
    rw [hIh] at hT
    rw [hdt, hdh, hT]
    cases rv <;> simp

/-- A close keeps the list valid and removes exactly its port's handle. -/
theorem socket_close_law {port : Nat} {S : Can_socketHandleList} (hS : S.Valid) :
    (socket_close port S).1.Valid ∧
      (socket_close port S).1.head = S.head.filter (·.port ≠ port) := by
  unfold socket_close
  dsimp only
  split
  · next h hg =>
    obtain ⟨hmem, hport⟩ := getHandle_eq_some hg
    have hinit : S.initialized = true := by
      cases hi : S.initialized
      · simp [hS.empty_of_uninit hi] at hmem
      · rfl
    have herase := erase_find?_eq_filter hS.nodup hg
    have hnd : (S.head.erase h |>.map (·.port)).Nodup := by
      rw [herase]; exact hS.nodup.sublist ((List.filter_sublist _).map _)
    split
    · next he =>
      exact ⟨⟨fun hu => by simp [hinit] at hu, by simpa using hnd,
        fun _ => by simpa using he⟩, by simp [herase]⟩
    · next he =>
      have ht : S.terminated = false := by
        cases htS : S.terminated
        · rfl
        · simp [(hS.terminated_iff hinit).1 htS] at hmem
      exact ⟨⟨fun hu => by simp [hinit] at hu, by simpa using hnd, fun _ => by simp [ht, he]⟩,
        herase⟩
  · next hg =>
    rw [getHandle_eq_none] at hg
    simp only [Can_socketHandleList.ports, List.mem_map, not_exists, not_and] at hg
    exact ⟨hS, (List.filter_eq_self.2 fun a ha => by simpa using hg a ha).symm⟩

/-- The step lemma. -/
theorem simLaw_step {S : Can_socketHandleList} {op : CanOp}
    {r : Can_socketHandleList × List SimEvent} (hS : S.Valid) (h : op.step S = some r) :
    SimLaw ⟨S, op, r.1, r.2⟩ := by
  cases op with
  | probe busid port baudrate cb o =>
    obtain ⟨⟨rv, S', ev⟩, hp, rfl⟩ := Option.map_eq_some'.1 h
    obtain ⟨hv, hret, hhead⟩ := socket_probe_law hS hp
    exact ⟨hv, rv, hp, hret, hhead⟩
  | close port =>
    obtain rfl := Option.some.inj h
    exact socket_close_law hS

/-- The run lemma: every step of a run from a valid list obeys the law. -/
theorem simLaw_run : ∀ (ops : List CanOp) (S : Can_socketHandleList), S.Valid →
    ∀ r ∈ runSim S ops, SimLaw r
  | [], _, _ => by simp [runSim]
  | op :: ops, S, hS => by
    simp only [runSim]
    split
    · next r hr =>
      have hlaw := simLaw_step hS hr
      intro x hx
      rcases List.mem_cons.1 hx with rfl | hx
      · exact hlaw
      · exact simLaw_run ops r.1 hlaw.1 x hx
    · simp

/-- A probe aborts only where `pthread_create` fails. -/
theorem step_ne_none {op : CanOp} (hop : op.rxThreadCreated = true) (S : Can_socketHandleList) :
    op.step S ≠ none := by
  cases op with
  | probe busid port baudrate cb o =>
    simp only [CanOp.step, socket_probe, startRxDaemon, ne_eq, Option.map_eq_none']
    split
    · simp [CanOp.rxThreadCreated] at hop; simp [hop]
    · simp
  | close port => simp [CanOp.step]

theorem runSim_length {ops : List CanOp} (h : ∀ op ∈ ops, op.rxThreadCreated = true)
    (S : Can_socketHandleList) : (runSim S ops).length = ops.length := by
  induction ops generalizing S with
  | nil => rfl
  | cons op ops ih =>
    simp only [runSim]
    cases hr : op.step S with
    | none => exact absurd hr (step_ne_none (h op (by simp)) S)
    | some r => simp [ih (fun o ho => h o (by simp [ho]))]

/-- The handle-list law of the CAN simulator: from the static `socketH`, every sequence of probes
and closes in which `pthread_create` succeeds runs to its end, and at every step the list holds
one handle per port, the daemon is terminated exactly when the list is empty once it is
initialized, a probe returns `true` exactly when its port was not on-line and both its sockets
opened, and then appends that port's handle and otherwise keeps the list, and a close removes
exactly its port's handle, keeping the others in order. -/
theorem socketH_handles (ops : List CanOp) :
    ((∀ op ∈ ops, op.rxThreadCreated = true) → (runSim socketH ops).length = ops.length) ∧
      ∀ r ∈ runSim socketH ops, SimLaw r :=
  ⟨fun h => runSim_length h socketH,
    simLaw_run ops socketH ⟨fun _ => rfl, List.nodup_nil, fun h => nomatch h⟩⟩

/-- A second probe of port 1 finds it on-line and keeps the list; closing it empties the list and
stops the daemon. -/
example :
    (runSim socketH [.probe 0 1 500 0 ⟨3, .E_OK, .E_OK, 4, true⟩,
        .probe 0 1 500 0 ⟨5, .E_OK, .E_OK, 6, true⟩, .close 1]).map
      (fun r => (r.post.terminated, r.post.ports)) = [(false, [1]), (false, [1]), (true, [])] := by
  decide

end Law

end Ssas
