import ScionPan.Selector.Fabrid
import Mathlib.Data.List.Nodup

/-! # Opening and closing connections

`ListenUDP` and `ListenUDPWithFabrid` (udp_listen.go), `DialUDP` and `DialUDPWithFabrid`
(udp_dial.go) take resources of the process one after another, and return an error as soon as a
step fails: the reply selector's subscription to the path statistics (`stats.subscribe`), the
socket (`OpenRaw`, `openBaseUDPConn`), the subscriber the path pool delivers to
(`openPathRefreshSubscriber`), and the gRPC connection to the control service that the FABRID
server or client uses. Across ASes `openPathRefreshSubscriber` then hands the pool's list to the
selector's `Initialize`. `DialUDP`, called with a nil selector, makes a `DefaultSelector`, whose
`Initialize` takes nothing; `DialUDPWithFabrid` makes a `FabridSelector`, whose `Initialize` can
panic and, when it gets through, dials the control service once more and writes the FABRID path
into the pool's path object (`dial_with_fabrid_runs_selector`). `Close` gives back the
subscriptions and the socket (`listenConn.Close`, `dialedConn.Close`,
`pathRefreshSubscriber.Close`); nothing under src/ closes a gRPC connection.

The statistics, the pool, the sockets and gRPC are not under src/: the resources are kept per
connection id, and what the collaborators answer is `SetupEnv`. A `Process` opens and closes
connections in any order. Over every run the gRPC connections only grow, what a failed
constructor took stays taken, and once every connection is closed a run whose constructors all
succeeded holds again what it started with, gRPC connections apart
(`close_releases_but_not_on_error`). -/

namespace ScionPan

/-- The resources connections hold, by connection id: the reply selectors subscribed to the path
statistics, the subscribers registered with the path pool, the open sockets, and the open gRPC
connections to the control service. -/
structure Resources where
  statsSubscribers : List Nat
  poolSubscribers : List Nat
  sockets : List Nat
  grpcConns : List Nat
  deriving DecidableEq, Repr

namespace Resources

def subscribeStats (res : Resources) (k : Nat) : Resources :=
  { res with statsSubscribers := res.statsSubscribers ++ [k] }

def unsubscribeStats (res : Resources) (k : Nat) : Resources :=
  { res with statsSubscribers := res.statsSubscribers.erase k }

def subscribePool (res : Resources) (k : Nat) : Resources :=
  { res with poolSubscribers := res.poolSubscribers ++ [k] }

def unsubscribePool (res : Resources) (k : Nat) : Resources :=
  { res with poolSubscribers := res.poolSubscribers.erase k }

def openSocket (res : Resources) (k : Nat) : Resources :=
  { res with sockets := res.sockets ++ [k] }

def closeSocket (res : Resources) (k : Nat) : Resources :=
  { res with sockets := res.sockets.erase k }

def dialGrpc (res : Resources) (k : Nat) : Resources :=
  { res with grpcConns := res.grpcConns ++ [k] }

/-- `k` names no subscription and no socket yet. -/
def Fresh (res : Resources) (k : Nat) : Prop :=
  k ∉ res.statsSubscribers ∧ k ∉ res.poolSubscribers ∧ k ∉ res.sockets

/-- `res'` holds what `res` holds, and maybe more after it. -/
def Grows (res res' : Resources) : Prop :=
  res.statsSubscribers <+: res'.statsSubscribers ∧ res.poolSubscribers <+: res'.poolSubscribers ∧
    res.sockets <+: res'.sockets ∧ res.grpcConns <+: res'.grpcConns

end Resources

/-- What the collaborators of the constructors answer, `none` for success: `defaultLocalAddr`,
opening the socket and the address it is bound to, `SVCInfo` and the control services it lists,
`ResolveTCPAddr`, the gRPC dial, and `pool.subscribe` with the list it returns, filtered by the
connection's policy; then what the services answer `FabridSelector.Initialize`. -/
structure SetupEnv where
  defaultLocalAddrErr : Option String
  openErr : Option String
  localAddr : UDPAddr
  svcInfoErr : Option String
  controlServices : List String
  resolveErr : Option String
  grpcDialErr : Option String
  poolSubscribeErr : Option String
  poolPaths : List PathRef
  selectorHost : FabridHost

/-- Every call of a constructor answers without an error. -/
def SetupEnv.NoErrors (env : SetupEnv) : Prop :=
  env.defaultLocalAddrErr = none ∧ env.openErr = none ∧ env.svcInfoErr = none ∧
    env.resolveErr = none ∧ env.grpcDialErr = none ∧ env.poolSubscribeErr = none

/-- A connection a constructor returned: its id, and whether it holds a subscription to the
statistics (a listening connection) and a pool subscriber (a dialed one across ASes). -/
structure OpenedConn where
  id : Nat
  listening : Bool
  subscriber : Bool
  deriving DecidableEq, Repr

section

variable (env : SetupEnv)

/-- `ListenUDP(ctx, local, nil)` for the connection `k`. -/
def ListenUDP (k : Nat) (res : Resources) : Except String OpenedConn × Resources :=
  match env.defaultLocalAddrErr with
  | some e => (.error e, res)
  | none =>
    let res := res.subscribeStats k
    match env.openErr with
    | some e => (.error e, res)
    | none => (.ok ⟨k, true, false⟩, res.openSocket k)

/-- `ListenUDPWithFabrid(ctx, local, nil)`; `servicesInfo[addr.SvcCS][0]` panics (`none`) when the
daemon lists no control service. -/
def ListenUDPWithFabrid (k : Nat) (res : Resources) :
    Option (Except String OpenedConn × Resources) :=
  match env.defaultLocalAddrErr with
  | some e => some (.error e, res)
  | none =>
    let res := res.subscribeStats k
    match env.openErr with
    | some e => some (.error e, res)
    | none =>
      let res := res.openSocket k
      match env.svcInfoErr with
      | some e => some (.error e, res)
      | none =>
        match env.controlServices[0]? with
        | none => none
        | some _controlServiceInfo =>
          match env.resolveErr, env.grpcDialErr with
          | some e, _ => some (.error e, res)
          | none, some e => some (.error e, res)
          | none, none => some (.ok ⟨k, true, false⟩, res.dialGrpc k)

/-- `DialUDP(ctx, local, remote, policy, nil)` for the connection `k`; to a remote in another AS
`openPathRefreshSubscriber` subscribes to the pool. -/
def DialUDP (remote : UDPAddr) (k : Nat) (res : Resources) : Except String OpenedConn × Resources :=
  match env.defaultLocalAddrErr with
  | some e => (.error e, res)
  | none =>
    match env.openErr with
    | some e => (.error e, res)
    | none =>
      let res := res.openSocket k
      if remote.ia ≠ env.localAddr.ia then
        match env.poolSubscribeErr with
        | some e => (.error e, res)
        | none => (.ok ⟨k, false, true⟩, res.subscribePool k)
      else (.ok ⟨k, false, false⟩, res)

/-- `DialUDPWithFabrid(ctx, local, remote, policy, fabridConfig)` for the connection `k`, whose
client is `⟨k, policy⟩`, on the pool's path objects `heap`: the control service first, then
`defaultLocalAddr`, whose error is checked only once the client and the selector are made, then
the socket, and to a remote in another AS the subscriber, whose `FabridSelector.Initialize` on the
pool's list may write into `heap` and dial the control service again. -/
def DialUDPWithFabrid (policy : FabridPolicyIdentifier) (remote : UDPAddr) (k : Nat)
    (res : Resources) (heap : PathHeap) : Option (Except String OpenedConn × Resources × PathHeap) :=
  match env.svcInfoErr with
  | some e => some (.error e, res, heap)
  | none =>
    match env.controlServices[0]? with
    | none => none
    | some _controlServiceInfo =>
      match env.resolveErr, env.grpcDialErr with
      | some e, _ => some (.error e, res, heap)
      | none, some e => some (.error e, res, heap)
      | none, none =>
        let res := res.dialGrpc k
        match env.defaultLocalAddrErr, env.openErr with
        | some e, _ => some (.error e, res, heap)
        | none, some e => some (.error e, res, heap)
        | none, none =>
          let res := res.openSocket k
          if remote.ia ≠ env.localAddr.ia then
            match env.poolSubscribeErr with
            | some e => some (.error e, res, heap)
            | none => do
              let res := res.subscribePool k
              let (heap, _, dialed) ← (NewFabridSelector ⟨k, policy⟩).Initialize heap
                env.selectorHost env.localAddr remote env.poolPaths
              pure (.ok ⟨k, false, true⟩, if dialed then res.dialGrpc k else res, heap)
          else some (.ok ⟨k, false, false⟩, res, heap)

end

/-- `Close`: a listening connection unsubscribes its selector from the statistics, a dialed one
closes its subscriber, which leaves the pool; both close their socket. -/
def OpenedConn.close (c : OpenedConn) (res : Resources) : Resources :=
  let res := if c.listening then res.unsubscribeStats c.id else res
  let res := if c.subscriber then res.unsubscribePool c.id else res
  res.closeSocket c.id

/-- **`DialUDPWithFabrid` runs the selector's `Initialize`.** To a remote in another AS, with every
collaborator answering: when the pool's list is empty the constructor panics, where `DialUDP`
with the same answers returns a connection; when the first path is a SCION path with interfaces
and every service answers the selector, the connection writes that path wrapped for its own
client into the pool's path object, and its `Close` leaves two gRPC connections open, the
client's and the one the selector dialed. -/
theorem dial_with_fabrid_runs_selector (env : SetupEnv) (policy : FabridPolicyIdentifier)
    (remote : UDPAddr) (k : Nat) (res : Resources) (heap : PathHeap)
    (hcross : remote.ia ≠ env.localAddr.ia) (hne : env.NoErrors) (hcs : env.controlServices ≠ []) :
    (env.poolPaths = [] → DialUDPWithFabrid env policy remote k res heap = none ∧
      ∃ c res', DialUDP env remote k res = (.ok c, res')) ∧
    (∀ r₀ rest raw cs others, env.poolPaths = r₀ :: rest →
      (heap r₀).forwardingPath.dataplanePath = .scion raw → (heap r₀).metadata.interfaces ≠ [] →
      env.selectorHost.svcInfo = some (cs :: others) → env.selectorHost.fabridPathErr = false →
      env.selectorHost.resolveErr = false → env.selectorHost.dialErr = false → res.Fresh k →
      ∃ c res' hops, fabridHops policy (heap r₀).metadata.interfaces = some hops ∧
        DialUDPWithFabrid env policy remote k res heap = some (.ok c, res', Function.update heap r₀
          ((heap r₀).fabridWrapped ⟨k, policy⟩ raw hops
            ⟨env.localAddr.ia, env.localAddr.ip, remote.ia, remote.ip⟩ cs)) ∧
        c.close res' = (res.dialGrpc k).dialGrpc k) := by
  obtain ⟨h1, h2, h3, h4, h5, h6⟩ := hne
  obtain ⟨c₀, cs₀, hcs₀⟩ := List.exists_cons_of_ne_nil hcs
  have hcross' : (remote.ia ≠ env.localAddr.ia) = True := eq_true hcross
  refine ⟨fun hnil => ⟨?_, ⟨k, false, true⟩, (res.openSocket k).subscribePool k, ?_⟩,
    fun r₀ rest raw cs others hps hdp hif hsvc herr hres hdial hk => ?_⟩
  · simp only [DialUDPWithFabrid, h1, h2, h3, h4, h5, h6, hcs₀, List.getElem?_cons_zero, hcross',
      if_true, hnil, FabridSelector.Initialize, List.getElem?_nil, Option.pure_def,
      Option.bind_eq_bind, Option.none_bind]
  · simp only [DialUDP, h1, h2, h6, hcross', if_true]
  · obtain ⟨hops, hh, hinit⟩ := FabridSelector.Initialize_of_success (NewFabridSelector ⟨k, policy⟩)
      heap env.localAddr remote rest hdp hif hsvc herr hres hdial
    obtain ⟨hs, hp, ho⟩ := hk
    refine ⟨⟨k, false, true⟩, (((res.dialGrpc k).openSocket k).subscribePool k).dialGrpc k, hops,
      hh, ?_, ?_⟩
    · simp only [DialUDPWithFabrid, h1, h2, h3, h4, h5, h6, hcs₀, List.getElem?_cons_zero, hcross',
        if_true, hps, hinit, Option.pure_def, Option.bind_eq_bind, Option.some_bind]
      rfl
    · simp [OpenedConn.close, Resources.dialGrpc, Resources.openSocket, Resources.subscribePool,
        Resources.unsubscribePool, Resources.closeSocket, List.erase_append_right _ hp,
        List.erase_append_right _ ho]

theorem dial_with_fabrid_runs_selector_empty_pool :
    DialUDPWithFabrid ⟨none, none, ⟨1, 0, 0⟩, none, ["cs"], none, none, none, [], default⟩ default
        ⟨2, 0, 0⟩ 0 ⟨[], [], [], []⟩ (fun _ => default) = none ∧
      ∃ c res', DialUDP ⟨none, none, ⟨1, 0, 0⟩, none, ["cs"], none, none, none, [], default⟩
        ⟨2, 0, 0⟩ 0 ⟨[], [], [], []⟩ = (.ok c, res') :=
  (dial_with_fabrid_runs_selector ⟨none, none, ⟨1, 0, 0⟩, none, ["cs"], none, none, none, [], default⟩
    default ⟨2, 0, 0⟩ 0 _ _ (by decide) ⟨rfl, rfl, rfl, rfl, rfl, rfl⟩ (List.cons_ne_nil _ _)).1 rfl

/-! ## A process opening and closing connections -/

/-- A constructor with the arguments it is called with. -/
inductive Setup where
  | listen
  | dial (remote : UDPAddr)
  | listenFabrid
  | dialFabrid (policy : FabridPolicyIdentifier) (remote : UDPAddr)

/-- Whether the constructor is a FABRID one, which dials the control service itself. -/
def Setup.fabrid : Setup → Bool
  | .listenFabrid | .dialFabrid .. => true
  | .listen | .dial .. => false

/-- Calling the constructor `setup` for the connection `k` under `env`. -/
def Setup.call (setup : Setup) (env : SetupEnv) (k : Nat) (res : Resources) (heap : PathHeap) :
    Option (Except String OpenedConn × Resources × PathHeap) :=
  match setup with
  | .listen => let (r, res) := ListenUDP env k res; some (r, res, heap)
  | .dial remote => let (r, res) := DialUDP env remote k res; some (r, res, heap)
  | .listenFabrid => (ListenUDPWithFabrid env k res).map fun (r, res) => (r, res, heap)
  | .dialFabrid policy remote => DialUDPWithFabrid env policy remote k res heap

/-- A constructor only ever takes resources, and a connection it returns is the one it was called
for. -/
theorem Setup.call_spec {setup : Setup} {env : SetupEnv} {k : Nat} {res res' : Resources}
    {heap heap' : PathHeap} {r : Except String OpenedConn}
    (h : setup.call env k res heap = some (r, res', heap')) :
    res.Grows res' ∧ ∀ c, r = .ok c → c.id = k := by
  cases setup <;>
    simp only [Setup.call, ListenUDP, DialUDP, ListenUDPWithFabrid, DialUDPWithFabrid,
      Option.pure_def, Option.bind_eq_bind, Option.bind_eq_some] at h
  -- one goal per way out of the constructor
  all_goals
    repeat' first | split at h | (rw [Option.bind_eq_some] at h; obtain ⟨_, -, h⟩ := h)
  all_goals
    try cases h
    try split
  all_goals
    simp [Resources.Grows, Resources.subscribeStats, Resources.subscribePool,
      Resources.openSocket, Resources.dialGrpc]

/-- With every collaborator answering, a constructor returns the connection `k`, which subscribed
to the statistics when it listens, to the pool when it has a subscriber, and opened a socket; a
FABRID one has dialed the control service. -/
theorem Setup.call_ok {setup : Setup} {env : SetupEnv} {k : Nat} {res res' : Resources}
    {heap heap' : PathHeap} {r : Except String OpenedConn} (hne : env.NoErrors)
    (h : setup.call env k res heap = some (r, res', heap')) :
    ∃ c : OpenedConn, r = .ok c ∧ c.id = k ∧
      res'.statsSubscribers = res.statsSubscribers ++ (if c.listening then [k] else []) ∧
      res'.poolSubscribers = res.poolSubscribers ++ (if c.subscriber then [k] else []) ∧
      res'.sockets = res.sockets ++ [k] ∧ (setup.fabrid = true → k ∈ res'.grpcConns) := by
  obtain ⟨h1, h2, h3, h4, h5, h6⟩ := hne
  cases setup <;>
    simp only [Setup.call, ListenUDP, DialUDP, ListenUDPWithFabrid, DialUDPWithFabrid, h1, h2, h3,
      h4, h5, h6, Option.pure_def, Option.bind_eq_bind, Option.bind_eq_some] at h
  all_goals
    repeat' first | split at h | (rw [Option.bind_eq_some] at h; obtain ⟨_, -, h⟩ := h)
  all_goals
    try cases h
    try split
  all_goals
    simp [Setup.fabrid, Resources.subscribeStats, Resources.subscribePool, Resources.openSocket,
      Resources.dialGrpc]

theorem OpenedConn.close_statsSubscribers (c : OpenedConn) (res : Resources) :
    (c.close res).statsSubscribers =
      if c.listening then res.statsSubscribers.erase c.id else res.statsSubscribers := by
  unfold OpenedConn.close; split_ifs <;> rfl

theorem OpenedConn.close_poolSubscribers (c : OpenedConn) (res : Resources) :
    (c.close res).poolSubscribers =
      if c.subscriber then res.poolSubscribers.erase c.id else res.poolSubscribers := by
  unfold OpenedConn.close; split_ifs <;> rfl

theorem OpenedConn.close_sockets (c : OpenedConn) (res : Resources) :
    (c.close res).sockets = res.sockets.erase c.id := by
  unfold OpenedConn.close; split_ifs <;> rfl

theorem OpenedConn.close_grpcConns (c : OpenedConn) (res : Resources) :
    (c.close res).grpcConns = res.grpcConns := by
  unfold OpenedConn.close; split_ifs <;> rfl

/-- What a process does with connections: open one with a constructor, or close one it holds. -/
inductive LifeOp where
  | connect (env : SetupEnv) (setup : Setup) (k : Nat)
  | close (k : Nat)

/-- The ids the `connect`s among `ops` open. -/
def LifeOp.ids : List LifeOp → List Nat
  | [] => []
  | .connect _ _ k :: ops => k :: ids ops
  | .close _ :: ops => ids ops

/-- A process: the resources its connections hold, the pool's path objects, and the connections it
holds open, in the order it opened them. -/
structure Process where
  res : Resources
  heap : PathHeap
  conns : List OpenedConn

namespace Process

/-- One operation of the process, `none` when a constructor panics. Closing a connection the
process does not hold does nothing. -/
def step (P : Process) : LifeOp → Option Process
  | .connect env setup k => do
    let (r, res, heap) ← setup.call env k P.res P.heap
    pure ⟨res, heap, match r with
      | .ok c => P.conns ++ [c]
      | .error _ => P.conns⟩
  | .close k =>
    match P.conns.find? (·.id == k) with
    | some c => some ⟨c.close P.res, P.heap, P.conns.filter (·.id != k)⟩
    | none => some P

def run : Process → List LifeOp → Option Process := runOps step

theorem step_connect {P Q : Process} {env : SetupEnv} {setup : Setup} {k : Nat}
    (h : P.step (.connect env setup k) = some Q) :
    ∃ r, setup.call env k P.res P.heap = some (r, Q.res, Q.heap) ∧
      Q.conns = match r with
        | .ok c => P.conns ++ [c]
        | .error _ => P.conns := by
  simp only [step, Option.pure_def, Option.bind_eq_bind, Option.bind_eq_some] at h
  obtain ⟨⟨r, res, heap⟩, hc, h⟩ := h
  cases h
  exact ⟨r, hc, rfl⟩

theorem step_close {P Q : Process} {k : Nat} (h : P.step (.close k) = some Q) :
    (∃ c ∈ P.conns, c.id = k ∧ Q = ⟨c.close P.res, P.heap, P.conns.filter (·.id != k)⟩) ∨ Q = P := by
  simp only [step] at h
  split at h <;> cases h
  · rename_i c hc
    exact .inl ⟨c, List.mem_of_find?_eq_some hc, by simpa using List.find?_some hc, rfl⟩
  · exact .inr rfl

/-- The connections a step leaves open were open before it, or the step opened them. -/
theorem step_conns {P Q : Process} {op : LifeOp} (h : P.step op = some Q) :
    ∀ c ∈ Q.conns, c ∈ P.conns ∨ ∃ env setup, op = .connect env setup c.id := by
  intro c hc
  cases op with
  | connect env setup k =>
    obtain ⟨r, hcall, hQ⟩ := step_connect h
    rw [hQ] at hc
    split at hc
    · rcases List.mem_append.1 hc with hc | hc
      · exact .inl hc
      · obtain rfl := List.mem_singleton.1 hc
        exact .inr ⟨env, setup, by rw [(Setup.call_spec hcall).2 _ rfl]⟩
    · exact .inl hc
  | close k =>
    rcases step_close h with ⟨_, -, -, rfl⟩ | rfl
    · exact .inl (List.mem_of_mem_filter hc)
    · exact .inl hc

/-- The gRPC connections only grow. -/
theorem step_grpc {P Q : Process} {op : LifeOp} (h : P.step op = some Q) :
    P.res.grpcConns <+: Q.res.grpcConns := by
  cases op with
  | connect env setup k =>
    obtain ⟨r, hcall, -⟩ := step_connect h
    exact (Setup.call_spec hcall).1.2.2.2
  | close k =>
    rcases step_close h with ⟨c, -, -, rfl⟩ | rfl
    · exact (OpenedConn.close_grpcConns c _).symm ▸ List.prefix_refl _
    · exact List.prefix_refl _

/-- A step that neither opens nor closes a connection `k` keeps the statistics subscription and the
socket of `k`, and opens no connection `k`. -/
theorem step_keeps {P Q : Process} {op : LifeOp} {k : Nat} (h : P.step op = some Q)
    (hop : ∀ env setup, op ≠ .connect env setup k) (hk : ∀ c ∈ P.conns, c.id ≠ k) :
    (k ∈ P.res.statsSubscribers → k ∈ Q.res.statsSubscribers) ∧
    (k ∈ P.res.sockets → k ∈ Q.res.sockets) ∧ ∀ c ∈ Q.conns, c.id ≠ k := by
  have hQ : ∀ c ∈ Q.conns, c.id ≠ k := fun c hc => by
    rcases step_conns h c hc with hc | ⟨env, setup, rfl⟩
    · exact hk c hc
    · exact fun he => hop env setup (by rw [he])
  cases op with
  | connect env setup j =>
    obtain ⟨r, hcall, -⟩ := step_connect h
    have hg := (Setup.call_spec hcall).1
    exact ⟨fun hm => hg.1.subset hm, fun hm => hg.2.2.1.subset hm, hQ⟩
  | close j =>
    rcases step_close h with ⟨c, hc, rfl, rfl⟩ | rfl
    · have hne := (hk c hc).symm
      refine ⟨fun hm => ?_, fun hm => ?_, hQ⟩
      · rw [OpenedConn.close_statsSubscribers]
        split_ifs
        · exact (List.mem_erase_of_ne hne).2 hm
        · exact hm
      · rw [OpenedConn.close_sockets]
        exact (List.mem_erase_of_ne hne).2 hm
    · exact ⟨id, id, hQ⟩

theorem LifeOp.ids_append : ∀ xs ys : List LifeOp, LifeOp.ids (xs ++ ys) = LifeOp.ids xs ++ LifeOp.ids ys
  | [], _ => rfl
  | .connect _ _ k :: xs, ys => by
    simp only [List.cons_append, LifeOp.ids, List.append_eq, LifeOp.ids_append xs ys]
  | .close _ :: xs, ys => by
    simp only [List.cons_append, LifeOp.ids, List.append_eq, LifeOp.ids_append xs ys]

theorem LifeOp.ids_cons_sublist (op : LifeOp) (ops : List LifeOp) :
    List.Sublist (LifeOp.ids ops) (LifeOp.ids (op :: ops)) := by
  cases op <;> simp [LifeOp.ids]

/-- The connections a run leaves open were open before it, or the run opened them. -/
theorem run_conns : ∀ {ops : List LifeOp} {P P' : Process}, P.run ops = some P' →
    ∀ c ∈ P'.conns, c ∈ P.conns ∨ c.id ∈ LifeOp.ids ops
  | [], _, _, h => by cases h; exact fun _ => .inl
  | op :: ops, P, P', h => by
    simp only [run, runOps, Option.bind_eq_some] at h
    obtain ⟨Q, hQ, h⟩ := h
    intro c hc
    rcases run_conns h c hc with hc | hc
    · rcases step_conns hQ c hc with hc | ⟨env, setup, rfl⟩
      · exact .inl hc
      · exact .inr (List.mem_cons_self _ _)
    · exact .inr ((LifeOp.ids_cons_sublist op ops).subset hc)

theorem run_grpc {ops : List LifeOp} {P P' : Process} (h : P.run ops = some P') :
    P.res.grpcConns <+: P'.res.grpcConns :=
  runOps_inv (fun Q : Process => P.res.grpcConns <+: Q.res.grpcConns)
    (fun _ _ _ hp hs => hp.trans (step_grpc hs)) ops _ _ (List.prefix_refl _) h

/-- A run through one of its operations: the run up to it, the operation, and the run after it. -/
theorem run_split {ops : List LifeOp} {P₀ P : Process} {op : LifeOp} (h : P₀.run ops = some P)
    (hm : op ∈ ops) : ∃ pre post Q Q', ops = pre ++ op :: post ∧ P₀.run pre = some Q ∧
      Q.step op = some Q' ∧ Q'.run post = some P := by
  obtain ⟨pre, post, rfl⟩ := List.append_of_mem hm
  rw [run, runOps_append, Option.bind_eq_some] at h
  obtain ⟨Q, hQ, h⟩ := h
  simp only [runOps, Option.bind_eq_some] at h
  obtain ⟨Q', hQ', h⟩ := h
  exact ⟨pre, post, Q, Q', rfl, hQ, hQ', h⟩

/-- A run that neither opens nor closes a connection `k` keeps its statistics subscription and
its socket. -/
theorem run_keeps {k : Nat} : ∀ {ops : List LifeOp} {P P' : Process}, k ∉ LifeOp.ids ops →
    (∀ c ∈ P.conns, c.id ≠ k) → P.run ops = some P' →
    (k ∈ P.res.statsSubscribers → k ∈ P'.res.statsSubscribers) ∧
      (k ∈ P.res.sockets → k ∈ P'.res.sockets)
  | [], _, _, _, _, h => by cases h; exact ⟨id, id⟩
  | op :: ops, P, P', hk, hc, h => by
    simp only [run, runOps, Option.bind_eq_some] at h
    obtain ⟨Q, hQ, h⟩ := h
    have hop : ∀ env setup, op ≠ .connect env setup k := by
      rintro env setup rfl
      exact hk (List.mem_cons_self _ _)
    obtain ⟨h₁, h₂, hQc⟩ := step_keeps hQ hop hc
    obtain ⟨h₁', h₂'⟩ := run_keeps (fun hm => hk ((LifeOp.ids_cons_sublist op ops).subset hm)) hQc h
    exact ⟨h₁' ∘ h₁, h₂' ∘ h₂⟩

/-- The step of a run that opens `k`, when the run opens each id once and none the process held:
no connection `k` is open before it, and the rest of the run neither opens nor closes `k`. -/
theorem run_through_connect {ops : List LifeOp} {P₀ P : Process} {env : SetupEnv} {setup : Setup}
    {k : Nat} (h : P₀.run ops = some P) (hm : .connect env setup k ∈ ops)
    (hnd : (LifeOp.ids ops).Nodup) (hc : ∀ c ∈ P₀.conns, c.id ∉ LifeOp.ids ops) :
    ∃ (Q Q' : Process) (post : List LifeOp), Q.step (.connect env setup k) = some Q' ∧
      (∀ c ∈ Q.conns, c.id ≠ k) ∧ k ∉ LifeOp.ids post ∧ Q'.run post = some P := by
  obtain ⟨pre, post, Q, Q', rfl, hQ, hQ', h⟩ := run_split h hm
  rw [LifeOp.ids_append] at hnd hc
  obtain ⟨-, hpost, hdisj⟩ := List.nodup_append.1 hnd
  have hk : k ∈ LifeOp.ids (.connect env setup k :: post) := List.mem_cons_self _ _
  refine ⟨Q, Q', post, hQ', fun c hc' he => ?_, (List.nodup_cons.1 hpost).1, h⟩
  rcases run_conns hQ c hc' with hc' | hc'
  · exact hc c hc' (List.mem_append_right _ (he ▸ hk))
  · exact hdisj hc' (he ▸ hk)

/-- What the failing constructor of `k` keeps of the statistics subscriptions and of the sockets
stays to the end of a run that opens each id once, none held by an open connection. -/
theorem run_leak {ops : List LifeOp} {P₀ P : Process} {env : SetupEnv} {setup : Setup} {k : Nat}
    (h : P₀.run ops = some P) (hm : .connect env setup k ∈ ops) (hnd : (LifeOp.ids ops).Nodup)
    (hc : ∀ c ∈ P₀.conns, c.id ∉ LifeOp.ids ops) (e : String) (f : Resources → Resources)
    (hcall : ∀ res heap, setup.call env k res heap = some (.error e, f res, heap)) :
    ((∀ res, k ∈ (f res).statsSubscribers) → k ∈ P.res.statsSubscribers) ∧
      ((∀ res, k ∈ (f res).sockets) → k ∈ P.res.sockets) := by
  obtain ⟨Q, Q', post, hQ', hQc, hk, h⟩ := run_through_connect h hm hnd hc
  obtain ⟨r, hcall', hconns⟩ := step_connect hQ'
  simp only [hcall, Option.some.injEq, Prod.mk.injEq] at hcall'
  obtain ⟨rfl, hres, -⟩ := hcall'
  have hQ'c : ∀ c ∈ Q'.conns, c.id ≠ k := by simpa only [hconns] using hQc
  have hkeep := run_keeps hk hQ'c h
  exact ⟨fun hf => hkeep.1 (hres ▸ hf Q.res), fun hf => hkeep.2 (hres ▸ hf Q.res)⟩

/-- The ids of the open connections that `p` picks lose `k` when the connection `k`, the only one,
closes. -/
theorem erase_ids {conns : List OpenedConn} (hnd : (conns.map (·.id)).Nodup)
    (p : OpenedConn → Bool) (k : Nat) :
    ((conns.filter p).map (·.id)).erase k = ((conns.filter (·.id != k)).filter p).map (·.id) := by
  have hnd' : ((conns.filter p).map (·.id)).Nodup := hnd.sublist ((List.filter_sublist _).map _)
  rw [hnd'.erase_eq_filter, List.filter_map, List.filter_filter, List.filter_filter]
  congr 2
  funext c
  simp [Bool.and_comm]

/-- Closing the open connection `c` takes its id out of a list made of ids that `res₀` lacks
followed by the ids of the open connections `p` picks, when `p` picks `c`. -/
theorem close_ids {conns : List OpenedConn} (hnd : (conns.map (·.id)).Nodup) {c : OpenedConn}
    (hc : c ∈ conns) (p : OpenedConn → Bool) {L₀ : List Nat} (hk : c.id ∉ L₀) :
    (if p c then (L₀ ++ (conns.filter p).map (·.id)).erase c.id
      else L₀ ++ (conns.filter p).map (·.id)) =
      L₀ ++ ((conns.filter (·.id != c.id)).filter p).map (·.id) := by
  rw [← erase_ids hnd p c.id]
  split_ifs with hp
  · exact List.erase_append_right _ hk
  · rw [List.erase_of_not_mem]
    intro hm
    obtain ⟨c', hc', he⟩ := List.mem_map.1 hm
    obtain rfl := List.inj_on_of_nodup_map hnd (List.mem_of_mem_filter hc') hc he
    exact hp (List.of_mem_filter hc')

/-- The resources of a process whose constructors all succeeded, against those `res₀` it started
with: each list is `res₀`'s followed by the ids of the open connections that hold such a
resource, in the order they were opened, and the gRPC connections only grew. -/
structure Accounted (res₀ : Resources) (P : Process) : Prop where
  stats : P.res.statsSubscribers =
    res₀.statsSubscribers ++ (P.conns.filter (·.listening)).map (·.id)
  pool : P.res.poolSubscribers =
    res₀.poolSubscribers ++ (P.conns.filter (·.subscriber)).map (·.id)
  sockets : P.res.sockets = res₀.sockets ++ P.conns.map (·.id)
  grpc : res₀.grpcConns <+: P.res.grpcConns
  nodup : (P.conns.map (·.id)).Nodup
  fresh : ∀ c ∈ P.conns, res₀.Fresh c.id

theorem Accounted.start {P : Process} (h₀ : P.conns = []) : Accounted P.res P :=
  ⟨by simp [h₀], by simp [h₀], by simp [h₀], List.prefix_refl _, by simp [h₀], by simp [h₀]⟩

theorem Accounted.connect {res₀ : Resources} {P Q : Process} {env : SetupEnv} {setup : Setup}
    {k : Nat} (hA : Accounted res₀ P) (hne : env.NoErrors) (hk : res₀.Fresh k)
    (hkc : ∀ c ∈ P.conns, c.id ≠ k) (h : P.step (.connect env setup k) = some Q) :
    Accounted res₀ Q := by
  obtain ⟨r, hcall, hQ⟩ := step_connect h
  obtain ⟨c, rfl, rfl, hs, hp, ho, -⟩ := Setup.call_ok hne hcall
  simp only at hQ
  refine ⟨?_, ?_, ?_, hA.grpc.trans (Setup.call_spec hcall).1.2.2.2, ?_, ?_⟩
  · rw [hs, hA.stats, hQ, List.filter_append]
    cases hl : c.listening <;> simp [hl]
  · rw [hp, hA.pool, hQ, List.filter_append]
    cases hl : c.subscriber <;> simp [hl]
  · rw [ho, hA.sockets, hQ, List.map_append, List.append_assoc]
    rfl
  · rw [hQ, List.map_append, List.map_cons, List.map_nil, List.nodup_append, List.disjoint_singleton]
    refine ⟨hA.nodup, List.nodup_singleton _, fun hm => ?_⟩
    obtain ⟨c', hc', he⟩ := List.mem_map.1 hm
    exact hkc c' hc' he
  · rw [hQ]
    intro c' hc'
    rcases List.mem_append.1 hc' with hc' | hc'
    · exact hA.fresh c' hc'
    · rwa [List.mem_singleton.1 hc']

theorem Accounted.close {res₀ : Resources} {P Q : Process} {k : Nat} (hA : Accounted res₀ P)
    (h : P.step (.close k) = some Q) : Accounted res₀ Q := by
  rcases step_close h with ⟨c, hc, rfl, rfl⟩ | rfl
  · have hf := hA.fresh c hc
    refine ⟨?_, ?_, ?_, ?_, hA.nodup.sublist ((List.filter_sublist _).map _),
      fun c' hc' => hA.fresh c' (List.mem_of_mem_filter hc')⟩
    · rw [OpenedConn.close_statsSubscribers, hA.stats]
      exact close_ids hA.nodup hc _ hf.1
    · rw [OpenedConn.close_poolSubscribers, hA.pool]
      exact close_ids hA.nodup hc _ hf.2.1
    · rw [OpenedConn.close_sockets, hA.sockets]
      simpa using close_ids hA.nodup hc (fun _ => true) hf.2.2
    · rw [OpenedConn.close_grpcConns]
      exact hA.grpc
  · exact hA

/-- The next steps of a run that opens each id once: the connections open after one step are
still none of the ids the rest opens. -/
theorem step_rest_fresh {P Q : Process} {op : LifeOp} {ops : List LifeOp}
    (h : P.step op = some Q) (hnd : (LifeOp.ids (op :: ops)).Nodup)
    (hc : ∀ c ∈ P.conns, c.id ∉ LifeOp.ids (op :: ops)) :
    ∀ c ∈ Q.conns, c.id ∉ LifeOp.ids ops := by
  intro c hc' hm
  rcases step_conns h c hc' with hc' | ⟨env, setup, rfl⟩
  · exact hc c hc' ((LifeOp.ids_cons_sublist op ops).subset hm)
  · exact (List.nodup_cons.1 hnd).1 hm

theorem run_accounted {res₀ : Resources} : ∀ {ops : List LifeOp} {P P' : Process},
    Accounted res₀ P → (LifeOp.ids ops).Nodup → (∀ k ∈ LifeOp.ids ops, res₀.Fresh k) →
    (∀ c ∈ P.conns, c.id ∉ LifeOp.ids ops) →
    (∀ env setup k, .connect env setup k ∈ ops → env.NoErrors) → P.run ops = some P' →
    Accounted res₀ P'
  | [], _, _, hA, _, _, _, _, h => by cases h; exact hA
  | op :: ops, P, P', hA, hnd, hfr, hc, hne, h => by
    simp only [run, runOps, Option.bind_eq_some] at h
    obtain ⟨Q, hQ, h⟩ := h
    have hA' : Accounted res₀ Q := by
      cases op with
      | connect env setup k =>
        exact hA.connect (hne env setup k (List.mem_cons_self _ _)) (hfr k (List.mem_cons_self _ _))
          (fun c hc' he => hc c hc' (he ▸ List.mem_cons_self _ _)) hQ
      | close k => exact hA.close hQ
    exact run_accounted hA' (hnd.sublist (LifeOp.ids_cons_sublist op ops))
      (fun k hk => hfr k ((LifeOp.ids_cons_sublist op ops).subset hk)) (step_rest_fresh hQ hnd hc)
      (fun env setup k hm => hne env setup k (List.mem_cons_of_mem _ hm)) h

end Process

/-- **What `Close` gives back, over every run.** Over every run of a process that opens and closes
connections in any order, the gRPC connections only grow, and every FABRID constructor whose
collaborators all answer leaves one of its own open, which nothing closes. When the run opens
each id once, none of them held by a connection the process has open, a `ListenUDP` that fails
after `defaultLocalAddr` keeps its selector subscribed to the statistics, and a `DialUDP` across
ASes that fails to subscribe to the pool keeps its socket, to the end of the run. When moreover
the process starts with no connection open and with no resource named by these ids, every
collaborator of every constructor answers, and the run ends with every connection closed, the
process holds what it started with, gRPC connections apart. -/
theorem close_releases_but_not_on_error {P₀ P : Process} {ops : List LifeOp}
    (h : P₀.run ops = some P) :
    P₀.res.grpcConns <+: P.res.grpcConns ∧
    (∀ env setup k, .connect env setup k ∈ ops → setup.fabrid = true → env.NoErrors →
      k ∈ P.res.grpcConns) ∧
    ((LifeOp.ids ops).Nodup → (∀ c ∈ P₀.conns, c.id ∉ LifeOp.ids ops) →
      (∀ env k, .connect env .listen k ∈ ops → env.defaultLocalAddrErr = none →
        env.openErr ≠ none → k ∈ P.res.statsSubscribers) ∧
      (∀ env remote k, .connect env (.dial remote) k ∈ ops → remote.ia ≠ env.localAddr.ia →
        env.defaultLocalAddrErr = none → env.openErr = none → env.poolSubscribeErr ≠ none →
        k ∈ P.res.sockets)) ∧
    (P₀.conns = [] → (LifeOp.ids ops).Nodup → (∀ k ∈ LifeOp.ids ops, P₀.res.Fresh k) →
      (∀ env setup k, .connect env setup k ∈ ops → env.NoErrors) → P.conns = [] →
      P.res = { P₀.res with grpcConns := P.res.grpcConns }) := by
  refine ⟨Process.run_grpc h, fun env setup k hm hf hne => ?_, fun hnd hc => ⟨?_, ?_⟩,
    fun h₀ hnd hfr hne hP => ?_⟩
  · -- the constructor dialed, and the rest of the run closes no gRPC connection
    obtain ⟨_, _, Q, Q', -, -, hQ', h⟩ := Process.run_split h hm
    obtain ⟨r, hcall, -⟩ := Process.step_connect hQ'
    obtain ⟨_, -, -, -, -, -, hk⟩ := Setup.call_ok hne hcall
    exact (Process.run_grpc h).subset (hk hf)
  · intro env k hm hloc hopen
    obtain ⟨e, he⟩ := Option.ne_none_iff_exists'.1 hopen
    refine (Process.run_leak h hm hnd hc e (·.subscribeStats k) fun _ _ => ?_).1
      fun _ => List.mem_append_right _ (List.mem_singleton_self k)
    simp only [Setup.call, ListenUDP, hloc, he]
  · intro env remote k hm hcross hloc hopen hpool
    obtain ⟨e, he⟩ := Option.ne_none_iff_exists'.1 hpool
    refine (Process.run_leak h hm hnd hc e (·.openSocket k) fun _ _ => ?_).2
      fun _ => List.mem_append_right _ (List.mem_singleton_self k)
    simp only [Setup.call, DialUDP, hloc, hopen, he, eq_true hcross, if_true]
  · have hA : Process.Accounted P₀.res P := Process.run_accounted (.start h₀) hnd hfr
      (by simp [h₀]) hne h
    have hs : P.res.statsSubscribers = P₀.res.statsSubscribers := by simpa [hP] using hA.stats
    have hp : P.res.poolSubscribers = P₀.res.poolSubscribers := by simpa [hP] using hA.pool
    have ho : P.res.sockets = P₀.res.sockets := by simpa [hP] using hA.sockets
    show P.res = ⟨P₀.res.statsSubscribers, P₀.res.poolSubscribers, P₀.res.sockets, P.res.grpcConns⟩
    rw [← hs, ← hp, ← ho]

theorem close_releases_but_not_on_error_fabrid :
    Process.run ⟨⟨[], [], [], []⟩, fun _ => default, []⟩
        [.connect ⟨none, none, default, none, ["cs"], none, none, none, [], default⟩ .listenFabrid 0,
          .close 0] = some ⟨⟨[], [], [], [0]⟩, fun _ => default, []⟩ ∧
      (⟨[], [], [], [0]⟩ : Resources) = { (⟨[], [], [], []⟩ : Resources) with grpcConns := [0] } :=
  have h : Process.run ⟨⟨[], [], [], []⟩, fun _ => default, []⟩
      [.connect ⟨none, none, default, none, ["cs"], none, none, none, [], default⟩ .listenFabrid 0,
        .close 0] = some ⟨⟨[], [], [], [0]⟩, fun _ => default, []⟩ := rfl
  ⟨h, (close_releases_but_not_on_error h).2.2.2 rfl (List.nodup_singleton 0)
    (fun k _ => ⟨List.not_mem_nil k, List.not_mem_nil k, List.not_mem_nil k⟩)
    (fun env setup k hm => by
      simp only [List.mem_cons, LifeOp.connect.injEq, reduceCtorEq, List.mem_nil_iff,
        or_false] at hm
      obtain ⟨rfl, -, -⟩ := hm
      exact ⟨rfl, rfl, rfl, rfl, rfl, rfl⟩) rfl⟩

end ScionPan
