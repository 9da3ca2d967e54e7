import ScionPan.Selector.Default

/-! # FabridSelector: the first path wrapped with FABRID validation

`FabridSelector.Initialize` (selector.go) takes the first candidate path, builds one policy record
per AS from its interfaces, and, when the path is a SCION path and every service it calls
answers, dials the control service and writes into the path a FABRID dataplane path that carries
the client's path state and fetches its DRKeys over that connection. `Refresh` and `PathDown` are
`DefaultSelector`'s, on the paths behind the selector's addresses.

The selector holds `*Path` addresses, and the pool hands the same path objects to every
connection it serves: the write is seen by every holder of the address. `FabridProcess` is the
FABRID connections of one process over one heap of paths.

`fabridHops_per_AS`: on a path through `n ≥ 2` ASes the records are one per AS, in path order.
`fabrid_validation_scope`: the write goes through `ps[0]` and nothing else, `Refresh` and
`PathDown` write nothing, and over every run of a process each path object is as the pool made it
or wrapped once. A failover or a refreshed list can thus select a path without the connection's
validation, and a connection whose list starts with an object another connection wrapped selects
it with that connection's path state (`failover_selects_unvalidated_path`). -/

namespace ScionPan

/-! ## Per-hop policy records -/

/-- The loop `for i := 1; i < len(ifaces)-1; i += 2`, over the interfaces from `i` on: while two
remain, a record for the AS the path enters at the first and leaves at the second, then a step
over both. -/
def interiorHops (pol : FabridPolicyIdentifier) : List PathInterface → List FabridPolicyPerHop
  | enter :: leave :: rest =>
    { pol, ia := enter.ia, ingress := enter.ifID.toUInt16, egress := leave.ifID.toUInt16 } ::
      interiorHops pol rest
  | _ => []

/-- The hop list `Initialize` builds: the first AS is left by `ifaces[0]`, each interior AS
entered and left by a pair of interfaces, the last entered by the last interface. `ifaces[0]`
panics on a path without interfaces. -/
def fabridHops (pol : FabridPolicyIdentifier) (ifaces : List PathInterface) :
    Option (List FabridPolicyPerHop) := do
  let first ← ifaces[0]?
  let hops := { pol, ia := first.ia, ingress := 0, egress := first.ifID.toUInt16 } ::
    interiorHops pol (ifaces.drop 1)
  let last ← ifaces[ifaces.length - 1]?
  pure (hops ++ [{ pol, ia := last.ia, ingress := last.ifID.toUInt16, egress := 0 }])

/-- A hop record as numbers: its policy, AS, ingress and egress interface. -/
def FabridPolicyPerHop.view (h : FabridPolicyPerHop) : FabridPolicyIdentifier × IA × Nat × Nat :=
  (h.pol, h.ia, h.ingress.toNat, h.egress.toNat)

/-- The records, AS by AS, of a path through `n` ASes over the interfaces `ifs`: the first AS is
left by `ifs[0]`, AS `j` in between entered by `ifs[2j-1]` and left by `ifs[2j]`, the last
entered by `ifs[2n-3]`, all under the policy `pol`. -/
def perASHops (pol : FabridPolicyIdentifier) (ifs : List PathInterface) (n : Nat) :
    List (FabridPolicyIdentifier × IA × Nat × Nat) :=
  (List.range n).map fun j =>
    if j = 0 then (pol, (ifs.getD 0 default).ia, 0, (ifs.getD 0 default).ifID.toNat)
    else if j = n - 1 then
      (pol, (ifs.getD (2 * j - 1) default).ia, (ifs.getD (2 * j - 1) default).ifID.toNat, 0)
    else (pol, (ifs.getD (2 * j - 1) default).ia, (ifs.getD (2 * j - 1) default).ifID.toNat,
      (ifs.getD (2 * j) default).ifID.toNat)

theorem toUInt16_toNat {x : UInt64} (h : x.toNat < UInt16.size) : x.toUInt16.toNat = x.toNat := by
  simp only [UInt16.size] at h
  simp only [UInt16.toNat, UInt64.toUInt16, Nat.toUInt16, UInt16.ofNat, UInt16.toBitVec_ofNat,
    BitVec.toNat_ofNat, Nat.reducePow]
  omega

/-- `m` turns of the loop, over an odd number `2m+1` of interfaces. -/
theorem interiorHops_eq (pol : FabridPolicyIdentifier) :
    ∀ m (l : List PathInterface), l.length = 2 * m + 1 → interiorHops pol l =
      (List.range m).map fun t =>
        { pol, ia := (l.getD (2 * t) default).ia, ingress := (l.getD (2 * t) default).ifID.toUInt16,
          egress := (l.getD (2 * t + 1) default).ifID.toUInt16 }
  | 0, [_], _ => rfl
  | m + 1, a :: b :: rest, h => by
    rw [interiorHops, interiorHops_eq pol m rest (by simp at h; omega), List.range_succ_eq_map,
      List.map_cons, List.map_map]
    congr 1

/-- **One record per AS.** On a path whose interfaces `ifs` number `2(n-1)` for `n ≥ 2` ASes, all
below `2^16`, the hop list `Initialize` hands to `NewFABRIDDataplanePath` is `perASHops`: `n`
records under the client's policy, in path order, no interface skipped or used twice. -/
theorem fabridHops_per_AS (pol : FabridPolicyIdentifier) (ifs : List PathInterface) (n : Nat)
    (hn : 2 ≤ n) (hlen : ifs.length = 2 * (n - 1)) (hid : ∀ x ∈ ifs, x.ifID.toNat < UInt16.size) :
    (fabridHops pol ifs).map (·.map FabridPolicyPerHop.view) = some (perASHops pol ifs n) := by
  obtain ⟨m, rfl⟩ : ∃ m, n = m + 2 := ⟨n - 2, by omega⟩
  have hsome : ∀ k < ifs.length, ifs[k]? = some (ifs.getD k default) := fun k hk => by
    rw [List.getD_eq_getElem?_getD, List.getElem?_eq_getElem hk, Option.getD_some]
  have hnat : ∀ k < ifs.length, (ifs.getD k default).ifID.toUInt16.toNat =
      (ifs.getD k default).ifID.toNat := fun k hk =>
    toUInt16_toNat (hid _ (List.getElem?_mem (hsome k hk)))
  have hdrop : ∀ k, (ifs.drop 1).getD k default = ifs.getD (k + 1) default := fun k => by
    simp [List.getD_eq_getElem?_getD, Nat.add_comm]
  rw [fabridHops, hsome 0 (by omega), hsome (ifs.length - 1) (by omega),
    interiorHops_eq pol m (ifs.drop 1) (by simp; omega)]
  simp only [Option.pure_def, Option.bind_eq_bind, Option.some_bind, Option.map_some',
    Option.some.injEq]
  rw [perASHops, List.range_succ_eq_map, List.range_succ]
  simp only [List.map_cons, List.map_append, List.map_map, List.cons_append, List.map_nil]
  congr 1
  · simp only [FabridPolicyPerHop.view, if_pos, UInt16.toNat_zero, hnat 0 (by omega)]
  congr 1
  · refine List.map_congr_left fun t ht => ?_
    have ht : t < m := List.mem_range.mp ht
    simp only [Function.comp_apply, FabridPolicyPerHop.view, Nat.succ_eq_add_one, hdrop,
      show t + 1 ≠ 0 by omega, show t + 1 ≠ m + 2 - 1 by omega, if_false,
      show 2 * (t + 1) - 1 = 2 * t + 1 by omega, show 2 * (t + 1) = 2 * t + 1 + 1 by omega,
      Nat.add_sub_cancel, hnat (2 * t + 1) (by omega), hnat (2 * t + 1 + 1) (by omega)]
  · rw [show ifs.length - 1 = 2 * (m + 1) - 1 by omega]
    simp only [FabridPolicyPerHop.view, Nat.succ_eq_add_one, show m + 1 ≠ 0 by omega, if_false,
      show m + 2 - 1 = m + 1 by omega, if_pos, UInt16.toNat_zero, hnat (2 * (m + 1) - 1) (by omega)]

theorem fabridHops_per_AS_three_ASes :
    (fabridHops default [⟨1, 11⟩, ⟨2, 21⟩, ⟨2, 22⟩, ⟨3, 31⟩]).map (·.map FabridPolicyPerHop.view) =
      some (perASHops default [⟨1, 11⟩, ⟨2, 21⟩, ⟨2, 22⟩, ⟨3, 31⟩] 3) :=
  fabridHops_per_AS default _ 3 (by decide) rfl (by decide)

/-! ## FabridSelector -/

/-- `fabrid.Client` as the selector reads it: whose path states it creates, and the policy of its
config. -/
structure FabridClient where
  id : Nat
  policy : FabridPolicyIdentifier
  deriving DecidableEq, Repr

/-- `NewFabridPathState(fingerprint)`: a path state of this client. -/
def FabridClient.NewFabridPathState (c : FabridClient) (fp : PathFingerprint) : FabridPathState :=
  ⟨c.id, fp⟩

/-- A `*Path`: the address of a path object. -/
abbrev PathRef := Nat

/-- The path objects behind the addresses, shared by the pool and every connection. -/
abbrev PathHeap := PathRef → Path

/-- `FabridSelector`, without its mutex and context; `activePaths` is never read. -/
structure FabridSelector where
  paths : List PathRef
  current : Nat
  fabridClient : FabridClient
  deriving DecidableEq, Repr

/-- `path.ForwardingPath.dataplanePath = dp`, on the path's value. -/
def Path.withDataplanePath (p : Path) (dp : DataplanePath) : Path :=
  { p with forwardingPath := { p.forwardingPath with dataplanePath := dp } }

/-- `path` under the FABRID dataplane path `Initialize` builds over its SCION path `raw`: the
path's interfaces, the hop records, the connection's config, a path state of `client`, and the
control service whose DRKeys it fetches. -/
def Path.fabridWrapped (path : Path) (client : FabridClient) (raw : List UInt8)
    (hops : List FabridPolicyPerHop) (cfg : FabridConfig) (cs : String) : Path :=
  path.withDataplanePath (.fabrid raw path.metadata.interfaces hops cfg
    (client.NewFabridPathState path.fingerprint) (some cs))

@[simp] theorem Path.fabridWrapped_fingerprint (p : Path) (client : FabridClient) (raw : List UInt8)
    (hops : List FabridPolicyPerHop) (cfg : FabridConfig) (cs : String) :
    (p.fabridWrapped client raw hops cfg cs).fingerprint = p.fingerprint := rfl

/-- The path's dataplane path is a FABRID path with a path state of `client`. -/
def Path.hasFabridState (p : Path) (client : FabridClient) : Bool :=
  match p.forwardingPath.dataplanePath with
  | .fabrid _ _ _ _ state _ => state.client == client.id
  | _ => false

/-- `NewFabridSelector(client, ctx)`: no path yet. -/
def NewFabridSelector (client : FabridClient) : FabridSelector := ⟨[], 0, client⟩

namespace FabridSelector

/-- `Path()`: the address of the selected path. -/
def path (s : FabridSelector) : Option (Option PathRef) := pathAt s.paths s.current

/-- `Initialize`, with the heap it writes through: the heap and the selector it leaves, and whether
it dialed the control service, a gRPC connection that the DRKey fetcher of the FABRID path keeps
and nothing closes. `paths[0]` and `ifaces[0]` panic on an empty list, and so does
`servicesInfo[addr.SvcCS][0]` when the daemon lists no control service. An error of a service it
calls is logged and returns early, leaving heap and selector as they were. -/
def Initialize (s : FabridSelector) (heap : PathHeap) (host : FabridHost)
    (localAddr remoteAddr : UDPAddr) (paths : List PathRef) :
    Option (PathHeap × FabridSelector × Bool) := do
  let ref ← paths[0]?
  let path := heap ref
  let hops ← fabridHops s.fabridClient.policy path.metadata.interfaces
  match path.forwardingPath.dataplanePath with
  | .scion raw =>
    let fabridConfig : FabridConfig := ⟨localAddr.ia, localAddr.ip, remoteAddr.ia, remoteAddr.ip⟩
    if host.fabridPathErr then pure (heap, s, false) else
    match host.svcInfo with
    | none => pure (heap, s, false)
    | some servicesInfo => do
      let controlServiceInfo ← servicesInfo[0]?
      if host.resolveErr then pure (heap, s, false) else
      if host.dialErr then pure (heap, s, false) else
      let fabridPath := DataplanePath.fabrid raw path.metadata.interfaces hops fabridConfig
        (s.fabridClient.NewFabridPathState path.fingerprint) (some controlServiceInfo)
      pure (Function.update heap ref (path.withDataplanePath fabridPath),
        { s with paths, current := 0 }, true)
  | _ => pure (heap, { s with paths, current := 0 }, false)

def refresh (s : FabridSelector) (heap : PathHeap) (paths : List PathRef) :
    Option FabridSelector := do
  let current ← refreshCurrent (s.paths.map heap) s.current (paths.map heap)
  pure { s with paths, current }

def pathDown (s : FabridSelector) (heap : PathHeap) (stats : Stats) (pf : PathFingerprint)
    (pi : PathInterface) : Option FabridSelector := do
  let current ← pathDownCurrent stats (s.paths.map heap) s.current pf pi
  pure { s with current }

def step (s : FabridSelector) (heap : PathHeap) :
    SelectorOp PathRef → Option (PathHeap × FabridSelector)
  | .Initialize host localAddr remoteAddr paths =>
    (s.Initialize heap host localAddr remoteAddr paths).map fun r => (r.1, r.2.1)
  | .refresh paths => (s.refresh heap paths).map (heap, ·)
  | .pathDown stats pf pi => (s.pathDown heap stats pf pi).map (heap, ·)

def run : PathHeap × FabridSelector → List (SelectorOp PathRef) →
    Option (PathHeap × FabridSelector) :=
  runOps fun hs op => hs.2.step hs.1 op

/-- `Initialize` returns early, leaving heap and selector as they were, or installs `ps` and selects
index 0. It then leaves the heap as it was, or, from a SCION path `*ps[0]` whose hop records it
built, writes that path wrapped for the selector's client through `ps[0]`, having dialed the
control service. -/
theorem Initialize_cases {s s' : FabridSelector} {heap heap' : PathHeap} {host : FabridHost}
    {l r : UDPAddr} {ps : List PathRef} {dialed : Bool}
    (h : s.Initialize heap host l r ps = some (heap', s', dialed)) :
    (heap' = heap ∧ s' = s ∧ dialed = false) ∨
    ∃ r₀ rest, ps = r₀ :: rest ∧ s' = { s with paths := ps, current := 0 } ∧
      ((heap' = heap ∧ dialed = false) ∨
        ∃ raw hops cs, (heap r₀).forwardingPath.dataplanePath = .scion raw ∧
          fabridHops s.fabridClient.policy (heap r₀).metadata.interfaces = some hops ∧
          heap' = Function.update heap r₀
            ((heap r₀).fabridWrapped s.fabridClient raw hops ⟨l.ia, l.ip, r.ia, r.ip⟩ cs) ∧
          dialed = true) := by
  cases ps with
  | nil => cases h
  | cons r₀ rest =>
    simp only [Initialize, List.getElem?_cons_zero, Option.pure_def, Option.bind_eq_bind,
      Option.some_bind, Option.bind_eq_some] at h
    obtain ⟨hops, hhops, h⟩ := h
    split at h
    · rename_i raw hraw
      -- the early returns, and the write once the control service is dialed
      repeat' first | split at h | (rw [Option.bind_eq_some] at h; obtain ⟨cs, -, h⟩ := h)
      all_goals cases h
      all_goals first
        | exact .inl ⟨rfl, rfl, rfl⟩
        | exact .inr ⟨r₀, rest, rfl, rfl, .inr ⟨raw, hops, _, hraw, hhops, rfl, rfl⟩⟩
    · cases h
      exact .inr ⟨r₀, rest, rfl, rfl, .inl ⟨rfl, rfl⟩⟩

theorem step_Initialize {s s' : FabridSelector} {heap heap' : PathHeap} {host : FabridHost}
    {l r : UDPAddr} {ps : List PathRef}
    (h : s.step heap (.Initialize host l r ps) = some (heap', s')) :
    ∃ dialed, s.Initialize heap host l r ps = some (heap', s', dialed) := by
  simp only [step, Option.map_eq_some'] at h
  obtain ⟨⟨_, _, dialed⟩, hi, he⟩ := h
  cases he
  exact ⟨dialed, hi⟩

theorem step_refresh {s s' : FabridSelector} {heap heap' : PathHeap} {ps : List PathRef}
    (h : s.step heap (.refresh ps) = some (heap', s')) :
    heap' = heap ∧ ∃ c, refreshCurrent (s.paths.map heap) s.current (ps.map heap) = some c ∧
      s' = { s with paths := ps, current := c } := by
  simp only [step, refresh, Option.pure_def, Option.bind_eq_bind, Option.map_bind,
    Option.map_some', Option.bind_eq_some, Option.some.injEq, Prod.mk.injEq] at h
  obtain ⟨c, hc, rfl, rfl⟩ := h
  exact ⟨rfl, c, hc, rfl⟩

theorem step_pathDown {s s' : FabridSelector} {heap heap' : PathHeap} {stats : Stats}
    {pf : PathFingerprint} {pi : PathInterface}
    (h : s.step heap (.pathDown stats pf pi) = some (heap', s')) :
    heap' = heap ∧ ∃ c, pathDownCurrent stats (s.paths.map heap) s.current pf pi = some c ∧
      s' = { s with current := c } := by
  simp only [step, pathDown, Option.pure_def, Option.bind_eq_bind, Option.map_bind,
    Option.map_some', Option.bind_eq_some, Option.some.injEq, Prod.mk.injEq] at h
  obtain ⟨c, hc, rfl, rfl⟩ := h
  exact ⟨rfl, c, hc, rfl⟩

/-- What one call can do to the heap: nothing, or write through one address that path's SCION
path wrapped for `client`. -/
def HeapWrite (client : FabridClient) (heap heap' : PathHeap) : Prop :=
  heap' = heap ∨ ∃ x raw hops cfg cs, (heap x).forwardingPath.dataplanePath = .scion raw ∧
    fabridHops client.policy (heap x).metadata.interfaces = some hops ∧
    heap' = Function.update heap x ((heap x).fabridWrapped client raw hops cfg cs)

theorem HeapWrite.fingerprint {client : FabridClient} {heap heap' : PathHeap}
    (h : HeapWrite client heap heap') (x : PathRef) : (heap' x).fingerprint = (heap x).fingerprint := by
  rcases h with rfl | ⟨y, raw, hops, cfg, cs, -, -, rfl⟩
  · rfl
  · by_cases hx : x = y
    · subst hx; simp
    · simp [hx]

/-- One call writes at most one path, wrapped for the selector's client, and keeps the client. -/
theorem step_write {s s' : FabridSelector} {heap heap' : PathHeap} {op : SelectorOp PathRef}
    (h : s.step heap op = some (heap', s')) :
    HeapWrite s.fabridClient heap heap' ∧ s'.fabridClient = s.fabridClient := by
  cases op with
  | Initialize host l r ps =>
    obtain ⟨_, hi⟩ := step_Initialize h
    rcases Initialize_cases hi with ⟨rfl, rfl, -⟩ |
      ⟨r₀, rest, rfl, rfl, ⟨rfl, -⟩ | ⟨raw, hops, cs, hraw, hhops, rfl, -⟩⟩
    · exact ⟨.inl rfl, rfl⟩
    · exact ⟨.inl rfl, rfl⟩
    · exact ⟨.inr ⟨r₀, raw, hops, _, cs, hraw, hhops, rfl⟩, rfl⟩
  | refresh ps =>
    obtain ⟨rfl, c, -, rfl⟩ := step_refresh h
    exact ⟨.inl rfl, rfl⟩
  | pathDown stats pf pi =>
    obtain ⟨rfl, c, -, rfl⟩ := step_pathDown h
    exact ⟨.inl rfl, rfl⟩

/-- **One call, on the paths behind the addresses.** From a valid index, every call is a
`PinnedStep` of the paths the selector's addresses lead to, before and after the call. -/
theorem step_spec {s s' : FabridSelector} {heap heap' : PathHeap} {op : SelectorOp PathRef}
    (hv : CurrentValid s.paths s.current) (h : s.step heap op = some (heap', s')) :
    PinnedStep (s.paths.map heap) s.current (op.map heap) (s'.paths.map heap') s'.current
      (s'.path.map (·.map heap')) := by
  rw [path, ← pathAt_map]
  have hv' := (currentValid_map heap _ _).2 hv
  cases op with
  | Initialize host l r ps =>
    obtain ⟨_, hi⟩ := step_Initialize h
    have hfp := (step_write h).1.fingerprint
    rcases Initialize_cases hi with ⟨rfl, rfl, -⟩ | ⟨r₀, rest, rfl, rfl, -⟩
    · exact .of_valid hv' (fun hne => absurd rfl hne)
        (by rintro _ _ _ _ ⟨⟩; exact .inr ⟨rfl, rfl⟩) nofun nofun
    · refine .of_valid (currentValid_zero _) (fun _ => ?_)
        (by rintro _ _ _ _ ⟨⟩; exact .inl ⟨by simp [hfp], rfl⟩) nofun nofun
      simp [SelectionChange, SelectorOp.map, hfp]
  | refresh ps =>
    obtain ⟨rfl, c, hc, rfl⟩ := step_refresh h
    exact .of_refresh hv' hc
  | pathDown stats pf pi =>
    obtain ⟨rfl, c, hc, rfl⟩ := step_pathDown h
    exact .of_pathDown hv' hc

theorem run_valid {client : FabridClient} {heap heap' : PathHeap}
    {ops : List (SelectorOp PathRef)} {s : FabridSelector}
    (h : run (heap, NewFabridSelector client) ops = some (heap', s)) :
    CurrentValid s.paths s.current :=
  runOps_inv (fun hs : PathHeap × FabridSelector => CurrentValid hs.2.paths hs.2.current)
    (fun _ _ _ hv hs => (currentValid_map _ _ _).1 (step_spec hv hs).valid) ops _ _ (.inl rfl) h

theorem fabridHops_isSome (pol : FabridPolicyIdentifier) {ifaces : List PathInterface}
    (h : ifaces ≠ []) : ∃ hops, fabridHops pol ifaces = some hops := by
  cases ifaces with
  | nil => exact absurd rfl h
  | cons a t => exact ⟨_, by simp [fabridHops]; rfl⟩

/-- `Initialize` when the first path is a SCION path with interfaces and every service answers:
it writes through `ps[0]` that path wrapped with the hop records `fabridHops` builds for it,
installs `ps`, selects its first path, and has dialed the control service. -/
theorem Initialize_of_success (s : FabridSelector) (heap : PathHeap) (l r : UDPAddr)
    (rest : List PathRef) {host : FabridHost} {r₀ : PathRef} {raw : List UInt8} {cs : String}
    {others : List String} (hdp : (heap r₀).forwardingPath.dataplanePath = .scion raw)
    (hif : (heap r₀).metadata.interfaces ≠ []) (hsvc : host.svcInfo = some (cs :: others))
    (herr : host.fabridPathErr = false) (hres : host.resolveErr = false)
    (hdial : host.dialErr = false) :
    ∃ hops, fabridHops s.fabridClient.policy (heap r₀).metadata.interfaces = some hops ∧
      s.Initialize heap host l r (r₀ :: rest) = some (Function.update heap r₀
        ((heap r₀).fabridWrapped s.fabridClient raw hops ⟨l.ia, l.ip, r.ia, r.ip⟩ cs),
        { s with paths := r₀ :: rest, current := 0 }, true) := by
  obtain ⟨hops, hh⟩ := fabridHops_isSome s.fabridClient.policy hif
  refine ⟨hops, hh, ?_⟩
  simp only [Initialize, List.getElem?_cons_zero, Option.pure_def, Option.bind_eq_bind,
    Option.some_bind, hh, hdp, herr, hsvc, hres, hdial, Bool.false_eq_true, if_false,
    List.getElem?_cons_zero]
  rfl

end FabridSelector

/-! ## The FABRID connections of one process -/

/-- Every path object is as the pool made it, or that path wrapped once by the `Initialize` of a
connection over one of `clients`: its SCION path under a FABRID path with the hop records
`fabridHops` builds and a path state of that client. -/
def WrappedOnce (clients : List FabridClient) (heap₀ heap : PathHeap) : Prop :=
  ∀ x, heap x = heap₀ x ∨ ∃ c ∈ clients, ∃ raw hops cfg cs,
    (heap₀ x).forwardingPath.dataplanePath = .scion raw ∧
    fabridHops c.policy (heap₀ x).metadata.interfaces = some hops ∧
    heap x = (heap₀ x).fabridWrapped c raw hops cfg cs

/-- A write of a connection over one of `clients` keeps `WrappedOnce`: it writes through a SCION
path, which is still as the pool made it. -/
theorem WrappedOnce.write {clients : List FabridClient} {heap₀ heap heap' : PathHeap}
    {c : FabridClient} (hc : c ∈ clients) (hw : WrappedOnce clients heap₀ heap)
    (h : FabridSelector.HeapWrite c heap heap') : WrappedOnce clients heap₀ heap' := by
  rcases h with rfl | ⟨x, raw, hops, cfg, cs, hraw, hhops, rfl⟩
  · exact hw
  intro y
  by_cases hy : y = x
  · subst hy
    rcases hw y with he | ⟨_, -, _, _, _, _, -, -, he⟩
    · rw [he] at hraw hhops ⊢
      exact .inr ⟨c, hc, raw, hops, cfg, cs, hraw, hhops, Function.update_same _ _ _⟩
    · rw [he] at hraw
      cases hraw
  · rw [Function.update_noteq hy]
    exact hw y

theorem list_set_of_getElem? {α : Type} {l : List α} {i : Nat} {a : α} (h : l[i]? = some a) :
    l.set i a = l :=
  List.ext_getElem? fun j => by
    by_cases hij : i = j
    · subst hij; simp [List.getElem?_set, h, (List.getElem?_eq_some_iff.mp h).1]
    · simp [List.getElem?_set, hij]

/-- The FABRID connections of one process: the path objects they share, and each connection's
selector. -/
structure FabridProcess where
  heap : PathHeap
  selectors : List FabridSelector

namespace FabridProcess

/-- The connections over `clients`, on the pool's path objects `heap₀`, before any call. -/
def start (clients : List FabridClient) (heap₀ : PathHeap) : FabridProcess :=
  ⟨heap₀, clients.map NewFabridSelector⟩

/-- Connection `i` makes a call on its selector; `none` when it panics. -/
def step (P : FabridProcess) (call : Nat × SelectorOp PathRef) : Option FabridProcess := do
  let s ← P.selectors[call.1]?
  let r ← s.step P.heap call.2
  pure ⟨r.1, P.selectors.set call.1 r.2⟩

def run : FabridProcess → List (Nat × SelectorOp PathRef) → Option FabridProcess := runOps step

/-- What holds in every state a process reaches from `start clients heap₀`: the connections keep
their clients, the path objects are wrapped at most once, and every index is valid. -/
structure Inv (clients : List FabridClient) (heap₀ : PathHeap) (P : FabridProcess) : Prop where
  clients_eq : P.selectors.map (·.fabridClient) = clients
  wrapped : WrappedOnce clients heap₀ P.heap
  valid : ∀ s ∈ P.selectors, CurrentValid s.paths s.current

theorem Inv.start (clients : List FabridClient) (heap₀ : PathHeap) :
    Inv clients heap₀ (start clients heap₀) :=
  ⟨by simp [FabridProcess.start, NewFabridSelector, Function.comp_def], fun _ => .inl rfl,
    by simp [FabridProcess.start, NewFabridSelector, currentValid_zero]⟩

theorem Inv.step {clients : List FabridClient} {heap₀ : PathHeap} {P P' : FabridProcess}
    {call : Nat × SelectorOp PathRef} (hI : Inv clients heap₀ P) (h : P.step call = some P') :
    Inv clients heap₀ P' := by
  simp only [FabridProcess.step, Option.pure_def, Option.bind_eq_bind, Option.bind_eq_some,
    Option.some.injEq] at h
  obtain ⟨s, hs, ⟨heap, s'⟩, hst, rfl⟩ := h
  have hmem : s ∈ P.selectors := List.getElem?_mem hs
  obtain ⟨hw, hc⟩ := FabridSelector.step_write hst
  refine ⟨?_, hI.wrapped.write (hI.clients_eq ▸ List.mem_map_of_mem _ hmem) hw, fun t ht => ?_⟩
  · rw [List.map_set, hc, ← hI.clients_eq]
    exact list_set_of_getElem? (by simp [hs])
  · rcases List.mem_or_eq_of_mem_set ht with ht | rfl
    · exact hI.valid t ht
    · exact (currentValid_map _ _ _).1 (FabridSelector.step_spec (hI.valid s hmem) hst).valid

theorem run_inv {clients : List FabridClient} {heap₀ : PathHeap}
    {calls : List (Nat × SelectorOp PathRef)} {P : FabridProcess}
    (h : (start clients heap₀).run calls = some P) : Inv clients heap₀ P :=
  runOps_inv (Inv clients heap₀) (fun _ _ _ hI hs => hI.step hs) calls _ _ (.start _ _) h

end FabridProcess

/-! ## What holds over every run of both selectors -/

/-- **`PathDown` on a selector without a path panics.** `PathDown` reads `paths[current]` before
anything else, on both selectors; `FabridSelector.Initialize` panics on an empty list, on a first
path without interfaces, and when the daemon lists no control service. -/
theorem selectors_panic_without_path :
    (∀ c stats pf pi, (⟨[], c⟩ : DefaultSelector).pathDown stats pf pi = none) ∧
    (∀ c client heap stats pf pi,
      (⟨[], c, client⟩ : FabridSelector).pathDown heap stats pf pi = none) ∧
    (∀ client heap host l r, (NewFabridSelector client).Initialize heap host l r [] = none) ∧
    (∀ client heap host l r x fp fw rest, (NewFabridSelector client).Initialize
      (Function.update heap x ⟨fp, fw, ⟨[]⟩⟩) host l r (x :: rest) = none) ∧
    (∀ client heap l r x fp raw u i rest, (NewFabridSelector client).Initialize
      (Function.update heap x ⟨fp, ⟨.scion raw, u⟩, ⟨[i]⟩⟩) ⟨false, some [], false, false⟩
      l r (x :: rest) = none) :=
  ⟨fun _ _ _ _ => rfl, fun _ _ _ _ _ _ => rfl, fun _ _ _ _ _ => rfl,
    fun _ _ _ _ _ _ _ _ _ => by
      simp only [FabridSelector.Initialize, fabridHops, List.getElem?_cons_zero,
        Function.update_same, List.getElem?_nil, Option.pure_def, Option.bind_eq_bind,
        Option.some_bind, Option.none_bind],
    fun _ _ _ _ _ _ _ _ _ _ => by
      simp only [FabridSelector.Initialize, fabridHops, List.getElem?_cons_zero,
        Function.update_same, List.getElem?_nil, Option.pure_def, Option.bind_eq_bind,
        Option.some_bind, Option.none_bind, Option.bind_none, List.length_singleton, Nat.sub_self,
        Bool.false_eq_true, if_false]⟩

/-! ## How far FABRID validation reaches -/

/-- A SCION path with fingerprint `fp` through one interface. -/
def scionPath (fp : PathFingerprint) : Path := ⟨fp, ⟨.scion [], 0⟩, ⟨[default]⟩⟩

/-- Statistics whose `FirstMoreAlive` answers the second path of every list that has one. -/
def secondMoreAlive : Stats where
  firstMoreAlive _ ps := if 1 < ps.length then 1 else -1
  lowestLatency _ _ := 0
  firstMoreAlive_range _ ps := by dsimp only; split <;> omega
  lowestLatency_range _ ps h := by
    have := List.length_pos.mpr h
    dsimp only; omega

/-- **A failover leaves FABRID behind, and a shared path carries another connection's state.**
Over the SCION path objects `0` and `1`, connection `0`'s `Initialize([0, 1])` succeeds and wraps
`*0` for its client; a down notification for `*0` selects `*1`, which carries no FABRID state.
Connection `1`'s `Initialize([0, 1])` then finds `*0` no longer a SCION path, dials nothing, and
selects `*0`, which carries the path state of connection `0`'s client and not of its own. -/
theorem failover_selects_unvalidated_path :
    ∃ heap₁ s₁ s₂ heap₂ t, (NewFabridSelector ⟨0, default⟩).Initialize
        (fun x => scionPath (if x = 0 then "a" else "b")) ⟨false, some ["cs"], false, false⟩
        default default [0, 1] = some (heap₁, s₁, true) ∧
      (s₁.path.bind id).map (fun x => (heap₁ x).hasFabridState ⟨0, default⟩) = some true ∧
      s₁.pathDown heap₁ secondMoreAlive "a" default = some s₂ ∧
      (s₂.path.bind id).map (fun x => (heap₁ x).hasFabridState ⟨0, default⟩) = some false ∧
      (NewFabridSelector ⟨1, default⟩).Initialize heap₁ ⟨false, some ["cs"], false, false⟩
        default default [0, 1] = some (heap₂, t, false) ∧
      (t.path.bind id).map (fun x =>
        ((heap₂ x).hasFabridState ⟨1, default⟩, (heap₂ x).hasFabridState ⟨0, default⟩)) =
        some (false, true) :=
  ⟨_, _, _, _, _, rfl, rfl, rfl, rfl, rfl, rfl⟩

/-- **What FABRID validation covers.** A successful `Initialize(ps)` writes through `ps[0]`, and
through no other address, that path under a FABRID path with the hop records `fabridHops` builds,
the connection's config and a path state of its client, and selects it; `Refresh` and `PathDown`
write nothing. Over every run of the FABRID connections of a process, whose lists may share path
objects, every object is as the pool made it or wrapped once for one of the connections' clients,
and each connection's `Path()` is nil or one of its paths. -/
theorem fabrid_validation_scope (s : FabridSelector) (heap : PathHeap) (host : FabridHost)
    (l r : UDPAddr) (r₀ : PathRef) (rest : List PathRef) (raw : List UInt8) (cs : String)
    (others : List String) (hdp : (heap r₀).forwardingPath.dataplanePath = .scion raw)
    (hif : (heap r₀).metadata.interfaces ≠ []) (hsvc : host.svcInfo = some (cs :: others))
    (herr : host.fabridPathErr = false) (hres : host.resolveErr = false)
    (hdial : host.dialErr = false) :
    (∃ hops, fabridHops s.fabridClient.policy (heap r₀).metadata.interfaces = some hops ∧
      s.Initialize heap host l r (r₀ :: rest) = some (Function.update heap r₀
        ((heap r₀).fabridWrapped s.fabridClient raw hops ⟨l.ia, l.ip, r.ia, r.ip⟩ cs),
        { s with paths := r₀ :: rest, current := 0 }, true)) ∧
    (∀ (t : FabridSelector) heap op heap' t', (∀ host l r ps, op ≠ .Initialize host l r ps) →
      t.step heap op = some (heap', t') → heap' = heap) ∧
    ∀ clients heap₀ calls P, (FabridProcess.start clients heap₀).run calls = some P →
      WrappedOnce clients heap₀ P.heap ∧
      ∀ t ∈ P.selectors, CurrentValid t.paths t.current ∧
        ∀ x, t.path = some (some x) → x ∈ t.paths := by
  refine ⟨FabridSelector.Initialize_of_success s heap l r rest hdp hif hsvc herr hres hdial,
    fun t heap op heap' t' hop h => ?_, fun clients heap₀ calls P h => ?_⟩
  · cases op with
    | Initialize host l r ps => exact absurd rfl (hop host l r ps)
    | refresh ps => exact (FabridSelector.step_refresh h).1
    | pathDown stats pf pi => exact (FabridSelector.step_pathDown h).1
  · have hI := FabridProcess.run_inv h
    exact ⟨hI.wrapped, fun t ht => ⟨hI.valid t ht, fun _ => pathAt_mem (hI.valid t ht)⟩⟩

theorem fabrid_validation_scope_one_hop :
    (∃ hops, fabridHops default [default] = some hops ∧
      (NewFabridSelector ⟨0, default⟩).Initialize (fun _ => scionPath "a")
        ⟨false, some ["cs"], false, false⟩ default default [0] = some (Function.update
          (fun _ => scionPath "a") 0 ((scionPath "a").fabridWrapped ⟨0, default⟩ [] hops
            ⟨0, 0, 0, 0⟩ "cs"), ⟨[0], 0, ⟨0, default⟩⟩, true)) ∧
    (∀ (t : FabridSelector) heap op heap' t', (∀ host l r ps, op ≠ .Initialize host l r ps) →
      t.step heap op = some (heap', t') → heap' = heap) ∧
    ∀ clients heap₀ calls P, (FabridProcess.start clients heap₀).run calls = some P →
      WrappedOnce clients heap₀ P.heap ∧
      ∀ t ∈ P.selectors, CurrentValid t.paths t.current ∧
        ∀ x, t.path = some (some x) → x ∈ t.paths :=
  fabrid_validation_scope (NewFabridSelector ⟨0, default⟩) (fun _ => scionPath "a")
    ⟨false, some ["cs"], false, false⟩ default default 0 [] [] "cs" [] rfl (by decide) rfl rfl
    rfl rfl

end ScionPan
