import ScionPan.Conn

/-! # Listening connections over a run

`ListenUDP` and `ListenUDPWithFabrid` (udp_listen.go) make a `DefaultReplySelector` when they are
given none, subscribe it to the path statistics, which pass it every down notification, and call
its `Initialize`, which does nothing. `listenConn.ReadFromVia` records the reversed path of every
packet it reads with the selector, and `fabridListenConn.ReadFromVia` does so before it reads the
packet's FABRID options. `WriteTo` sends to a remote in another AS over the selector's `Path`,
returns `errNoPathTo` when that is nil, and refuses an address that is not a `UDPAddr`.

Over every run of reads and down notifications from the state `ListenUDP` leaves, `WriteTo` to a
remote `R` in another AS goes over the latest non-nil reversed path of a packet read from `R`, and
`listenConn`'s reads never fault (`listen_writes_over_latest_path`). The proof reads a run as the
history of the `Record` calls its reads make, which the reply cache tracks
(`DefaultReplySelector.recordAll_tracks`). Nothing removes an entry of the cache: it holds one for
every remote a packet with a path came from (`reply_cache_keeps_every_remote`). -/

namespace ScionPan

/-- A `net.Addr`: a `UDPAddr`, or an address of another type. -/
inductive NetAddr where
  | udp (a : UDPAddr)
  | other
  deriving DecidableEq, Repr

/-- An error `WriteTo` returns. -/
inductive WriteToError where
  /-- `errBadDstAddress`, "dst address not a UDPAddr". -/
  | errBadDstAddress
  /-- `errNoPathTo`, or an error of `writeMsg`. -/
  | conn (e : ConnError)
  deriving DecidableEq, Repr

/-- The two listening connections: `listenConn`, and `fabridListenConn`, whose `ReadFromVia` also
reads a packet's FABRID options. -/
inductive ListenKind where
  | plain
  | fabrid
  deriving DecidableEq, Repr

/-- What reaches a listening connection's selector: what `readMsg` returned at a time, or a down
notification of the path statistics. -/
inductive ListenEvent where
  | read (now : Nat) (msg : ReadMsg)
  | pathDown (pf : PathFingerprint) (pi : PathInterface)

/-- `listenConn.WriteTo(b, dst)` through `WriteToVia`, which is `writeMsg(c.local, dst, path, b,
nil)`. -/
def listenWriteTo (writeMsg : UDPAddr → UDPAddr → Option Path → Option String)
    (localAddr : UDPAddr) (sel : DefaultReplySelector) : NetAddr → Option WriteToError
  | .other => some .errBadDstAddress
  | .udp sdst =>
    if localAddr.ia ≠ sdst.ia then
      match sel.path sdst with
      | none => some (.conn (.noPathTo sdst.ia))
      | some path => (writeMsg localAddr sdst (some path)).map fun e => .conn (.external e)
    else (writeMsg localAddr sdst none).map fun e => .conn (.external e)

/-- `WriteTo` to a `UDPAddr` returns `errNoPathTo` only for an address in another AS, when the
selector has no path to it. -/
theorem listenWriteTo_noPathTo {writeMsg : UDPAddr → UDPAddr → Option Path → Option String}
    {localAddr R : UDPAddr} {sel : DefaultReplySelector} {ia : IA}
    (h : listenWriteTo writeMsg localAddr sel (.udp R) = some (.conn (.noPathTo ia))) :
    ia = R.ia ∧ localAddr.ia ≠ R.ia ∧ sel.path R = none := by
  simp only [listenWriteTo] at h
  split_ifs at h with hia
  · cases hp : sel.path R <;> simp [hp] at h
    exact ⟨h.symm, hia, rfl⟩
  · simp at h

section

variable {Ident Fab Ctrl Ext : Type} (env : FabridEnv Ident Fab Ctrl Ext)
  (defaultSelectorMaxReplyPaths : Nat)

/-- `listenConn.ReadFromVia` on what `readMsg` returned: `(n, remote, path, err)` after `Record`
of the reversed path at time `now`, and the selector afterwards. -/
def listenReadFromVia (now : Nat) (localAddr : UDPAddr) (sel : DefaultReplySelector)
    (msg : ReadMsg) :
    Option ((Nat × UDPAddr × Option Path × Option ConnError) × DefaultReplySelector) :=
  match msg with
  | .error (n, e) => some ((n, default, none, some (.external e)), sel)
  | .ok pkt => do
    let (path, err) := env.reversePathFromForwardingPath pkt.remote.ia localAddr.ia pkt.fwPath
    let sel ← sel.record defaultSelectorMaxReplyPaths now pkt.remote path
    pure ((pkt.n, pkt.remote, path, err.map .external), sel)

/-- `ReadFromVia` of a connection of the kind. -/
def ListenKind.readFromVia : ListenKind → Nat → UDPAddr → DefaultReplySelector → ReadMsg →
    Option ((Nat × UDPAddr × Option Path × Option ConnError) × DefaultReplySelector)
  | .plain => listenReadFromVia env defaultSelectorMaxReplyPaths
  | .fabrid => fabridReadFromVia env defaultSelectorMaxReplyPaths

/-- One event on the selector of a connection of the kind; `none` where a read faults.
`DefaultReplySelector.PathDown` does nothing. -/
def ListenEvent.step (kind : ListenKind) (localAddr : UDPAddr) (sel : DefaultReplySelector) :
    ListenEvent → Option DefaultReplySelector
  | .read now msg =>
    (kind.readFromVia env defaultSelectorMaxReplyPaths now localAddr sel msg).map (·.2)
  | .pathDown pf pi => some (sel.pathDown pf pi)

/-- The events in turn, from the selector `sel`. -/
def listenRun (kind : ListenKind) (localAddr : UDPAddr) :
    DefaultReplySelector → List ListenEvent → Option DefaultReplySelector
  | sel, [] => some sel
  | sel, e :: es =>
    (e.step env defaultSelectorMaxReplyPaths kind localAddr sel).bind
      (listenRun kind localAddr · es)

/-- The `Record` call an event makes: a read packet's remote, and its reversed path. -/
def ListenEvent.records (localAddr : UDPAddr) : ListenEvent → RecordHistory
  | .read now (.ok pkt) =>
    [(now, pkt.remote, (env.reversePathFromForwardingPath pkt.remote.ia localAddr.ia pkt.fwPath).1)]
  | _ => []

theorem recordAll_single (s : DefaultReplySelector) (now : Nat) (remote : UDPAddr)
    (p : Option Path) :
    s.recordAll defaultSelectorMaxReplyPaths [(now, remote, p)] =
      s.record defaultSelectorMaxReplyPaths now remote p := by
  simp [DefaultReplySelector.recordAll]

/-- An event changes the selector only by the `Record` call it makes. -/
theorem ListenEvent.step_recordAll {kind : ListenKind} {localAddr : UDPAddr}
    {sel sel' : DefaultReplySelector} {e : ListenEvent}
    (h : e.step env defaultSelectorMaxReplyPaths kind localAddr sel = some sel') :
    sel.recordAll defaultSelectorMaxReplyPaths (e.records env localAddr) = some sel' := by
  cases e with
  | pathDown pf pi => exact h
  | read now msg =>
    obtain ⟨⟨r, t⟩, hread, rfl⟩ := Option.map_eq_some'.mp h
    cases msg with
    | error e => cases kind <;> (cases hread; rfl)
    | ok pkt =>
      rw [records, recordAll_single]
      cases kind with
      | plain =>
        simp only [ListenKind.readFromVia, listenReadFromVia, Option.bind_eq_bind,
          Option.bind_eq_some, Option.pure_def, Option.some.injEq] at hread
        obtain ⟨_, h, -, rfl⟩ := hread
        exact h
      | fabrid => exact fabridReadFromVia_recorded env _ hread

/-- With room for one reply path, no event on a `listenConn` faults. -/
theorem ListenEvent.step_plain (hcap : 1 ≤ defaultSelectorMaxReplyPaths) (localAddr : UDPAddr)
    (sel : DefaultReplySelector) (e : ListenEvent) :
    ∃ sel', e.step env defaultSelectorMaxReplyPaths .plain localAddr sel = some sel' := by
  cases e with
  | pathDown pf pi => exact ⟨_, rfl⟩
  | read now msg =>
    cases msg with
    | error e => exact ⟨_, rfl⟩
    | ok pkt =>
      obtain ⟨sel', h⟩ := DefaultReplySelector.record_some _ hcap sel now pkt.remote
        (env.reversePathFromForwardingPath pkt.remote.ia localAddr.ia pkt.fwPath).1
      exact ⟨sel', by simp [ListenEvent.step, ListenKind.readFromVia, listenReadFromVia, h]⟩

theorem listenRun_plain (hcap : 1 ≤ defaultSelectorMaxReplyPaths) (localAddr : UDPAddr) :
    ∀ (events : List ListenEvent) (sel : DefaultReplySelector),
      ∃ sel', listenRun env defaultSelectorMaxReplyPaths .plain localAddr sel events = some sel'
  | [], sel => ⟨sel, rfl⟩
  | e :: es, sel => by
    obtain ⟨t, ht⟩ := ListenEvent.step_plain env _ hcap localAddr sel e
    obtain ⟨sel', h⟩ := listenRun_plain hcap localAddr es t
    exact ⟨sel', by rw [listenRun, ht, Option.some_bind, h]⟩

/-- One event keeps the reply cache in step with the history of `Record` calls. -/
theorem ListenEvent.step_tracks (hcap : 1 ≤ defaultSelectorMaxReplyPaths) {kind : ListenKind}
    {localAddr : UDPAddr} {sel sel' : DefaultReplySelector} {hist : RecordHistory}
    {e : ListenEvent} (hs : DefaultReplySelector.Tracks defaultSelectorMaxReplyPaths sel hist)
    (h : e.step env defaultSelectorMaxReplyPaths kind localAddr sel = some sel') :
    DefaultReplySelector.Tracks defaultSelectorMaxReplyPaths sel'
      (hist ++ e.records env localAddr) := by
  obtain ⟨t, ht, htr⟩ := DefaultReplySelector.recordAll_tracks _ hcap (e.records env localAddr) hs
  rw [ListenEvent.step_recordAll env _ h, Option.some.injEq] at ht
  exact ht ▸ htr

theorem listenRun_tracks (hcap : 1 ≤ defaultSelectorMaxReplyPaths) (kind : ListenKind)
    (localAddr : UDPAddr) :
    ∀ (events : List ListenEvent) {sel sel' : DefaultReplySelector} {hist : RecordHistory},
      DefaultReplySelector.Tracks defaultSelectorMaxReplyPaths sel hist →
      listenRun env defaultSelectorMaxReplyPaths kind localAddr sel events = some sel' →
      DefaultReplySelector.Tracks defaultSelectorMaxReplyPaths sel'
        (hist ++ events.flatMap (·.records env localAddr))
  | [], _, _, _, hs, h => by cases h; simpa using hs
  | e :: es, _, _, _, hs, h => by
    obtain ⟨t, ht, hrun⟩ := Option.bind_eq_some.mp h
    simpa only [List.flatMap_cons, List.append_assoc] using
      listenRun_tracks hcap kind localAddr es (ListenEvent.step_tracks env _ hcap hs ht) hrun

/-- **Replies go over the latest path.** With room for one reply path, no read or down
notification on a `listenConn` faults; and after any run of them from the state `ListenUDP` leaves,
on a connection of either kind, `WriteTo` to a remote `R` in another AS sends over the latest
non-nil reversed path of a packet read from `R`, and returns `errNoPathTo(R.IA)` exactly when
there is none. Down notifications, packets from other remotes and packets whose path reverses to
nil leave the choice as it was. -/
theorem listen_writes_over_latest_path (writeMsg : UDPAddr → UDPAddr → Option Path → Option String)
    (hcap : 1 ≤ defaultSelectorMaxReplyPaths) (localAddr : UDPAddr) (events : List ListenEvent) :
    (∃ sel, listenRun env defaultSelectorMaxReplyPaths .plain localAddr NewDefaultReplySelector
      events = some sel) ∧
    ∀ kind sel, listenRun env defaultSelectorMaxReplyPaths kind localAddr NewDefaultReplySelector
        events = some sel →
      ∀ R, localAddr.ia ≠ R.ia →
        listenWriteTo writeMsg localAddr sel (.udp R) =
          match (DefaultReplySelector.recordedFor R
              (events.flatMap (·.records env localAddr))).getLast? with
          | none => some (.conn (.noPathTo R.ia))
          | some p => (writeMsg localAddr R (some p)).map fun e => .conn (.external e) := by
  refine ⟨listenRun_plain env _ hcap localAddr events _, fun kind sel h R hia => ?_⟩
  have hs := listenRun_tracks env _ hcap kind localAddr events
    (DefaultReplySelector.tracks_new _) h
  simp only [listenWriteTo, if_pos hia, DefaultReplySelector.path_of_tracks _ hcap hs,
    List.nil_append]

/-- Every entry of the reply cache holds a path. -/
def DefaultReplySelector.EntriesNonempty (s : DefaultReplySelector) : Prop :=
  ∀ R r, s.remotes R = some r → r.paths ≠ []

theorem DefaultReplySelector.record_entriesNonempty (hcap : 1 ≤ defaultSelectorMaxReplyPaths)
    {s s' : DefaultReplySelector} {now : Nat} {remote : UDPAddr} {p : Option Path}
    (hs : s.EntriesNonempty) (h : s.record defaultSelectorMaxReplyPaths now remote p = some s') :
    s'.EntriesNonempty := by
  cases p with
  | none => cases h; exact hs
  | some path =>
    obtain ⟨rest, hl⟩ := PathsMRU.insert_some ((s.remotes remote).getD default).paths path hcap
    simp only [DefaultReplySelector.record, hl, Option.pure_def, Option.bind_eq_bind,
      Option.some_bind, Option.some.injEq] at h
    subst h
    intro R r hr
    by_cases hR : R = remote
    · subst hR
      simp only [Function.update_same, Option.some.injEq] at hr
      subst hr
      exact List.cons_ne_nil _ _
    · exact hs R r (by simpa [Function.update_noteq hR] using hr)

theorem DefaultReplySelector.recordAll_entriesNonempty (hcap : 1 ≤ defaultSelectorMaxReplyPaths) :
    ∀ (hist : RecordHistory) {s s' : DefaultReplySelector}, s.EntriesNonempty →
      s.recordAll defaultSelectorMaxReplyPaths hist = some s' → s'.EntriesNonempty
  | [], _, _, hs, h => by cases h; exact hs
  | (now, remote, p) :: rest, _, _, hs, h => by
    obtain ⟨t, ht, h⟩ := Option.bind_eq_some.mp h
    exact recordAll_entriesNonempty hcap rest (record_entriesNonempty _ hcap hs ht) h

theorem listenRun_entriesNonempty (hcap : 1 ≤ defaultSelectorMaxReplyPaths) (kind : ListenKind)
    (localAddr : UDPAddr) :
    ∀ (events : List ListenEvent) {sel sel' : DefaultReplySelector}, sel.EntriesNonempty →
      listenRun env defaultSelectorMaxReplyPaths kind localAddr sel events = some sel' →
      sel'.EntriesNonempty
  | [], _, _, hs, h => by cases h; exact hs
  | e :: es, _, _, hs, h => by
    obtain ⟨t, ht, hrun⟩ := Option.bind_eq_some.mp h
    exact listenRun_entriesNonempty hcap kind localAddr es
      (DefaultReplySelector.recordAll_entriesNonempty _ hcap _ hs
        (ListenEvent.step_recordAll env _ ht)) hrun

theorem PathsMRU.latestDistinct_eq_nil (l : List Path) :
    PathsMRU.latestDistinct l = [] ↔ l = [] := by
  cases l <;> simp [PathsMRU.latestDistinct]

/-- **The reply cache never forgets a remote.** After any run of reads and down notifications from
the state `ListenUDP` leaves, on a connection of either kind, the reply selector holds an entry for
exactly the remotes from which a packet whose path reverses to a non-nil path was read: no entry
is ever removed, however long ago its remote was last seen. -/
theorem reply_cache_keeps_every_remote (hcap : 1 ≤ defaultSelectorMaxReplyPaths)
    (kind : ListenKind) (localAddr : UDPAddr) (events : List ListenEvent) {sel : DefaultReplySelector}
    (h : listenRun env defaultSelectorMaxReplyPaths kind localAddr NewDefaultReplySelector events =
      some sel) (R : UDPAddr) :
    (sel.remotes R).isSome ↔
      DefaultReplySelector.recordedFor R (events.flatMap (·.records env localAddr)) ≠ [] := by
  have hs := listenRun_tracks env _ hcap kind localAddr events (DefaultReplySelector.tracks_new _) h
  have hne := listenRun_entriesNonempty env _ hcap kind localAddr events (fun _ _ h => by cases h) h
  have hentry : (sel.remotes R).isSome ↔ sel.entryPaths R ≠ [] := by
    unfold DefaultReplySelector.entryPaths
    cases hr : sel.remotes R with
    | none => simp
    | some r => simpa using hne R r hr
  have hcap0 : defaultSelectorMaxReplyPaths ≠ 0 := by omega
  rw [hentry, hs R, List.nil_append, Ne, List.take_eq_nil_iff, PathsMRU.latestDistinct_eq_nil,
    List.reverse_eq_nil_iff, or_iff_right hcap0]

/-- `writeFabridReply` fails with an error of `writeMsg`, or with `errNoPathTo` when the selector
has no path to the destination. -/
theorem writeFabridReply_cases {localAddr dst : UDPAddr} {sel : DefaultReplySelector}
    {e2eExt : Ext} {e : ConnError} (h : writeFabridReply env localAddr sel dst e2eExt = some e) :
    (∃ s, e = .external s) ∨
      (e = .noPathTo dst.ia ∧ localAddr.ia ≠ dst.ia ∧ sel.path dst = none) := by
  unfold writeFabridReply at h
  split_ifs at h with hia
  · cases hp : sel.path dst <;> simp only [hp, Option.some.injEq, Option.map_eq_some'] at h
    · exact .inr ⟨h.symm, hia, rfl⟩
    · obtain ⟨s, -, rfl⟩ := h
      exact .inl ⟨s, rfl⟩
  · obtain ⟨s, -, rfl⟩ := Option.map_eq_some'.mp h
    exact .inl ⟨s, rfl⟩

/-- `ReadFromVia` returns the packet's sender when it returns no error, and `errNoPathTo` only for
a sender in another AS, when the FABRID reply found no path to it. -/
theorem fabridReadFromVia_sender {now : Nat} {localAddr : UDPAddr}
    {sel sel' : DefaultReplySelector} {pkt : InboundPacket}
    {r : Nat × UDPAddr × Option Path × Option ConnError}
    (h : fabridReadFromVia env defaultSelectorMaxReplyPaths now localAddr sel (.ok pkt) =
      some (r, sel')) :
    (r.2.2.2 = none → r.2.1 = pkt.remote) ∧
    ∀ ia, r.2.2.2 = some (.noPathTo ia) →
      ia = pkt.remote.ia ∧ localAddr.ia ≠ ia ∧ sel'.path pkt.remote = none := by
  simp only [fabridReadFromVia, Option.bind_eq_bind, Option.bind_eq_some] at h
  obtain ⟨sel₁, -, scan, -, h⟩ := h
  repeat' split at h
  all_goals cases h
  -- only the failed FABRID reply returns an error that is not passed on
  all_goals first
    | exact ⟨nofun, fun ia he => by
        cases he
        obtain ⟨s, ⟨⟩⟩ | ⟨he, hia, hp⟩ :=
          writeFabridReply_cases env ‹writeFabridReply _ _ _ _ _ = some _›
        cases he
        exact ⟨rfl, hia, hp⟩⟩
    | simp

end

theorem listen_writes_over_latest_path_back :
    ∃ sel, listenRun backPathEnv 1 .fabrid ⟨2, 0, 0⟩ NewDefaultReplySelector
        [.read 0 (.ok ⟨3, ⟨1, 1, 1⟩, ⟨.empty, 0⟩, none, none⟩), .pathDown "p" default] = some sel ∧
      listenWriteTo (fun _ _ _ => none) ⟨2, 0, 0⟩ sel (.udp ⟨1, 1, 1⟩) = none :=
  have h : listenRun backPathEnv 1 .fabrid ⟨2, 0, 0⟩ NewDefaultReplySelector
      [.read 0 (.ok ⟨3, ⟨1, 1, 1⟩, ⟨.empty, 0⟩, none, none⟩), .pathDown "p" default] = some _ := rfl
  ⟨_, h, ((listen_writes_over_latest_path backPathEnv 1 _ le_rfl _ _).2 .fabrid _ h _
    (by decide)).trans rfl⟩

theorem reply_cache_keeps_every_remote_back :
    ∃ sel, listenRun backPathEnv 1 .plain ⟨2, 0, 0⟩ NewDefaultReplySelector
        [.read 0 (.ok ⟨3, ⟨1, 1, 1⟩, ⟨.empty, 0⟩, none, none⟩)] = some sel ∧
      (sel.remotes ⟨1, 1, 1⟩).isSome ∧ ¬ (sel.remotes ⟨3, 3, 3⟩).isSome :=
  have h : listenRun backPathEnv 1 .plain ⟨2, 0, 0⟩ NewDefaultReplySelector
      [.read 0 (.ok ⟨3, ⟨1, 1, 1⟩, ⟨.empty, 0⟩, none, none⟩)] = some _ := rfl
  ⟨_, h, (reply_cache_keeps_every_remote backPathEnv 1 le_rfl _ _ _ h _).mpr (by decide),
    fun hs => (reply_cache_keeps_every_remote backPathEnv 1 le_rfl _ _ _ h _).mp hs (by decide)⟩

end ScionPan
