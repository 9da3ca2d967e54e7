import ScionPan.Subscriber
import ScionPan.Conn

/-! # Dialed connections over the path pool

`DialUDP` (udp_dial.go) to a remote in another AS makes a `DefaultSelector` when it is given none,
and opens a `pathRefreshSubscriber` on it: the pool registers the subscriber, and from then on
hands it every refresh and every down notification, which `pathRefreshSubscriber.PathDown` passes
to the selector. `dialedConn.Write` sends over the selector's `Path()`.

Over every interleaving of the subscriber system's moves (`SubscriberSystem.step`) with the
pool's down notifications, `Write` never panics, returns `errNoPathTo` exactly when the selector
holds no path, and otherwise sends over a path that a policy that was set let through from a path
set the pool cached; a down notification panics exactly when the selector holds no path, which
the runs reach (`dialed_conn_over_pool`).

`dialedConn.Read` skips the packets of other remotes, `ReadVia` also drops the packets whose
path does not reverse, and `fabridDialedConn.Read` reads FABRID control options. On traffic
without end-to-end extensions the FABRID reader returns what `Read` returns, and on traffic whose
paths reverse `ReadVia` does (`dialed_readers_agree`). When the FABRID reader returns without
error, it returns a packet from its remote, never an empty one that carried a FabridControl
option, and it skipped only other remotes' packets and such empty ones
(`fabrid_read_skips_empty_control`). -/

namespace ScionPan

namespace DialedConn

/-- What happens to a dialed connection across ASes: a move of the subscriber system, or a down
notification the pool passes to the subscriber it registered. -/
inductive Event where
  | sub (e : SubscriberEvent)
  | pathDown (stats : Stats) (pf : PathFingerprint) (pi : PathInterface)

section

variable (policyFilter : Nat → List Path → List Path)

/-- `pathRefreshSubscriber.PathDown`: the target's `PathDown`, under the selector's mutex. -/
def pathDown (s : SubscriberSystem) (stats : Stats) (pf : PathFingerprint) (pi : PathInterface) :
    Option SubscriberSystem :=
  (s.target.pathDown stats pf pi).map fun t => { s with target := t }

/-- One move; `none` when it cannot happen (the pool notifies only a registered subscriber) or the
selector panics. -/
def step (s : SubscriberSystem) : Event → Option SubscriberSystem
  | .sub e => s.step policyFilter e
  | .pathDown stats pf pi => if s.subscribed then pathDown s stats pf pi else none

/-- The states the moves reach from `s₀`, in any order. -/
inductive Reach (s₀ : SubscriberSystem) : SubscriberSystem → Prop
  | init : Reach s₀ s₀
  | step {s s' : SubscriberSystem} {e : Event} : Reach s₀ s →
      DialedConn.step policyFilter s e = some s' → Reach s₀ s'

theorem Reach.next {s₀ s s' : SubscriberSystem} (e : Event) (h : Reach policyFilter s₀ s)
    (hs : DialedConn.step policyFilter s e = some s') : Reach policyFilter s₀ s' :=
  .step h hs

/-- `PathDown` on a valid selector panics exactly when it holds no path. -/
theorem pathDownCurrent_eq_none_iff (stats : Stats) (pf : PathFingerprint) (pi : PathInterface)
    {paths : List Path} {current : Nat} (hv : CurrentValid paths current) :
    pathDownCurrent stats paths current pf pi = none ↔ paths = [] := by
  rcases hv with rfl | hlt
  · simp [pathDownCurrent]
  · simp only [pathDownCurrent, List.getElem?_eq_getElem hlt, Option.pure_def,
      Option.bind_eq_bind, Option.some_bind, List.ne_nil_of_length_pos (Nat.zero_lt_of_lt hlt),
      iff_false]
    split <;> simp

theorem pathDown_eq (s : SubscriberSystem) (stats : Stats) (pf : PathFingerprint)
    (pi : PathInterface) :
    pathDown s stats pf pi = (pathDownCurrent stats s.target.paths s.target.current pf pi).map
      fun c => { s with target := { s.target with current := c } } := by
  simp only [pathDown, DefaultSelector.pathDown, Option.pure_def, Option.bind_eq_bind]
  cases pathDownCurrent stats s.target.paths s.target.current pf pi <;> rfl

/-- A down notification keeps the subscriber invariant: it moves only the selector's index, to a
valid one. -/
theorem pathDown_inv {s s' : SubscriberSystem} {stats : Stats} {pf : PathFingerprint}
    {pi : PathInterface} (hs : SubscriberSystem.Inv policyFilter s)
    (h : pathDown s stats pf pi = some s') : SubscriberSystem.Inv policyFilter s' := by
  obtain ⟨⟨hv, hpol, hcache, htarget⟩, hcalls⟩ := hs
  rw [pathDown_eq] at h
  obtain ⟨c, hc, rfl⟩ := Option.map_eq_some'.mp h
  exact ⟨⟨(pathDownCurrent_spec hv hc).1, hpol, hcache, htarget⟩, hcalls⟩

theorem step_inv {s s' : SubscriberSystem} {e : Event} (hs : SubscriberSystem.Inv policyFilter s)
    (h : DialedConn.step policyFilter s e = some s') : SubscriberSystem.Inv policyFilter s' := by
  cases e with
  | sub e => exact SubscriberSystem.step_inv policyFilter hs h
  | pathDown stats pf pi =>
    simp only [DialedConn.step] at h
    split_ifs at h
    exact pathDown_inv policyFilter hs h

theorem reach_inv {s₀ s : SubscriberSystem} (h₀ : SubscriberSystem.Inv policyFilter s₀)
    (h : Reach policyFilter s₀ s) : SubscriberSystem.Inv policyFilter s := by
  induction h with
  | init => exact h₀
  | step _ hs ih => exact step_inv policyFilter ih hs

/-- **A dialed connection over the path pool.** However the pool's deliveries and down
notifications, the opening of the subscriber and `setPolicy` calls interleave, `Write` to a remote
in another AS never panics, returns `errNoPathTo` exactly when the selector holds no path, and
otherwise sends over a path that a policy that was set let through from a path set the pool
cached. A down notification to the registered subscriber panics exactly when the selector holds no
path. -/
theorem dialed_conn_over_pool (writeMsg : UDPAddr → UDPAddr → Option Path → Option String)
    (policy : Policy) (paths : List Path) {l r : UDPAddr} (hia : l.ia ≠ r.ia) {s : SubscriberSystem}
    (h : Reach policyFilter (SubscriberSystem.init policy paths) s) :
    (dialedWrite writeMsg l r s.target.path = some (some (.noPathTo r.ia)) ↔ s.target.paths = []) ∧
    (s.target.paths ≠ [] → ∃ pol ∈ s.policies, ∃ P ∈ s.caches, ∃ p ∈ filtered policyFilter pol P,
      dialedWrite writeMsg l r s.target.path = some ((writeMsg l r (some p)).map .external)) ∧
    (s.subscribed → ∀ stats pf pi,
      DialedConn.step policyFilter s (.pathDown stats pf pi) = none ↔ s.target.paths = []) := by
  obtain ⟨⟨hv, -, -, htarget⟩, -⟩ :=
    reach_inv policyFilter (SubscriberSystem.inv_init policyFilter policy paths) h
  have hw := writeReports_of_valid writeMsg hia hv
  rw [← pathAt_of_valid hv] at hw
  refine ⟨hw.1, fun hne => ?_, fun hsub stats pf pi => ?_⟩
  · obtain ⟨p, hp, hsend⟩ := hw.2 hne
    obtain hnil | ⟨pol, hpol, P, hP, heq⟩ := htarget
    · exact absurd hnil hne
    · exact ⟨pol, hpol, P, hP, p, heq ▸ hp, hsend⟩
  · rw [DialedConn.step, if_pos hsub, pathDown_eq, Option.map_eq_none',
      pathDownCurrent_eq_none_iff stats pf pi hv]

end

theorem dialed_conn_over_pool_before_initialize :
    ∃ s, Reach (fun _ ps => ps) (SubscriberSystem.init none [pathWith "a"]) s ∧ s.subscribed ∧
      ∀ stats pf pi, DialedConn.step (fun _ ps => ps) s (.pathDown stats pf pi) = none :=
  have h₀ : Reach (fun _ ps => ps) (SubscriberSystem.init none [pathWith "a"]) _ := .init
  have h := h₀.next _ (.sub (.run 0)) rfl
  ⟨_, h, rfl, fun stats pf pi => ((dialed_conn_over_pool _ (fun _ _ _ => none) none _
    (show (⟨1, 0, 0⟩ : UDPAddr).ia ≠ (⟨2, 0, 0⟩ : UDPAddr).ia by decide) h).2.2 rfl stats pf
      pi).mpr rfl⟩

end DialedConn

/-! ## The readers -/

/-- `dialedConn.Read` over the packets `readMsg` returns in turn; `.next` when none of them ended
the loop. -/
def dialedRead (remoteAddr : UDPAddr) : List ReadMsg → Turn (Nat × Option ConnError)
  | [] => .next
  | .error (n, e) :: _ => .done (n, some (.external e))
  | .ok pkt :: msgs =>
    if pkt.remote ≠ remoteAddr then dialedRead remoteAddr msgs else .done (pkt.n, none)

/-- `dialedConn.ReadVia`: as `Read`, and it drops a packet from its remote whose path does not
reverse. -/
def dialedReadVia
    (reversePathFromForwardingPath : IA → IA → ForwardingPath → Option Path × Option String)
    (localAddr remoteAddr : UDPAddr) : List ReadMsg → Turn (Nat × Option Path × Option ConnError)
  | [] => .next
  | .error (n, e) :: _ => .done (n, none, some (.external e))
  | .ok pkt :: msgs =>
    if pkt.remote ≠ remoteAddr then
      dialedReadVia reversePathFromForwardingPath localAddr remoteAddr msgs
    else match reversePathFromForwardingPath remoteAddr.ia localAddr.ia pkt.fwPath with
      | (_, some _) => dialedReadVia reversePathFromForwardingPath localAddr remoteAddr msgs
      | (path, none) => .done (pkt.n, path, none)

/-- What a read loop returned, with its result mapped. -/
def Turn.map {α β : Type} (f : α → β) : Turn α → Turn β
  | .next => .next
  | .done r => .done (f r)

section

variable {Ident Fab Ctrl Ext : Type} (env : FabridEnv Ident Fab Ctrl Ext)

/-- Options other than FabridControl pass through `Read`'s end-to-end loop untouched. -/
theorem handleControlOptions_of_no_control (n : Nat) (path : Option Path) :
    ∀ (last : Option Ctrl) (opts : List PacketOption), (∀ o ∈ opts, o.optType ≠ .fabridControl) →
      handleControlOptions env n path last opts = some (.ok last)
  | _, [], _ => rfl
  | last, o :: opts, h => by
    have ho := h o (List.mem_cons_self _ _)
    rw [handleControlOptions]
    split
    · exact absurd ‹_› ho
    · exact handleControlOptions_of_no_control n path last opts fun o' h' =>
        h o' (List.mem_cons_of_mem _ h')

/-- **The three readers agree on plain traffic.** `fabridDialedConn.Read` returns what
`dialedConn.Read` returns on every run of packets in which every packet from the remote has no
FabridControl option and, when it has an end-to-end extension, a path that reverses without
error; and `ReadVia`, dropping the path it returns, returns what `Read` returns on every run in
which every packet from the remote has a path that reverses without error. -/
theorem dialed_readers_agree (localAddr remoteAddr : UDPAddr) :
    ∀ msgs : List ReadMsg,
      ((∀ pkt, .ok pkt ∈ msgs → pkt.remote = remoteAddr → ∀ opts, pkt.e2eExt = some opts →
          (∀ o ∈ opts, o.optType ≠ .fabridControl) ∧
          (env.reversePathFromForwardingPath remoteAddr.ia localAddr.ia pkt.fwPath).2 = none) →
        fabridDialedRead env localAddr remoteAddr msgs = some (dialedRead remoteAddr msgs)) ∧
      ((∀ pkt, .ok pkt ∈ msgs → pkt.remote = remoteAddr →
          (env.reversePathFromForwardingPath remoteAddr.ia localAddr.ia pkt.fwPath).2 = none) →
        (dialedReadVia env.reversePathFromForwardingPath localAddr remoteAddr msgs).map
          (fun r => (r.1, r.2.2)) = dialedRead remoteAddr msgs)
  | [] => ⟨fun _ => rfl, fun _ => rfl⟩
  | .error (n, e) :: _ => ⟨fun _ => rfl, fun _ => rfl⟩
  | .ok pkt :: msgs => by
    have ih := dialed_readers_agree localAddr remoteAddr msgs
    by_cases hr : pkt.remote = remoteAddr
    · rcases hrv : env.reversePathFromForwardingPath remoteAddr.ia localAddr.ia pkt.fwPath with
        ⟨path, err⟩
      refine ⟨fun h => ?_, fun h => ?_⟩
      · cases he : pkt.e2eExt with
        | none => simp [fabridDialedRead, fabridReadTurn, dialedRead, hr, he]
        | some opts =>
          obtain ⟨hno, hrev⟩ := h pkt (List.mem_cons_self _ _) hr opts he
          obtain rfl : err = none := by rw [hrv] at hrev; exact hrev
          simp [fabridDialedRead, fabridReadTurn, dialedRead, hr, he, hrv,
            handleControlOptions_of_no_control env _ _ none opts hno]
      · obtain rfl : err = none := by simpa [hrv] using h pkt (List.mem_cons_self _ _) hr
        simp [dialedReadVia, dialedRead, hr, hrv, Turn.map]
    · simp only [fabridDialedRead, fabridReadTurn, dialedReadVia, dialedRead, if_pos hr,
        Option.some_bind]
      exact ⟨fun h => ih.1 fun q hq => h q (List.mem_cons_of_mem _ hq),
        fun h => ih.2 fun q hq => h q (List.mem_cons_of_mem _ hq)⟩

/-- `Read`'s end-to-end loop either handled no FabridControl option, and returns what it was
given, or handled one, and returns the last it parsed. -/
theorem handleControlOptions_ok (n : Nat) :
    ∀ (path : Option Path) (last : Option Ctrl) (opts : List PacketOption) {r : Option Ctrl},
      handleControlOptions env n path last opts = some (.ok r) →
      (r = last ∧ ∀ o ∈ opts, o.optType ≠ .fabridControl) ∨
        (r.isSome ∧ ∃ o ∈ opts, o.optType = .fabridControl)
  | _, _, [], _, h => by cases h; exact .inl ⟨rfl, nofun⟩
  | path, last, o :: opts, r, h => by
    rw [handleControlOptions] at h
    split at h
    · rename_i hc
      split at h
      · cases h
      · simp only [Option.bind_eq_bind, Option.bind_eq_some] at h
        obtain ⟨p, rfl, h⟩ := h
        split at h
        · cases h
        · refine .inr ⟨?_, o, List.mem_cons_self _ _, hc⟩
          rcases handleControlOptions_ok n (some p) _ opts h with ⟨rfl, -⟩ | ⟨hr, -⟩
          exacts [rfl, hr]
    · rename_i hc
      rcases handleControlOptions_ok n path last opts h with ⟨rfl, hno⟩ | ⟨hr, o', ho', hc'⟩
      · exact .inl ⟨rfl, List.forall_mem_cons.mpr ⟨hc, hno⟩⟩
      · exact .inr ⟨hr, o', List.mem_cons_of_mem _ ho', hc'⟩

/-- What a turn of `fabridDialedConn.Read` can do: go on past a packet from another remote or
past an empty packet from its remote that carried a FabridControl option; return a packet from its
remote with its length, an empty one only when it carried no FabridControl option; or return an
error. -/
theorem fabridReadTurn_cases {localAddr remoteAddr : UDPAddr} {msg : ReadMsg}
    {t : Turn (Nat × Option ConnError)} (h : fabridReadTurn env localAddr remoteAddr msg = some t) :
    (t = .next ∧ ∃ q, msg = .ok q ∧ (q.remote ≠ remoteAddr ∨
      (q.n = 0 ∧ ∃ opts, q.e2eExt = some opts ∧ ∃ o ∈ opts, o.optType = .fabridControl))) ∨
    (∃ q, msg = .ok q ∧ q.remote = remoteAddr ∧ t = .done (q.n, none) ∧
      (q.n = 0 → ∀ opts, q.e2eExt = some opts → ∀ o ∈ opts, o.optType ≠ .fabridControl)) ∨
    ∃ n e, t = .done (n, some e) := by
  rcases msg with ⟨m, e⟩ | q
  · cases h
    exact .inr (.inr ⟨m, _, rfl⟩)
  by_cases hr : q.remote = remoteAddr
  swap
  · simp only [fabridReadTurn, hr, ne_eq, not_false_eq_true, if_true, Option.some.injEq] at h
    exact .inl ⟨h.symm, q, rfl, .inl hr⟩
  simp only [fabridReadTurn, hr, ne_eq, not_true_eq_false, if_false] at h
  split at h
  · rename_i he
    cases h
    exact .inr (.inl ⟨q, rfl, hr, rfl, fun _ _ he' => by rw [he] at he'; cases he'⟩)
  rename_i opts he
  split at h
  · cases h
    exact .inr (.inr ⟨_, _, rfl⟩)
  obtain ⟨res, hres, rfl⟩ := Option.map_eq_some'.mp h
  rcases res with ⟨n, e⟩ | (_ | c)
  · exact .inr (.inr ⟨n, e, rfl⟩)
  · rcases handleControlOptions_ok env _ _ _ _ hres with ⟨-, hno⟩ | ⟨⟨⟩, -⟩
    exact .inr (.inl ⟨q, rfl, hr, rfl, fun _ _ he' => by rw [he] at he'; cases he'; exact hno⟩)
  · rcases handleControlOptions_ok env _ _ _ _ hres with ⟨⟨⟩, -⟩ | ⟨-, hc⟩
    by_cases hn : q.n = 0
    · exact .inl ⟨by simp [hn], q, rfl, .inr ⟨hn, opts, he, hc⟩⟩
    · exact .inr (.inl ⟨q, rfl, hr, by simp [hn], fun h0 => absurd h0 hn⟩)

/-- **`Read` never returns an empty FABRID control packet.** On every sequence of packets, when
`fabridDialedConn.Read` returns without error, it returns the length of a packet from its remote,
never `0` for a packet that carried a FabridControl option, and it skipped on the way only packets
from other remotes and empty packets from its remote that carried one. -/
theorem fabrid_read_skips_empty_control (localAddr remoteAddr : UDPAddr) :
    ∀ (msgs : List ReadMsg) {n : Nat},
      fabridDialedRead env localAddr remoteAddr msgs = some (.done (n, none)) →
      ∃ (pre : List InboundPacket) (pkt : InboundPacket) (rest : List ReadMsg),
        msgs = pre.map .ok ++ .ok pkt :: rest ∧ pkt.remote = remoteAddr ∧ pkt.n = n ∧
        (n = 0 → ∀ opts, pkt.e2eExt = some opts → ∀ o ∈ opts, o.optType ≠ .fabridControl) ∧
        ∀ q ∈ pre, q.remote ≠ remoteAddr ∨
          (q.n = 0 ∧ ∃ opts, q.e2eExt = some opts ∧ ∃ o ∈ opts, o.optType = .fabridControl)
  | [], _, h => by cases h
  | msg :: msgs, n, h => by
    obtain ⟨t, ht, hrun⟩ := Option.bind_eq_some.mp h
    rcases fabridReadTurn_cases env ht with ⟨rfl, q, rfl, hq⟩ | ⟨q, rfl, hr, rfl, hno⟩ | ⟨m, e, rfl⟩
    · obtain ⟨pre, pkt, rest, rfl, hr, hn, hno, hpre⟩ :=
        fabrid_read_skips_empty_control localAddr remoteAddr msgs hrun
      exact ⟨q :: pre, pkt, rest, rfl, hr, hn, hno, List.forall_mem_cons.mpr ⟨hq, hpre⟩⟩
    · cases hrun
      exact ⟨[], q, msgs, rfl, hr, rfl, hno, nofun⟩
    · cases hrun

end

theorem dialed_readers_agree_foreign_first :
    let msgs : List ReadMsg := [.ok ⟨2, ⟨2, 2, 2⟩, ⟨.empty, 0⟩, none, none⟩,
      .ok ⟨5, ⟨1, 1, 1⟩, ⟨.empty, 0⟩, none, some [⟨.other 0, 0, []⟩]⟩]
    fabridDialedRead nilPathEnv default ⟨1, 1, 1⟩ msgs = some (dialedRead ⟨1, 1, 1⟩ msgs) ∧
      (dialedReadVia nilPathEnv.reversePathFromForwardingPath default ⟨1, 1, 1⟩ msgs).map
        (fun r => (r.1, r.2.2)) = dialedRead ⟨1, 1, 1⟩ msgs :=
  have h := dialed_readers_agree nilPathEnv default ⟨1, 1, 1⟩
    [.ok ⟨2, ⟨2, 2, 2⟩, ⟨.empty, 0⟩, none, none⟩,
      .ok ⟨5, ⟨1, 1, 1⟩, ⟨.empty, 0⟩, none, some [⟨.other 0, 0, []⟩]⟩]
  ⟨h.1 fun pkt hpkt hr opts he => by
    simp only [List.mem_cons, Except.ok.injEq, List.mem_singleton, List.not_mem_nil, or_false]
      at hpkt
    rcases hpkt with rfl | rfl
    · cases hr
    · cases he
      exact ⟨by decide, rfl⟩, h.2 fun _ _ _ => rfl⟩

theorem fabrid_read_skips_empty_control_after_control :
    ∃ (pre : List InboundPacket) (pkt : InboundPacket) (rest : List ReadMsg),
      [.ok ⟨0, ⟨1, 1, 1⟩, ⟨.empty, 0⟩, none, some [⟨.fabridControl, 0, []⟩]⟩,
        .ok ⟨5, ⟨1, 1, 1⟩, ⟨.empty, 0⟩, none, none⟩] = pre.map .ok ++ .ok pkt :: rest ∧
      pkt.n = 5 ∧ ∀ q ∈ pre, q.remote ≠ ⟨1, 1, 1⟩ ∨
        (q.n = 0 ∧ ∃ opts, q.e2eExt = some opts ∧ ∃ o ∈ opts, o.optType = .fabridControl) := by
  have h : fabridDialedRead backPathEnv default ⟨1, 1, 1⟩
      [.ok ⟨0, ⟨1, 1, 1⟩, ⟨.empty, 0⟩, none, some [⟨.fabridControl, 0, []⟩]⟩,
        .ok ⟨5, ⟨1, 1, 1⟩, ⟨.empty, 0⟩, none, none⟩] = some (.done (5, none)) := rfl
  obtain ⟨pre, pkt, rest, he, -, hn, -, hpre⟩ :=
    fabrid_read_skips_empty_control backPathEnv default ⟨1, 1, 1⟩ _ h
  exact ⟨pre, pkt, rest, he, hn, hpre⟩

end ScionPan
