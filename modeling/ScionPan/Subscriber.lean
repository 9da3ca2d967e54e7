import ScionPan.Selector.Default

/-! # The path-refresh subscriber under interleaving

`pathRefreshSubscriber` (udp_dial.go) ties a dialed connection's selector to the path pool:
`openPathRefreshSubscriber` subscribes and then initializes the selector with the filtered paths,
every refresh the pool delivers and every `setPolicy` hands `filtered(s.policy, paths)` to
`Refresh`. These calls run on different goroutines: the pool delivers on its own, the
application calls `setPolicy` on its own. Each selector call is atomic under the selector's mutex,
and so, in this model, is each read and write of `s.policy` and of the pool's cache; a call in
flight is at one of its statements (`SubscriberCall`), and the scheduler picks which call runs
its next statement (`SubscriberEvent.run`).

The target is a `DefaultSelector`, the one `DialUDP` creates when it is given none. The pool is
not under src/: it caches a path set and then, once the subscriber is registered, delivers it.

Over every interleaving, the selector's candidate list is empty or some policy that was set
applied to some path set the pool cached (`candidates_from_pool`). When the calls do not overlap,
once all have returned, it is the last policy applied to the pool's last path set
(`serial_candidates`). When they overlap, a refresh can be lost to a stale `Initialize`, and a
policy change to a refresh that read the old policy (`subscriber_loses_updates`). -/

namespace ScionPan

/-- A path policy, by name; `none` is a nil policy. -/
abbrev Policy := Option Nat

section

variable (policyFilter : Nat → List Path → List Path)

/-- `filtered(policy, paths)`: `policy.Filter(paths)`, or the paths as they are without one.
What a policy's `Filter` does is a parameter. -/
def filtered : Policy → List Path → List Path
  | some p, paths => policyFilter p paths
  | none, paths => paths

/-- A call in flight, at the statement it runs next. -/
inductive SubscriberCall where
  /-- `openPathRefreshSubscriber`: `pool.subscribe(ctx, remote.IA, s)`. -/
  | subscribe
  /-- `openPathRefreshSubscriber`: `filtered(s.policy, paths)`, reading `s.policy`. -/
  | filterThenInitialize (paths : List Path)
  /-- `openPathRefreshSubscriber`: `s.target.Initialize(local, remote, ps)`. -/
  | Initialize (ps : List Path)
  /-- `setPolicy`: `s.policy = policy`. -/
  | setPolicy (p : Policy)
  /-- `setPolicy`: `paths := pool.cachedPaths(s.remoteIA)`. -/
  | cachedPaths
  /-- `refresh`, and the end of `setPolicy`: `filtered(s.policy, paths)`, reading `s.policy`. -/
  | filterThenRefresh (paths : List Path)
  /-- `refresh`, and the end of `setPolicy`: `s.target.Refresh(ps)`. -/
  | Refresh (ps : List Path)
  deriving DecidableEq, Repr

/-- The pool's cache for the destination, the subscriber, its target and the calls in flight. -/
structure SubscriberSystem where
  /-- `pool.cachedPaths(remoteIA)`. -/
  cached : List Path
  /-- The pool has registered the subscriber and delivers refreshes to it. -/
  subscribed : Bool
  /-- `openPathRefreshSubscriber` has returned: the connection exists and `setPolicy` can be
  called. -/
  opened : Bool
  policy : Policy
  target : DefaultSelector
  calls : List SubscriberCall
  /-- Ghost: every policy `s.policy` held and every path set the pool cached, in order. -/
  policies : List Policy
  caches : List (List Path)

/-- What the scheduler does next. -/
inductive SubscriberEvent where
  /-- The pool caches a new path set and, once the subscriber is registered, delivers it. -/
  | poolRefresh (paths : List Path)
  /-- The application calls `setPolicy`. -/
  | setPolicy (p : Policy)
  /-- The call in flight at index `i` runs its next statement. -/
  | run (i : Nat)

/-- `DialUDP` with policy `policy`, while the pool holds `paths`: the subscriber is being opened. -/
def SubscriberSystem.init (policy : Policy) (paths : List Path) : SubscriberSystem :=
  ⟨paths, false, false, policy, NewDefaultSelector, [.subscribe], [policy], [paths]⟩

/-- One statement of a call in flight: the new state, and the call's next statement (`none` when
the call returns). `none` overall is a panic in the selector. -/
def SubscriberCall.step (s : SubscriberSystem) :
    SubscriberCall → Option (SubscriberSystem × Option SubscriberCall)
  | .subscribe => some ({ s with subscribed := true }, some (.filterThenInitialize s.cached))
  | .filterThenInitialize paths => some (s, some (.Initialize (filtered policyFilter s.policy paths)))
  | .Initialize ps =>
    some ({ s with target := s.target.Initialize default default ps, opened := true }, none)
  | .setPolicy p => some ({ s with policy := p, policies := s.policies ++ [p] }, some .cachedPaths)
  | .cachedPaths => some (s, some (.filterThenRefresh s.cached))
  | .filterThenRefresh paths => some (s, some (.Refresh (filtered policyFilter s.policy paths)))
  | .Refresh ps => (s.target.refresh ps).map fun t => ({ s with target := t }, none)

/-- One scheduler move; `none` when it cannot happen or the selector panics. -/
def SubscriberSystem.step (s : SubscriberSystem) : SubscriberEvent → Option SubscriberSystem
  | .poolRefresh paths =>
    some { s with cached := paths, caches := s.caches ++ [paths],
                  calls := if s.subscribed then s.calls ++ [.filterThenRefresh paths] else s.calls }
  | .setPolicy p => if s.opened then some { s with calls := s.calls ++ [.setPolicy p] } else none
  | .run i => do
    let c ← s.calls[i]?
    let (s', next) ← c.step policyFilter s
    pure { s' with calls := match next with
                            | some c' => s.calls.set i c'
                            | none => s.calls.eraseIdx i }

namespace SubscriberSystem

/-- The states the scheduler reaches from `s₀` with moves that `ok` allows. -/
inductive Reach (ok : SubscriberSystem → SubscriberEvent → Prop) (s₀ : SubscriberSystem) :
    SubscriberSystem → Prop
  | init : Reach ok s₀ s₀
  | step {s s' : SubscriberSystem} {e : SubscriberEvent} : Reach ok s₀ s → ok s e →
      s.step policyFilter e = some s' → Reach ok s₀ s'

theorem Reach.next {ok : SubscriberSystem → SubscriberEvent → Prop} {s₀ s s' : SubscriberSystem}
    (e : SubscriberEvent) (h : Reach policyFilter ok s₀ s) (hok : ok s e)
    (hs : SubscriberSystem.step policyFilter s e = some s') : Reach policyFilter ok s₀ s' :=
  .step h hok hs

/-- Every move may happen whenever it is enabled. -/
def anyOrder (_s : SubscriberSystem) (_e : SubscriberEvent) : Prop := True

/-- Calls do not overlap: a new one starts, and the pool caches a new set, only when no call is
in flight. -/
def Serial (s : SubscriberSystem) : SubscriberEvent → Prop
  | .run _ => True
  | _ => s.calls = []

/-- What holds of the shared state over every interleaving: the selector is valid, `s.policy` and
the cache are the last policy set and the last set cached, and the candidate list is empty or a
policy that was set applied to a set the pool cached. -/
structure Sound (s : SubscriberSystem) : Prop where
  valid : CurrentValid s.target.paths s.target.current
  policy_last : s.policies.getLast? = some s.policy
  cached_last : s.caches.getLast? = some s.cached
  target : s.target.paths = [] ∨
    ∃ p ∈ s.policies, ∃ P ∈ s.caches, s.target.paths = filtered policyFilter p P

/-- Soundness does not look at the calls in flight. -/
theorem Sound.with_calls {s : SubscriberSystem} (hs : Sound policyFilter s)
    (calls : List SubscriberCall) : Sound policyFilter { s with calls } :=
  ⟨hs.valid, hs.policy_last, hs.cached_last, hs.target⟩

end SubscriberSystem

/-- The data a call in flight carries came from the pool, and the list it hands over is a policy
that was set applied to it. -/
def SubscriberCall.Carries (s : SubscriberSystem) : SubscriberCall → Prop
  | .filterThenInitialize P | .filterThenRefresh P => P ∈ s.caches
  | .Initialize ps | .Refresh ps => ∃ p ∈ s.policies, ∃ P ∈ s.caches, ps = filtered policyFilter p P
  | _ => True

theorem SubscriberCall.Carries.mono {s s' : SubscriberSystem} {c : SubscriberCall}
    (h : c.Carries policyFilter s) (hp : s.policies ⊆ s'.policies) (hc : s.caches ⊆ s'.caches) :
    c.Carries policyFilter s' := by
  cases c with
  | filterThenInitialize P | filterThenRefresh P => exact hc h
  | Initialize ps | Refresh ps =>
    obtain ⟨p, hpm, P, hPm, rfl⟩ := h
    exact ⟨p, hp hpm, P, hc hPm, rfl⟩
  | subscribe | setPolicy _ | cachedPaths => trivial

/-- **One statement of a call.** From a sound state it does not panic, keeps the state sound,
only adds to the ghost histories, leaves the calls in flight alone, and its next statement
carries pool data. -/
theorem SubscriberCall.step_sound {s : SubscriberSystem} {c : SubscriberCall}
    (hs : SubscriberSystem.Sound policyFilter s) (hc : c.Carries policyFilter s) :
    ∃ s' next, c.step policyFilter s = some (s', next) ∧ SubscriberSystem.Sound policyFilter s' ∧
      s.policies ⊆ s'.policies ∧ s.caches ⊆ s'.caches ∧ s'.calls = s.calls ∧
      ∀ c', next = some c' → c'.Carries policyFilter s' := by
  have hpol := List.mem_of_getLast?_eq_some hs.policy_last
  have hcache := List.mem_of_getLast?_eq_some hs.cached_last
  cases c with
  | subscribe =>
    exact ⟨_, _, rfl, ⟨hs.valid, hs.policy_last, hs.cached_last, hs.target⟩, fun _ h => h,
      fun _ h => h, rfl, by rintro _ ⟨⟩; exact hcache⟩
  | filterThenInitialize P =>
    exact ⟨_, _, rfl, hs, fun _ h => h, fun _ h => h, rfl,
      by rintro _ ⟨⟩; exact ⟨_, hpol, P, hc, rfl⟩⟩
  | Initialize ps =>
    exact ⟨_, _, rfl, ⟨currentValid_zero ps, hs.policy_last, hs.cached_last, .inr hc⟩,
      fun _ h => h, fun _ h => h, rfl, by rintro _ ⟨⟩⟩
  | setPolicy p =>
    refine ⟨_, _, rfl, ⟨hs.valid, List.getLast?_concat _, hs.cached_last, ?_⟩,
      fun _ h => List.mem_append_left _ h, fun _ h => h, rfl, by rintro _ ⟨⟩; trivial⟩
    obtain h | ⟨q, hq, P, hP, he⟩ := hs.target
    · exact .inl h
    · exact .inr ⟨q, List.mem_append_left _ hq, P, hP, he⟩
  | cachedPaths =>
    exact ⟨_, _, rfl, hs, fun _ h => h, fun _ h => h, rfl, by rintro _ ⟨⟩; exact hcache⟩
  | filterThenRefresh P =>
    exact ⟨_, _, rfl, hs, fun _ h => h, fun _ h => h, rfl,
      by rintro _ ⟨⟩; exact ⟨_, hpol, P, hc, rfl⟩⟩
  | Refresh ps =>
    obtain ⟨k, hk, hv⟩ := DefaultSelector.refresh_of_valid ps hs.valid
    exact ⟨{ s with target := ⟨ps, k⟩ }, none, by simp [SubscriberCall.step, hk],
      ⟨hv, hs.policy_last, hs.cached_last, .inr hc⟩, fun _ h => h, fun _ h => h, rfl, by rintro _ ⟨⟩⟩

namespace SubscriberSystem

/-- The invariant over every interleaving: a sound state whose calls in flight carry pool
data. -/
def Inv (s : SubscriberSystem) : Prop :=
  Sound policyFilter s ∧ ∀ c ∈ s.calls, c.Carries policyFilter s

theorem inv_init (policy : Policy) (paths : List Path) : Inv policyFilter (init policy paths) :=
  ⟨⟨.inl rfl, rfl, rfl, .inl rfl⟩, by simp [init, SubscriberCall.Carries]⟩

/-- **One scheduler move** keeps the invariant, and a call in flight can always run. -/
theorem step_inv {s s' : SubscriberSystem} {e : SubscriberEvent} (hs : Inv policyFilter s)
    (h : s.step policyFilter e = some s') : Inv policyFilter s' := by
  obtain ⟨hsound, hcalls⟩ := hs
  cases e with
  | poolRefresh P =>
    cases h
    have hcaches : s.caches ⊆ s.caches ++ [P] := fun _ h => List.mem_append_left _ h
    refine ⟨⟨hsound.valid, hsound.policy_last, List.getLast?_concat _, ?_⟩, fun c hc => ?_⟩
    · obtain h | ⟨q, hq, P', hP', he⟩ := hsound.target
      · exact .inl h
      · exact .inr ⟨q, hq, P', hcaches hP', he⟩
    · split_ifs at hc
      · rcases List.mem_append.mp hc with hc | hc
        · exact (hcalls c hc).mono policyFilter (fun _ h => h) hcaches
        · rw [List.mem_singleton.mp hc]; exact List.mem_append_right _ (List.mem_singleton_self _)
      · exact (hcalls c hc).mono policyFilter (fun _ h => h) hcaches
  | setPolicy p =>
    simp only [step] at h
    split_ifs at h
    cases h
    refine ⟨hsound.with_calls policyFilter _, fun c hc => ?_⟩
    rcases List.mem_append.mp hc with hc | hc
    · exact hcalls c hc
    · rw [List.mem_singleton.mp hc]; trivial
  | run i =>
    simp only [step, Option.bind_eq_bind, Option.bind_eq_some, Option.pure_def,
      Option.some.injEq] at h
    obtain ⟨c, hci, ⟨t, next⟩, hstep, rfl⟩ := h
    have hcm := List.getElem?_mem hci
    obtain ⟨t', next', hstep', hsound', hp, hc, hcalls', hnext⟩ :=
      SubscriberCall.step_sound policyFilter hsound (hcalls c hcm)
    rw [hstep'] at hstep
    cases hstep
    refine ⟨hsound'.with_calls policyFilter _, fun c' hc' => ?_⟩
    have hold : ∀ c'' ∈ s.calls, c''.Carries policyFilter t :=
      fun c'' h => (hcalls c'' h).mono policyFilter hp hc
    cases next with
    | some n =>
      rcases List.mem_or_eq_of_mem_set hc' with hc' | rfl
      · exact hold c' hc'
      · exact hnext _ rfl
    | none => exact hold c' (List.mem_of_mem_eraseIdx hc')

theorem reach_inv {ok : SubscriberSystem → SubscriberEvent → Prop} {s₀ s : SubscriberSystem}
    (h₀ : Inv policyFilter s₀) (h : Reach policyFilter ok s₀ s) : Inv policyFilter s := by
  induction h with
  | init => exact h₀
  | step _ _ hs ih => exact step_inv policyFilter ih hs

/-- **The candidate list over every interleaving.** However the pool's deliveries, the opening
and `setPolicy` calls interleave, the selector's candidate list is empty or a policy that was set
applied to a path set the pool cached, and no statement of a call in flight panics. -/
theorem candidates_from_pool (policy : Policy) (paths : List Path) {s : SubscriberSystem}
    (h : Reach policyFilter anyOrder (init policy paths) s) :
    (s.target.paths = [] ∨
      ∃ p ∈ s.policies, ∃ P ∈ s.caches, s.target.paths = filtered policyFilter p P) ∧
    ∀ i < s.calls.length, ∃ s', s.step policyFilter (.run i) = some s' := by
  obtain ⟨hsound, hcalls⟩ := reach_inv policyFilter (inv_init policyFilter policy paths) h
  refine ⟨hsound.target, fun i hi => ?_⟩
  obtain ⟨t, next, hstep, -⟩ :=
    SubscriberCall.step_sound policyFilter hsound (hcalls _ (List.getElem_mem hi))
  simp [step, List.getElem?_eq_getElem hi, hstep]

/-- Where the one call in flight stands when calls do not overlap, and what holds there. With no
call in flight the candidate list is the current policy applied to the pool's current set. -/
def SerialPhase (s : SubscriberSystem) : Prop :=
  match s.calls with
  | [] => s.opened ∧ s.subscribed ∧ s.target.paths = filtered policyFilter s.policy s.cached
  | [.subscribe] => s.opened = false
  | [.filterThenInitialize P] => s.opened = false ∧ s.subscribed ∧ P = s.cached
  | [.Initialize ps] =>
    s.opened = false ∧ s.subscribed ∧ ps = filtered policyFilter s.policy s.cached
  | [.setPolicy _] | [.cachedPaths] => s.opened ∧ s.subscribed
  | [.filterThenRefresh P] => s.opened ∧ s.subscribed ∧ P = s.cached
  | [.Refresh ps] => s.opened ∧ s.subscribed ∧ ps = filtered policyFilter s.policy s.cached
  | _ => False

/-- One statement of the call in flight, when calls do not overlap. -/
theorem serialPhase_run {s t : SubscriberSystem} {c : SubscriberCall} {next : Option SubscriberCall}
    (hs : Sound policyFilter s) (hph : SerialPhase policyFilter { s with calls := [c] })
    (h : c.step policyFilter s = some (t, next)) :
    SerialPhase policyFilter { t with calls := match next with
                                               | some c' => [c'] | none => [] } := by
  cases c with
  | Refresh ps =>
    obtain ⟨k, hk, -⟩ := DefaultSelector.refresh_of_valid ps hs.valid
    simp only [SubscriberCall.step, hk, Option.map_some', Option.some.injEq, Prod.mk.injEq] at h
    obtain ⟨rfl, rfl⟩ := h
    dsimp only [SerialPhase] at hph ⊢
    obtain ⟨h1, h2, rfl⟩ := hph
    exact ⟨h1, h2, rfl⟩
  | _ =>
    -- every other statement moves the phase on by setting the fields it names
    cases h
    dsimp only [SerialPhase] at hph ⊢
    simp_all [DefaultSelector.Initialize]

/-- One scheduler move keeps the phase, when calls do not overlap. -/
theorem serialPhase_step {s s' : SubscriberSystem} {e : SubscriberEvent}
    (hs : Sound policyFilter s) (hph : SerialPhase policyFilter s) (hok : Serial s e)
    (h : s.step policyFilter e = some s') : SerialPhase policyFilter s' := by
  cases e with
  | poolRefresh P =>
    have hc : s.calls = [] := hok
    cases h
    simp only [SerialPhase, hc] at hph
    simp [SerialPhase, hc, hph.1, hph.2.1]
  | setPolicy p =>
    have hc : s.calls = [] := hok
    simp only [step] at h
    split_ifs at h
    cases h
    simp only [SerialPhase, hc] at hph
    simp [SerialPhase, hc, hph.1, hph.2.1]
  | run i =>
    simp only [step, Option.bind_eq_bind, Option.bind_eq_some, Option.pure_def,
      Option.some.injEq] at h
    obtain ⟨c, hci, ⟨t, next⟩, hstep, rfl⟩ := h
    rcases hcalls : s.calls with _ | ⟨c₀, _ | ⟨c₁, rest⟩⟩
    · simp [hcalls] at hci
    · obtain ⟨rfl, rfl⟩ : i = 0 ∧ c = c₀ := by
        rcases i with _ | i <;> simp_all
      have hph' : SerialPhase policyFilter { s with calls := [c] } := by
        simpa only [SerialPhase, hcalls] using hph
      have := serialPhase_run policyFilter hs hph' hstep
      rcases next with _ | c' <;> exact this
    · simp [SerialPhase, hcalls] at hph

theorem serialPhase_reach {s₀ s : SubscriberSystem} (h₀ : Inv policyFilter s₀)
    (hph₀ : SerialPhase policyFilter s₀) (h : Reach policyFilter Serial s₀ s) :
    SerialPhase policyFilter s := by
  induction h with
  | init => exact hph₀
  | step hr hok hs ih => exact serialPhase_step policyFilter (reach_inv policyFilter h₀ hr).1 ih hok hs

/-- **The candidate list when calls do not overlap.** If the opening, every delivery of the pool
and every `setPolicy` run one after another, then once all have returned the selector's
candidate list is the last policy set applied to the last path set the pool cached. -/
theorem serial_candidates (policy : Policy) (paths : List Path) {s : SubscriberSystem}
    (h : Reach policyFilter Serial (init policy paths) s) (hdone : s.calls = []) :
    s.policies.getLast? = some s.policy ∧ s.caches.getLast? = some s.cached ∧
      s.target.paths = filtered policyFilter s.policy s.cached := by
  have hsound := (reach_inv policyFilter (inv_init policyFilter policy paths) h).1
  have hph := serialPhase_reach policyFilter (inv_init policyFilter policy paths) rfl h
  simp only [SerialPhase, hdone] at hph
  exact ⟨hsound.policy_last, hsound.cached_last, hph.2.2⟩

/-- **The subscriber's candidate list.** Over every interleaving it is empty or a policy that was
set applied to a path set the pool cached, and no statement of a call panics; when the calls do
not overlap, once all have returned it is the last policy set applied to the pool's last path
set. -/
theorem subscriber_candidates (policy : Policy) (paths : List Path) :
    (∀ s, Reach policyFilter anyOrder (init policy paths) s →
      (s.target.paths = [] ∨
        ∃ p ∈ s.policies, ∃ P ∈ s.caches, s.target.paths = filtered policyFilter p P) ∧
      ∀ i < s.calls.length, ∃ s', s.step policyFilter (.run i) = some s') ∧
    (∀ s, Reach policyFilter Serial (init policy paths) s → s.calls = [] →
      s.policies.getLast? = some s.policy ∧ s.caches.getLast? = some s.cached ∧
        s.target.paths = filtered policyFilter s.policy s.cached) :=
  ⟨fun _ h => candidates_from_pool policyFilter policy paths h,
    fun _ h hdone => serial_candidates policyFilter policy paths h hdone⟩

end SubscriberSystem

end

namespace SubscriberSystem

theorem subscriber_candidates_refresh :
    ∃ s, Reach (fun _ ps => ps) Serial (init none [pathWith "a"]) s ∧ s.calls = [] ∧
      s.cached = [pathWith "b"] ∧ s.target.paths = filtered (fun _ ps => ps) s.policy s.cached :=
  have h₀ : Reach (fun _ ps => ps) Serial (init none [pathWith "a"]) _ := .init
  have h := (((((h₀.next _ (.run 0) trivial rfl).next _ (.run 0) trivial rfl).next _ (.run 0)
    trivial rfl).next _ (.poolRefresh [pathWith "b"]) rfl rfl).next _ (.run 0) trivial rfl).next _
    (.run 0) trivial rfl
  ⟨_, h, rfl, rfl, ((subscriber_candidates _ none _).2 _ h rfl).2.2⟩

/-- **Overlapping calls lose updates.** A refresh the pool delivers between `pool.subscribe` and
`Initialize` is overwritten by the stale `Initialize`, whatever the policies do; and a delivery
that read the old policy and finishes after `setPolicy` undoes the policy change. In both runs
every call has returned, and the candidate list is not the current policy applied to the pool's
current set. -/
theorem subscriber_loses_updates :
    (∀ policyFilter : Nat → List Path → List Path, ∃ s,
      Reach policyFilter anyOrder (init none [pathWith "a"]) s ∧ s.calls = [] ∧
        s.target.paths ≠ filtered policyFilter s.policy s.cached) ∧
    (∃ s, Reach (fun _ _ => []) anyOrder (init none [pathWith "a"]) s ∧ s.calls = [] ∧
      s.target.paths ≠ filtered (fun _ _ => []) s.policy s.cached) := by
  refine ⟨fun policyFilter => ?_, ?_⟩
  · have h₀ : Reach policyFilter anyOrder (init none [pathWith "a"]) _ := .init
    exact ⟨_, (((((h₀.next _ (.run 0) trivial rfl).next _
    (.poolRefresh [pathWith "b"]) trivial rfl).next _ (.run 1) trivial rfl).next _ (.run 1) trivial
      rfl).next _ (.run 0) trivial rfl).next _ (.run 0) trivial rfl, rfl,
      show [pathWith "a"] ≠ [pathWith "b"] by decide⟩
  have h₀ : Reach (fun _ _ => []) anyOrder (init none [pathWith "a"]) _ := .init
  have h₁ := ((h₀.next _ (.run 0) trivial rfl).next _ (.run 0) trivial rfl).next _
    (.run 0) trivial rfl
  have h₂ := (((h₁.next _ (.poolRefresh [pathWith "b"]) trivial rfl).next _ (.run 0) trivial rfl).next _
    (.setPolicy (some 0)) trivial rfl)
  exact ⟨_, ((((h₂.next _ (.run 1) trivial rfl).next _ (.run 1) trivial rfl).next _ (.run 1) trivial
    rfl).next _ (.run 1) trivial rfl).next _ (.run 0) trivial rfl, rfl, by decide⟩

end SubscriberSystem

end ScionPan
