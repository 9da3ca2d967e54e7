import ScionPan.Pinging.Rounds

/-! # PingingSelector: the selector and its probing loop

`PingingSelector` (selector.go) selects the index the latency registry answers with
`LowestLatency(remote, paths)`: on `Initialize`, on `Refresh`, on every `PathDown`, and when its
probing loop closes a round (`reselectPath`). `SetActive` first runs `ensureRunning`, which starts
the loop the first time it finds the two endpoints in different ASes and `ping.NewPinger`
succeeding, and then stores the number of paths to probe. `Close` cancels the loop's context and
closes the pinger.

The selector and its loop are one state machine here: a step is a method call, which runs under
the mutex, or one event of the loop (`PingLoop.step`) on the fields the loop reads without the
lock. The two halves of `SetActive` are two events, since the loop may run between them. Every
event carries the registry's answers at its moment (`Stats`). The number of loops started is a
ghost field.

Over every run from the zero value (`Reach`), `Path()` never panics and is nil exactly when the
candidate list is empty; every method and every loop event that closes a round selects the
registry's lowest-latency index among the candidates the selector then holds, and no other event
moves the selection (`selects_lowest_latency`). At most one loop is ever started, by an
`ensureRunning` that finds the endpoints in different ASes and no pinger
(`probing_loop_started_once`). The loop's events are a run of `PingLoop.Reach` with the selector's
effect log, so the round accounting of `PingLoop` holds of it (`selector_loop_accounting`), and
after `Close` the loop's context-done case ends it (`close_ends_loop`). -/

namespace ScionPan

/-- `PingingSelector` with the loop it started. `cancelled` is whether `pingerCancel` ran on the
context the loop watches; `started` is ghost, the number of `go s.run()` executed. -/
structure PingingSelector where
  paths : List Path
  current : Int
  localAddr : ScionAddr
  remote : ScionAddr
  numActive : Int
  /-- `pinger != nil`. -/
  pinger : Bool
  cancelled : Bool
  /-- The locals of the `run` goroutine, once it is started. -/
  loop : Option PingLoop
  started : Nat
  deriving DecidableEq, Repr

/-- A method call on the selector, with the registry's answers for the selection it makes, or an
event of its loop, with the registry's answers for the `reselectPath` the event may end with. -/
inductive PingingEvent where
  | Initialize (stats : Stats) (localAddr remoteAddr : UDPAddr) (paths : List Path)
  | refresh (stats : Stats) (paths : List Path)
  | pathDown (stats : Stats) (pf : PathFingerprint) (pi : PathInterface)
  /-- The first half of `SetActive`, with whether `ping.NewPinger` fails. -/
  | ensureRunning (newPingerErr : Bool)
  /-- The second half of `SetActive(numActive)`: `atomic.SwapInt64(&s.numActive, numActive)`. -/
  | setActive (numActive : Int)
  | close
  | loop (stats : Stats) (e : LoopEvent)

/-- The registry's answers an event selects with: every method but `SetActive` and `Close`
reselects, and a loop event does when it ends with `reselectPath`. -/
def PingingEvent.reselects : PingingEvent → List PingEffect → Option Stats
  | .Initialize stats _ _ _, _ | .refresh stats _, _ | .pathDown stats _ _, _ => some stats
  | .loop stats _, effs => if .reselectPath ∈ effs then some stats else none
  | _, _ => none

namespace PingingSelector

/-- The selector a caller builds with only `Interval` and `Timeout` set. -/
def zero : PingingSelector := ⟨[], 0, default, default, 0, false, false, none, 0⟩

/-- `Path()`: nil when there is no path, else `paths[current]`, which panics out of range. -/
def path (s : PingingSelector) : Option (Option Path) :=
  if s.paths.length = 0 then some none
  else if 0 ≤ s.current then some <$> s.paths[s.current.toNat]? else none

def Initialize (s : PingingSelector) (stats : Stats) (localAddr remoteAddr : UDPAddr)
    (paths : List Path) : PingingSelector :=
  { s with localAddr := localAddr.scionAddr, remote := remoteAddr.scionAddr, paths,
           current := stats.lowestLatency remoteAddr.scionAddr paths }

def refresh (s : PingingSelector) (stats : Stats) (paths : List Path) : PingingSelector :=
  { s with paths, current := stats.lowestLatency s.remote paths }

def reselectPath (s : PingingSelector) (stats : Stats) : PingingSelector :=
  { s with current := stats.lowestLatency s.remote s.paths }

/-- `PathDown` reselects, whichever path the notification concerns. -/
def pathDown (s : PingingSelector) (stats : Stats) (_pf : PathFingerprint) (_pi : PathInterface) :
    PingingSelector :=
  s.reselectPath stats

/-- `ensureRunning`: nothing within one AS or once there is a pinger; otherwise a fresh context
and `ping.NewPinger`, and when that succeeds the pinger, its `Drain` and the loop. The context of
a failed pinger is left to nobody. -/
def ensureRunning (s : PingingSelector) (newPingerErr : Bool) : PingingSelector :=
  if s.localAddr.ia = s.remote.ia then s
  else if s.pinger then s
  else if newPingerErr then s
  else { s with pinger := true, cancelled := false, loop := some PingLoop.init,
                started := s.started + 1 }

/-- `Close`: with a pinger, `pingerCancel()` and `pinger.Close()`; a pinger is never reset. -/
def close (s : PingingSelector) : PingingSelector :=
  if s.pinger then { s with cancelled := true } else s

/-- What `run` reads of the selector. -/
def loopView (s : PingingSelector) : LoopView := ⟨s.paths, s.numActive, s.remote, s.cancelled⟩

/-- A call of the loop on the selector: only `reselectPath` changes it; the others go to the
pinger and the registry. -/
def applyEffect (stats : Stats) (s : PingingSelector) : PingEffect → PingingSelector
  | .reselectPath => s.reselectPath stats
  | _ => s

variable (Timeout : Nat)

/-- One step of the selector: a method, or an event of its loop with the calls the loop makes;
`none` when the event cannot happen (there is no loop, or the loop cannot take it). -/
def step (s : PingingSelector) : PingingEvent → Option (PingingSelector × List PingEffect)
  | .Initialize stats localAddr remoteAddr paths =>
    some (s.Initialize stats localAddr remoteAddr paths, [])
  | .refresh stats paths => some (s.refresh stats paths, [])
  | .pathDown stats pf pi => some (s.pathDown stats pf pi, [])
  | .ensureRunning newPingerErr => some (s.ensureRunning newPingerErr, [])
  | .setActive numActive => some ({ s with numActive }, [])
  | .close => some (s.close, [])
  | .loop stats e =>
    match s.loop with
    | none => none
    | some l => (PingLoop.step Timeout s.loopView l e).map fun (l', effs) =>
      (effs.foldl (applyEffect stats) { s with loop := some l' }, effs)

/-- The states and effect logs a selector reaches from its zero value. -/
inductive Reach : PingingSelector → List PingEffect → Prop
  | zero : Reach zero []
  | step {s : PingingSelector} {log : List PingEffect} {e : PingingEvent} {s' : PingingSelector}
      {effs : List PingEffect} : Reach s log → step Timeout s e = some (s', effs) →
      Reach s' (log ++ effs)

theorem Reach.next {s s' : PingingSelector} {log effs : List PingEffect} (h : Reach Timeout s log)
    (e : PingingEvent) (hs : PingingSelector.step Timeout s e = some (s', effs)) :
    Reach Timeout s' (log ++ effs) :=
  .step h hs

/-! ## What one step does -/

theorem foldl_applyEffect (stats : Stats) : ∀ (effs : List PingEffect) (s : PingingSelector),
    effs.foldl (applyEffect stats) s = if .reselectPath ∈ effs then s.reselectPath stats else s
  | [], s => by simp
  | e :: effs, s => by
    rw [List.foldl_cons, foldl_applyEffect stats effs]
    cases e <;> simp [applyEffect, reselectPath]

/-- `ensureRunning` changes nothing, or starts the loop. -/
theorem ensureRunning_cases (s : PingingSelector) (err : Bool) :
    s.ensureRunning err = s ∨
      err = false ∧ s.localAddr.ia ≠ s.remote.ia ∧ s.pinger = false ∧
        s.ensureRunning err =
          { s with pinger := true, cancelled := false, loop := some PingLoop.init,
                   started := s.started + 1 } := by
  unfold ensureRunning
  split_ifs with hia hp herr
  · exact .inl rfl
  · exact .inl rfl
  · exact .inl rfl
  · exact .inr ⟨by simpa using herr, hia, by simpa using hp, rfl⟩

theorem close_cases (s : PingingSelector) : s.close = s ∨ s.close = { s with cancelled := true } := by
  unfold close
  split_ifs
  · exact .inr rfl
  · exact .inl rfl

/-- A loop event runs one step of the loop on what the selector holds, and reselects when the
loop asks for it. -/
theorem step_loop {s s' : PingingSelector} {stats : Stats} {e : LoopEvent} {effs : List PingEffect}
    (h : s.step Timeout (.loop stats e) = some (s', effs)) :
    ∃ l l', s.loop = some l ∧ PingLoop.step Timeout s.loopView l e = some (l', effs) ∧
      s' = if .reselectPath ∈ effs then { s with loop := some l' }.reselectPath stats
        else { s with loop := some l' } := by
  cases hl : s.loop with
  | none => simp [step, hl] at h
  | some l =>
    simp only [step, hl, Option.map_eq_some'] at h
    obtain ⟨⟨l', effs'⟩, hstep, h⟩ := h
    cases h
    exact ⟨l, l', rfl, hstep, foldl_applyEffect stats _ _⟩

/-- **What a step does to the selection.** An event that reselects sets `current` to the
registry's lowest-latency index among the candidates it leaves; any other event leaves the
candidates, the index and the remote as they were. -/
theorem step_selection {s s' : PingingSelector} {e : PingingEvent} {effs : List PingEffect}
    (h : s.step Timeout e = some (s', effs)) :
    (∀ stats, e.reselects effs = some stats →
      s'.current = stats.lowestLatency s'.remote s'.paths) ∧
    (e.reselects effs = none → s'.paths = s.paths ∧ s'.current = s.current ∧ s'.remote = s.remote) := by
  cases e with
  | loop stats e =>
    obtain ⟨l, l', -, -, rfl⟩ := step_loop Timeout h
    by_cases hr : PingEffect.reselectPath ∈ effs <;>
      simp [PingingEvent.reselects, hr, reselectPath]
  | ensureRunning err =>
    cases h
    rcases ensureRunning_cases s err with he | ⟨-, -, -, he⟩ <;> simp [PingingEvent.reselects, he]
  | close =>
    cases h
    rcases close_cases s with he | he <;> simp [PingingEvent.reselects, he]
  | _ => cases h; simp [PingingEvent.reselects, Initialize, refresh, pathDown, reselectPath]

/-- `current` indexes `paths` whenever there is a path. -/
def CurrentValid (s : PingingSelector) : Prop :=
  s.paths ≠ [] → 0 ≤ s.current ∧ s.current < s.paths.length

theorem path_of_valid {s : PingingSelector} (hv : s.CurrentValid) :
    s.path = some s.paths[s.current.toNat]? := by
  unfold path
  split_ifs with h0 hc
  · simp [List.length_eq_zero.mp h0]
  · obtain ⟨-, hlt⟩ := hv (List.ne_nil_of_length_pos (Nat.pos_of_ne_zero h0))
    rw [List.getElem?_eq_getElem (by omega)]
    rfl
  · exact absurd (hv (List.ne_nil_of_length_pos (Nat.pos_of_ne_zero h0))).1 hc

theorem currentValid_step {s s' : PingingSelector} {e : PingingEvent} {effs : List PingEffect}
    (hv : s.CurrentValid) (h : s.step Timeout e = some (s', effs)) : s'.CurrentValid := by
  obtain ⟨hsel, hkeep⟩ := step_selection Timeout h
  cases hr : e.reselects effs with
  | some stats =>
    unfold CurrentValid
    rw [hsel stats hr]
    exact stats.lowestLatency_range s'.remote s'.paths
  | none =>
    obtain ⟨hp, hc, -⟩ := hkeep hr
    unfold CurrentValid
    rw [hp, hc]
    exact hv

/-! ## The loop it starts -/

/-- Only `ensureRunning` starts a loop, on different ASes, without a pinger, and when
`NewPinger` succeeds; it starts it from `run`'s first state. -/
theorem started_step {s s' : PingingSelector} {e : PingingEvent} {effs : List PingEffect}
    (h : s.step Timeout e = some (s', effs)) :
    s'.started = s.started ∨
      e = .ensureRunning false ∧ s.localAddr.ia ≠ s.remote.ia ∧ s.pinger = false ∧
        s' = { s with pinger := true, cancelled := false, loop := some PingLoop.init,
                      started := s.started + 1 } := by
  cases e with
  | loop stats e =>
    obtain ⟨l, l', -, -, rfl⟩ := step_loop Timeout h
    left; split_ifs <;> rfl
  | ensureRunning err =>
    cases h
    rcases ensureRunning_cases s err with he | ⟨rfl, hia, hp, he⟩
    · exact .inl (by rw [he])
    · exact .inr ⟨rfl, hia, hp, he⟩
  | close => cases h; rcases close_cases s with he | he <;> exact .inl (by rw [he])
  | _ => cases h; exact .inl rfl

/-- What holds of every state a run reaches: the selection is valid, a loop runs exactly when
there is a pinger and was started once, and the loop's run is the selector's effect log. -/
structure Inv (s : PingingSelector) (log : List PingEffect) : Prop where
  current_valid : s.CurrentValid
  started_eq : s.started = if s.pinger then 1 else 0
  loop_pinger : s.loop.isSome = s.pinger
  log_nil : s.loop = none → log = []
  loop_reach : ∀ l, s.loop = some l → PingLoop.Reach Timeout PingLoop.anyOrder l log

theorem inv_zero : Inv Timeout zero [] where
  current_valid h := absurd rfl h
  started_eq := rfl
  loop_pinger := rfl
  log_nil _ := rfl
  loop_reach _ h := nomatch h

/-- A step that leaves the loop, the pinger and the log keeps what `Inv` says of them. -/
theorem Inv.frame {s s' : PingingSelector} {log : List PingEffect} (hs : Inv Timeout s log)
    (hv : s'.CurrentValid) (hp : s'.pinger = s.pinger) (hl : s'.loop = s.loop)
    (hst : s'.started = s.started) : Inv Timeout s' log where
  current_valid := hv
  started_eq := hst ▸ hp ▸ hs.started_eq
  loop_pinger := hl ▸ hp ▸ hs.loop_pinger
  log_nil := hl ▸ hs.log_nil
  loop_reach := hl ▸ hs.loop_reach

theorem inv_step {s s' : PingingSelector} {log effs : List PingEffect} {e : PingingEvent}
    (hs : Inv Timeout s log) (h : s.step Timeout e = some (s', effs)) :
    Inv Timeout s' (log ++ effs) := by
  have hv := currentValid_step Timeout hs.current_valid h
  cases e with
  | loop stats e =>
    obtain ⟨l, l', hl, hstep, rfl⟩ := step_loop Timeout h
    have hr := (hs.loop_reach l hl).step trivial hstep
    have hp : s.pinger = true := by simpa [hl] using hs.loop_pinger.symm
    split_ifs at hv ⊢ <;>
    exact ⟨hv, by simp [reselectPath, hp, hs.started_eq], by simp [reselectPath, hp], nofun,
      fun _ h => Option.some.inj h ▸ hr⟩
  | ensureRunning err =>
    cases h
    rw [List.append_nil]
    rcases ensureRunning_cases s err with he | ⟨-, -, hp, he⟩
    · rw [he]; exact hs
    · have hl : s.loop = none := by simpa [hp] using hs.loop_pinger
      rw [hs.log_nil hl, he]
      rw [he] at hv
      exact ⟨hv, by simp [hs.started_eq, hp], rfl, nofun, fun _ h => Option.some.inj h ▸ .init⟩
  | close =>
    cases h
    rw [List.append_nil]
    rcases close_cases s with he | he <;> rw [he] at hv ⊢
    · exact hs
    · exact hs.frame Timeout hv rfl rfl rfl
  | _ => cases h; rw [List.append_nil]; exact hs.frame Timeout hv rfl rfl rfl

theorem inv_reach {s : PingingSelector} {log : List PingEffect} (h : Reach Timeout s log) :
    Inv Timeout s log := by
  induction h with
  | zero => exact inv_zero Timeout
  | step _ hs ih => exact inv_step Timeout ih hs

/-! ## Over every run -/

/-- **The selector keeps to the registry's lowest-latency path.** In every state a run reaches,
`Path()` does not panic and is `paths[current]`, nil exactly when there is no path. A step
reselecting with the registry's answers sets `current` to its `LowestLatency` among the
candidates the selector holds afterwards, even where they exclude the previous selection; no other
step moves the selection. -/
theorem selects_lowest_latency {s s' : PingingSelector} {log effs : List PingEffect}
    {e : PingingEvent} (hr : Reach Timeout s log) (h : s.step Timeout e = some (s', effs)) :
    s'.path = some s'.paths[s'.current.toNat]? ∧ (s'.path = some none ↔ s'.paths = []) ∧
    (∀ stats, e.reselects effs = some stats →
      s'.current = stats.lowestLatency s'.remote s'.paths) ∧
    (e.reselects effs = none → s'.paths = s.paths ∧ s'.current = s.current) := by
  have hv := currentValid_step Timeout (inv_reach Timeout hr).current_valid h
  obtain ⟨hsel, hkeep⟩ := step_selection Timeout h
  refine ⟨path_of_valid hv, ?_, hsel, fun hn => ⟨(hkeep hn).1, (hkeep hn).2.1⟩⟩
  rw [path_of_valid hv]
  by_cases hp : s'.paths = []
  · simp [hp]
  · obtain ⟨h0, hlt⟩ := hv hp
    simp [hp, List.getElem?_eq_getElem (show s'.current.toNat < s'.paths.length by omega)]

/-- Statistics that find the last path of every list fastest. -/
def lastFastest : Stats where
  firstMoreAlive _ _ := -1
  lowestLatency _ ps := ps.length - 1
  firstMoreAlive_range _ _ := .inl rfl
  lowestLatency_range _ ps h := by
    have := List.length_pos.mpr h
    dsimp only; omega

theorem selects_lowest_latency_refresh :
    (zero.refresh lastFastest [pathWith "a", pathWith "b"]).path = some (some (pathWith "b")) :=
  ((selects_lowest_latency 5 .zero (e := .refresh lastFastest [pathWith "a", pathWith "b"])
    rfl).1).trans rfl

/-- **The loop is started at most once.** In every state a run reaches, at most one loop was
started, and there is a loop exactly when one was. A step starts one only as `ensureRunning` with
`NewPinger` succeeding, on a selector whose endpoints are in different ASes and that has no
pinger yet; it starts `run` from its first state. -/
theorem probing_loop_started_once {s : PingingSelector} {log : List PingEffect}
    (hr : Reach Timeout s log) :
    s.started ≤ 1 ∧ (s.loop.isSome ↔ s.started = 1) ∧
    ∀ e s' effs, s.step Timeout e = some (s', effs) → s'.started ≠ s.started →
      e = .ensureRunning false ∧ s.localAddr.ia ≠ s.remote.ia ∧ s.pinger = false ∧
        s'.loop = some PingLoop.init := by
  have hi := inv_reach Timeout hr
  refine ⟨?_, ?_, fun e s' effs h hne => ?_⟩
  · rw [hi.started_eq]; split <;> omega
  · rw [hi.started_eq, hi.loop_pinger]; cases s.pinger <;> simp
  · rcases started_step Timeout h with hst | ⟨he, hia, hp, rfl⟩
    · exact absurd hst hne
    · exact ⟨he, hia, hp, rfl⟩

/-- A selector between two ASes after `Initialize` and an `ensureRunning` whose pinger works. -/
def activated : PingingSelector :=
  (zero.Initialize lastFastest ⟨1, 0, 0⟩ ⟨2, 0, 0⟩ [pathWith "a"]).ensureRunning false

theorem reach_activated : Reach 5 activated [] :=
  (Reach.zero.next 5 (.Initialize lastFastest ⟨1, 0, 0⟩ ⟨2, 0, 0⟩ [pathWith "a"]) rfl).next 5
    (.ensureRunning false) rfl

theorem probing_loop_started_once_activated :
    activated.started ≤ 1 ∧ (activated.loop.isSome ↔ activated.started = 1) ∧
    ∀ e s' effs, activated.step 5 e = some (s', effs) → s'.started ≠ activated.started →
      e = .ensureRunning false ∧ activated.localAddr.ia ≠ activated.remote.ia ∧
        activated.pinger = false ∧ s'.loop = some PingLoop.init :=
  probing_loop_started_once 5 reach_activated

/-- **The selector's loop runs as `PingLoop` does.** In every state a run reaches, the loop, once
started, has reached its state by a run of `PingLoop.step` in some order of events whose calls are
the selector's effect log, so the round accounting of every such run holds of it. -/
theorem selector_loop_accounting {s : PingingSelector} {log : List PingEffect} {l : PingLoop}
    (hr : Reach Timeout s log) (hl : s.loop = some l) :
    PingLoop.Reach Timeout PingLoop.anyOrder l log ∧ PingLoop.Accounting l log :=
  have h := (inv_reach Timeout hr).loop_reach l hl
  ⟨h, PingLoop.accounting_reach Timeout h⟩

theorem selector_loop_accounting_activated :
    PingLoop.Reach 5 PingLoop.anyOrder PingLoop.init [] ∧ PingLoop.Accounting PingLoop.init [] :=
  selector_loop_accounting 5 reach_activated rfl

/-- **`Close` ends the loop.** On a selector a run reaches with a running loop, `Close` makes the
loop's context-done case ready, and taking it ends the loop with no call. -/
theorem close_ends_loop {s : PingingSelector} {log : List PingEffect} {l : PingLoop}
    (hr : Reach Timeout s log) (hl : s.loop = some l) (hrun : l.status = .running) (stats : Stats) :
    s.close.step Timeout (.loop stats .done) =
      some ({ s.close with loop := some { l with status := .exited } }, []) := by
  have hp : s.pinger = true := by simpa [hl] using ((inv_reach Timeout hr).loop_pinger).symm
  simp [step, close, hp, hl, PingLoop.step, hrun, loopView]

theorem close_ends_loop_activated :
    activated.close.step 5 (.loop lastFastest .done) =
      some ({ activated.close with loop := some { PingLoop.init with status := .exited } }, []) :=
  close_ends_loop 5 reach_activated rfl rfl lastFastest

/-! ## After `Close` -/

/-- The states and effect logs the selector reaches from `s₀`. -/
inductive ReachFrom (s₀ : PingingSelector) : PingingSelector → List PingEffect → Prop
  | init : ReachFrom s₀ s₀ []
  | step {s : PingingSelector} {log : List PingEffect} {e : PingingEvent} {s' : PingingSelector}
      {effs : List PingEffect} : ReachFrom s₀ s log →
      PingingSelector.step Timeout s e = some (s', effs) → ReachFrom s₀ s' (log ++ effs)

theorem ReachFrom.next {s₀ s s' : PingingSelector} {log effs : List PingEffect}
    (h : ReachFrom Timeout s₀ s log) (e : PingingEvent)
    (hs : PingingSelector.step Timeout s e = some (s', effs)) :
    ReachFrom Timeout s₀ s' (log ++ effs) :=
  .step h hs

/-- Once `Close` cancelled the context of a pinger, every step keeps the pinger and the
cancellation, and sends no probe. -/
theorem step_cancelled {s s' : PingingSelector} {e : PingingEvent} {effs : List PingEffect}
    (hp : s.pinger = true) (hc : s.cancelled = true) (h : s.step Timeout e = some (s', effs)) :
    s'.pinger = true ∧ s'.cancelled = true ∧ ∀ r sq p, PingEffect.send r sq p ∉ effs := by
  cases e with
  | loop stats e =>
    obtain ⟨l, l', -, hl, rfl⟩ := step_loop Timeout h
    refine ⟨by split_ifs <;> exact hp, by split_ifs <;> exact hc, fun r sq p hs => ?_⟩
    have := PingLoop.send_of_step Timeout hl hs
    simp [loopView, hc] at this
  | ensureRunning err =>
    cases h
    rcases ensureRunning_cases s err with he | ⟨-, -, hp', -⟩
    · rw [he]; exact ⟨hp, hc, by simp⟩
    · simp [hp] at hp'
  | close =>
    cases h
    rcases close_cases s with he | he <;> rw [he] <;> exact ⟨hp, by simp [hc], by simp⟩
  | _ => cases h; exact ⟨hp, hc, by simp⟩

theorem reachFrom_cancelled {s₀ s : PingingSelector} {log : List PingEffect}
    (hp : s₀.pinger = true) (hc : s₀.cancelled = true) (h : ReachFrom Timeout s₀ s log) :
    s.pinger = true ∧ s.cancelled = true ∧ ∀ r sq p, PingEffect.send r sq p ∉ log := by
  induction h with
  | init => exact ⟨hp, hc, by simp⟩
  | step _ hs ih =>
    obtain ⟨hp', hc', hno⟩ := ih
    obtain ⟨hp'', hc'', hno'⟩ := step_cancelled Timeout hp' hc' hs
    exact ⟨hp'', hc'', fun r sq p hm => (List.mem_append.mp hm).elim (hno r sq p) (hno' r sq p)⟩

/-- **No probe after `Close`.** After `Close` on a selector with a pinger, no run sends a probe:
the pinger stays set, so `ensureRunning` starts no other loop, and its context stays cancelled, so
the loop's ticks send nothing. `Close` on a selector without a pinger does nothing, and a later
`SetActive` starts the loop, which probes. -/
theorem close_stops_probing :
    (∀ s : PingingSelector, s.pinger = true → ∀ s' log, ReachFrom Timeout s.close s' log →
      ∀ r sq p, PingEffect.send r sq p ∉ log) ∧
    ∃ s' log, ReachFrom Timeout zero.close s' log ∧ ∃ r sq p, PingEffect.send r sq p ∈ log := by
  refine ⟨fun s hp _ _ h => (reachFrom_cancelled Timeout (by simp [close, hp])
    (by simp [close, hp]) h).2.2, ?_⟩
  have h₀ : ReachFrom Timeout zero.close zero.close [] := .init
  have h₂ : ReachFrom Timeout zero.close { activated with numActive := 1 } [] :=
    ((h₀.next Timeout (.Initialize lastFastest ⟨1, 0, 0⟩ ⟨2, 0, 0⟩ [pathWith "a"]) rfl).next Timeout
      (.ensureRunning false) rfl).next Timeout (.setActive 1) rfl
  have h : ReachFrom Timeout zero.close _ [.send 1 1 (pathWith "a")] :=
    h₂.next Timeout (.loop lastFastest (.tick fun _ => false)) rfl
  exact ⟨_, _, h, 1, 1, pathWith "a", List.mem_singleton_self _⟩

theorem close_stops_probing_activated :
    activated.pinger = true ∧ ∀ s' log, ReachFrom 5 activated.close s' log →
      ∀ r sq p, PingEffect.send r sq p ∉ log :=
  ⟨rfl, (close_stops_probing 5).1 activated rfl⟩

end PingingSelector

end ScionPan
