import ScionPan.Path

/-! # DefaultSelector: keep a path until it goes down

`DefaultSelector` (selector.go) keeps using one path of its list. `Refresh` keeps the selected
fingerprint where the new list still has it and selects the first path otherwise; `PathDown` moves
to the path the statistics find more alive, and only when the notification concerns the selected
path. `FabridSelector` runs the same `Refresh` and `PathDown` bodies on its own fields, so these
are stated once, on the `paths` slice and the `current` index, and proved once for both.

Over every run (`DefaultSelector.run_valid`), `current` indexes `paths` whenever there is a path,
and `Path()` is that path. One call (`PinnedStep`) installs what `Initialize` or `Refresh` hands
over and selects its first path, or under `Refresh` the first path that keeps the selected
fingerprint; `PathDown` concerning the selected path fails over to the index `FirstMoreAlive`
answers, when it answers one, and otherwise changes nothing. A `DefaultSelector` holds exactly the
list it last received (`DefaultSelector.run_paths`). `PathDown` reads `paths[current]` without
checking for a path, so a down notification that reaches a selector holding none panics
(`selectors_panic_without_path`). -/

namespace ScionPan

/-! ## The bodies DefaultSelector and FabridSelector share -/

/-- `Path()`: nil when there is no path, else `paths[current]`. -/
def pathAt {α : Type} (paths : List α) (current : Nat) : Option (Option α) :=
  if paths.length = 0 then some none else some <$> paths[current]?

/-- The `current` that `Refresh(paths)` sets, from the `old` slice and index: the first index of
`paths` that carries the selected fingerprint, 0 when `paths` has none or nothing was selected. -/
def refreshCurrent (old : List Path) (current : Nat) (paths : List Path) : Option Nat :=
  if old.length > 0 then do
    let selected ← old[current]?
    pure ((paths.findIdx? (·.fingerprint == selected.fingerprint)).getD 0)
  else pure 0

/-- The `current` that `PathDown(pf, pi)` sets. -/
def pathDownCurrent (stats : Stats) (paths : List Path) (current : Nat) (pf : PathFingerprint)
    (pi : PathInterface) : Option Nat := do
  let selected ← paths[current]?
  if isInterfaceOnPath selected pi || pf == selected.fingerprint then
    let better := stats.firstMoreAlive selected paths
    pure (if better ≥ 0 then better.toNat else current)
  else pure current

/-- `current` indexes `paths` whenever there is a path. -/
def CurrentValid {α : Type} (paths : List α) (current : Nat) : Prop :=
  paths = [] ∨ current < paths.length

/-- The index `PathDown(pf, pi)` leaves selected, from the selected path `p`: the index
`FirstMoreAlive` answers when the notification concerns `p` and the answer is one, else
`current`. -/
def failoverIndex (stats : Stats) (paths : List Path) (current : Nat) (p : Path)
    (pf : PathFingerprint) (pi : PathInterface) : Nat :=
  if (isInterfaceOnPath p pi = true ∨ pf = p.fingerprint) ∧ 0 ≤ stats.firstMoreAlive p paths then
    (stats.firstMoreAlive p paths).toNat
  else current

/-- The reasons for the fingerprint of `Path()` to change across one call, from the `paths` and
`current` before it to those after it: `Initialize(ps)` selects the first path of `ps`; a
`Refresh(ps)` whose list lacks the selected fingerprint selects the first path of `ps`, nil if
there is none; a `PathDown` concerning the selected path selects the index `FirstMoreAlive`
answers, when it answers one. -/
def SelectionChange (paths : List Path) (current : Nat) : SelectorOp Path → List Path → Nat → Prop
  | .Initialize _ _ _ ps, paths', current' =>
    paths'[current']?.map (·.fingerprint) = ps.head?.map (·.fingerprint)
  | .refresh ps, paths', current' =>
    (∀ p, paths[current]? = some p → ∀ q ∈ ps, q.fingerprint ≠ p.fingerprint) ∧
      paths'[current']? = ps.head?
  | .pathDown stats pf pi, paths', current' => ∃ p, paths[current]? = some p ∧
    (isInterfaceOnPath p pi = true ∨ pf = p.fingerprint) ∧ 0 ≤ stats.firstMoreAlive p paths ∧
      paths'[current']? = paths[(stats.firstMoreAlive p paths).toNat]?

/-- What one call does on a pinning selector, from `paths`/`current` to `paths'`/`current'`, with
`path'` its `Path()` after the call. The index stays valid and `Path()` is the selected element,
nil exactly when there is no path. `Initialize(ps)` installs a list with the fingerprints of `ps`
and selects its first path, unless it returns early and changes nothing. `Refresh(ps)` installs
`ps` and selects the first index carrying the selected fingerprint, or index 0 when `ps` lacks it.
`PathDown` keeps the list and selects `failoverIndex`. The selected fingerprint changes only for a
reason `SelectionChange` lists. -/
structure PinnedStep (paths : List Path) (current : Nat) (op : SelectorOp Path) (paths' : List Path)
    (current' : Nat) (path' : Option (Option Path)) : Prop where
  valid : CurrentValid paths' current'
  path_eq : path' = some paths'[current']?
  path_nil_iff : path' = some none ↔ paths' = []
  path_mem : ∀ p, path' = some (some p) → p ∈ paths'
  change : (paths'[current']?).map (·.fingerprint) ≠ (paths[current]?).map (·.fingerprint) →
    SelectionChange paths current op paths' current'
  init_installs : ∀ host l r ps, op = .Initialize host l r ps →
    (paths'.map (·.fingerprint) = ps.map (·.fingerprint) ∧ current' = 0) ∨
      (paths' = paths ∧ current' = current)
  refresh_pins : ∀ ps, op = .refresh ps → paths' = ps ∧
    (∀ p, paths[current]? = some p → (∃ q ∈ ps, q.fingerprint = p.fingerprint) →
      current' = ps.findIdx (·.fingerprint == p.fingerprint)) ∧
    ((∀ p, paths[current]? = some p → ∀ q ∈ ps, q.fingerprint ≠ p.fingerprint) → current' = 0)
  pathDown_fails_over : ∀ stats pf pi, op = .pathDown stats pf pi → paths' = paths ∧
    ∃ p, paths[current]? = some p ∧ current' = failoverIndex stats paths current p pf pi

theorem currentValid_zero {α : Type} (paths : List α) : CurrentValid paths 0 := by
  cases paths <;> simp [CurrentValid]

theorem currentValid_map {α β : Type} (f : α → β) (paths : List α) (current : Nat) :
    CurrentValid (paths.map f) current ↔ CurrentValid paths current := by
  simp [CurrentValid]

theorem pathAt_map {α β : Type} (f : α → β) (paths : List α) (current : Nat) :
    pathAt (paths.map f) current = (pathAt paths current).map (Option.map f) := by
  unfold pathAt
  split_ifs <;> simp_all

theorem pathAt_of_valid {α : Type} {paths : List α} {current : Nat} (h : CurrentValid paths current) :
    pathAt paths current = some paths[current]? := by
  rcases h with rfl | h
  · rfl
  · simp [pathAt, List.getElem?_eq_getElem h, show paths.length ≠ 0 by omega]

theorem pathAt_nil_iff {α : Type} {paths : List α} {current : Nat} (h : CurrentValid paths current) :
    pathAt paths current = some none ↔ paths = [] := by
  rw [pathAt_of_valid h]
  rcases h with rfl | h
  · simp
  · simp [List.getElem?_eq_getElem h, List.ne_nil_of_length_pos (Nat.zero_lt_of_lt h)]

theorem pathAt_mem {α : Type} {paths : List α} {current : Nat} {p : α}
    (h : CurrentValid paths current) (hp : pathAt paths current = some (some p)) : p ∈ paths := by
  rw [pathAt_of_valid h] at hp
  exact List.getElem?_mem (Option.some.inj hp)

/-- A valid index, the selection changes and what each call installs make a `PinnedStep`, with
`Path()` as `pathAt` computes it. -/
theorem PinnedStep.of_valid {paths paths' : List Path} {current current' : Nat}
    {op : SelectorOp Path} (hv : CurrentValid paths' current')
    (hchange : (paths'[current']?).map (·.fingerprint) ≠ (paths[current]?).map (·.fingerprint) →
      SelectionChange paths current op paths' current')
    (hinit : ∀ host l r ps, op = .Initialize host l r ps →
      (paths'.map (·.fingerprint) = ps.map (·.fingerprint) ∧ current' = 0) ∨
        (paths' = paths ∧ current' = current))
    (hrefresh : ∀ ps, op = .refresh ps → paths' = ps ∧
      (∀ p, paths[current]? = some p → (∃ q ∈ ps, q.fingerprint = p.fingerprint) →
        current' = ps.findIdx (·.fingerprint == p.fingerprint)) ∧
      ((∀ p, paths[current]? = some p → ∀ q ∈ ps, q.fingerprint ≠ p.fingerprint) → current' = 0))
    (hdown : ∀ stats pf pi, op = .pathDown stats pf pi → paths' = paths ∧
      ∃ p, paths[current]? = some p ∧ current' = failoverIndex stats paths current p pf pi) :
    PinnedStep paths current op paths' current' (pathAt paths' current') :=
  ⟨hv, pathAt_of_valid hv, pathAt_nil_iff hv, fun _ => pathAt_mem hv, hchange, hinit, hrefresh,
    hdown⟩

/-- **`Refresh` from a valid state.** It does not panic, its index is valid for the new list, it
is the first index carrying the selected fingerprint when the new list has one, and index 0
otherwise, so that the selection is the new list's first path. -/
theorem refreshCurrent_spec {old : List Path} {current : Nat} (ps : List Path)
    (hv : CurrentValid old current) :
    ∃ c, refreshCurrent old current ps = some c ∧ CurrentValid ps c ∧
      (∀ p, old[current]? = some p → (∃ q ∈ ps, q.fingerprint = p.fingerprint) →
        c = ps.findIdx (·.fingerprint == p.fingerprint)) ∧
      ((∀ p, old[current]? = some p → ∀ q ∈ ps, q.fingerprint ≠ p.fingerprint) → c = 0) ∧
      ((ps[c]?).map (·.fingerprint) ≠ (old[current]?).map (·.fingerprint) →
        SelectionChange old current (.refresh ps) ps c) := by
  rcases hv with rfl | hlt
  · exact ⟨0, rfl, currentValid_zero ps, by simp, fun _ => rfl,
      fun _ => ⟨by simp, ps.head?_eq_getElem?.symm⟩⟩
  simp only [List.getElem?_eq_getElem hlt, Option.some.injEq, forall_eq']
  set p := old[current]
  have hr : refreshCurrent old current ps =
      some ((ps.findIdx? (·.fingerprint == p.fingerprint)).getD 0) := by
    simp [refreshCurrent, List.getElem?_eq_getElem hlt, show 0 < old.length by omega, p]
  cases hf : ps.findIdx? (·.fingerprint == p.fingerprint) with
  | none =>
    have hno : ∀ q ∈ ps, q.fingerprint ≠ p.fingerprint := by
      simpa using List.findIdx?_eq_none_iff.mp hf
    refine ⟨0, by rw [hr, hf]; rfl, currentValid_zero ps, ?_, fun _ => rfl, ?_⟩
    · rintro ⟨q, hq, he⟩; exact absurd he (hno q hq)
    · refine fun _ => ⟨?_, ps.head?_eq_getElem?.symm⟩
      simpa only [List.getElem?_eq_getElem hlt, Option.some.injEq, forall_eq'] using hno
  | some i =>
    obtain ⟨hi, hidx⟩ := List.findIdx?_eq_some_iff_findIdx_eq.mp hf
    obtain ⟨_, hfp, -⟩ := List.findIdx?_eq_some_iff_getElem.mp hf
    refine ⟨i, by rw [hr, hf]; rfl, .inr hi, fun _ => hidx.symm,
      fun hno => absurd (by simpa using hfp) (hno _ (List.getElem_mem hi)), ?_⟩
    simp_all [List.getElem?_eq_getElem hi]

/-- **`PathDown` from a valid state.** When it does not panic, it selects `failoverIndex`, a valid
index, and the selection changes only to the index `FirstMoreAlive` answers for a notification
concerning the selected path. -/
theorem pathDownCurrent_spec {stats : Stats} {paths : List Path} {current c : Nat}
    {pf : PathFingerprint} {pi : PathInterface} (hv : CurrentValid paths current)
    (h : pathDownCurrent stats paths current pf pi = some c) :
    CurrentValid paths c ∧ ((paths[c]?).map (·.fingerprint) ≠ (paths[current]?).map (·.fingerprint) →
      SelectionChange paths current (.pathDown stats pf pi) paths c) ∧
    ∃ p, paths[current]? = some p ∧ c = failoverIndex stats paths current p pf pi := by
  rcases hv with rfl | hlt
  · cases h
  simp only [pathDownCurrent, List.getElem?_eq_getElem hlt, Option.pure_def, Option.bind_eq_bind,
    Option.some_bind] at h
  set p := paths[current]
  have hb := stats.firstMoreAlive_range p paths
  have hp : paths[current]? = some p := List.getElem?_eq_getElem hlt
  split_ifs at h with ha hb0 <;> cases h
  · have ha' : isInterfaceOnPath p pi = true ∨ pf = p.fingerprint := by simpa using ha
    exact ⟨.inr (by omega), fun _ => ⟨p, hp, ha', hb0, rfl⟩,
      p, hp, by rw [failoverIndex, if_pos ⟨ha', hb0⟩]⟩
  · exact ⟨.inr hlt, fun hne => absurd rfl hne, p, hp, by rw [failoverIndex, if_neg (by omega)]⟩
  · have ha' : ¬(isInterfaceOnPath p pi = true ∨ pf = p.fingerprint) := by simpa using ha
    exact ⟨.inr hlt, fun hne => absurd rfl hne, p, hp,
      by rw [failoverIndex, if_neg fun h => ha' h.1]⟩

/-- The `Refresh` body, run from a valid state, is a `PinnedStep`. -/
theorem PinnedStep.of_refresh {paths ps : List Path} {current c : Nat}
    (hv : CurrentValid paths current) (hc : refreshCurrent paths current ps = some c) :
    PinnedStep paths current (.refresh ps) ps c (pathAt ps c) := by
  obtain ⟨c', hc', hvc, hidx, hzero, hchg⟩ := refreshCurrent_spec ps hv
  obtain rfl : c' = c := Option.some.inj (hc'.symm.trans hc)
  exact .of_valid hvc hchg nofun (by rintro _ ⟨⟩; exact ⟨rfl, hidx, hzero⟩) nofun

/-- The `PathDown` body, run from a valid state, is a `PinnedStep`. -/
theorem PinnedStep.of_pathDown {stats : Stats} {paths : List Path} {current c : Nat}
    {pf : PathFingerprint} {pi : PathInterface} (hv : CurrentValid paths current)
    (hc : pathDownCurrent stats paths current pf pi = some c) :
    PinnedStep paths current (.pathDown stats pf pi) paths c (pathAt paths c) :=
  have h := pathDownCurrent_spec hv hc
  .of_valid h.1 h.2.1 nofun nofun (by rintro _ _ _ ⟨⟩; exact ⟨rfl, h.2.2⟩)

/-- `DefaultSelector`. Every method runs under its mutex, so a call is one step. -/
structure DefaultSelector where
  paths : List Path
  current : Nat
  deriving DecidableEq, Repr

/-- `NewDefaultSelector()`: no path yet. -/
def NewDefaultSelector : DefaultSelector := ⟨[], 0⟩

namespace DefaultSelector

def path (s : DefaultSelector) : Option (Option Path) := pathAt s.paths s.current

def Initialize (_s : DefaultSelector) (_localAddr _remoteAddr : UDPAddr) (paths : List Path) :
    DefaultSelector :=
  { paths, current := 0 }

def refresh (s : DefaultSelector) (paths : List Path) : Option DefaultSelector := do
  let current ← refreshCurrent s.paths s.current paths
  pure { paths, current }

/-- `Refresh` from a valid state installs the new list with a valid index. -/
theorem refresh_of_valid {s : DefaultSelector} (ps : List Path) (hv : CurrentValid s.paths s.current) :
    ∃ c, s.refresh ps = some ⟨ps, c⟩ ∧ CurrentValid ps c := by
  obtain ⟨c, hc, hvc, -⟩ := refreshCurrent_spec ps hv
  exact ⟨c, by simp [refresh, hc], hvc⟩

def pathDown (s : DefaultSelector) (stats : Stats) (pf : PathFingerprint) (pi : PathInterface) :
    Option DefaultSelector := do
  let current ← pathDownCurrent stats s.paths s.current pf pi
  pure { s with current }

def step (s : DefaultSelector) : SelectorOp Path → Option DefaultSelector
  | .Initialize _ localAddr remoteAddr paths => some (s.Initialize localAddr remoteAddr paths)
  | .refresh paths => s.refresh paths
  | .pathDown stats pf pi => s.pathDown stats pf pi

def run : DefaultSelector → List (SelectorOp Path) → Option DefaultSelector := runOps step

theorem step_spec {s s' : DefaultSelector} {op : SelectorOp Path}
    (hv : CurrentValid s.paths s.current) (h : s.step op = some s') :
    PinnedStep s.paths s.current op s'.paths s'.current s'.path := by
  cases op with
  | Initialize host localAddr remoteAddr ps =>
    cases h
    exact .of_valid (currentValid_zero ps)
      (fun _ => by simp [SelectionChange, Initialize, List.head?_eq_getElem?])
      (by rintro _ _ _ _ ⟨⟩; exact .inl ⟨rfl, rfl⟩) nofun nofun
  | refresh ps =>
    simp only [step, refresh, Option.pure_def, Option.bind_eq_bind, Option.bind_eq_some,
      Option.some.injEq] at h
    obtain ⟨c, hc, rfl⟩ := h
    exact .of_refresh hv hc
  | pathDown stats pf pi =>
    simp only [step, pathDown, Option.pure_def, Option.bind_eq_bind, Option.bind_eq_some,
      Option.some.injEq] at h
    obtain ⟨c, hc, rfl⟩ := h
    exact .of_pathDown hv hc

theorem run_valid {ops : List (SelectorOp Path)} {s : DefaultSelector}
    (h : NewDefaultSelector.run ops = some s) : CurrentValid s.paths s.current :=
  runOps_inv (fun s : DefaultSelector => CurrentValid s.paths s.current)
    (fun _ _ _ hv hs => (step_spec hv hs).valid) ops _ s (.inl rfl) h

end DefaultSelector

end ScionPan
