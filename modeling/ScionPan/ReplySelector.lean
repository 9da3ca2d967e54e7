import ScionPan.Path

/-! # The reply-path cache of listening sockets

`DefaultReplySelector` (udp_listen.go) keeps, for every remote, the paths it recorded on inbound
packets in a bounded most-recently-used list (`pathsMRU`), and replies over the front one.
`pathsMRU.insert` searches the list for the path's fingerprint, appends a slot or reuses the last
one when the fingerprint is new, stores the path, and moves it to the front with one overlapping
`copy`.

`PathsMRU.insert_eq`: on a list of distinct fingerprints within the bound, `insert` is "put the
path in front, drop the old entry with its fingerprint, keep at most `maxEntries`". The abstract
cache `PathsMRU.latestDistinct` keeps the latest path of every fingerprint, most recent first, and
`insert` refines its first `maxEntries` entries (`PathsMRU.insert_latestDistinct`). Over any
history of `Record` calls (`DefaultReplySelector.record_history`), a remote's entry is therefore
the first `maxEntries` of the abstract cache of what was recorded for it. The bound
`defaultSelectorMaxReplyPaths` is not under src/ and is a parameter. -/

namespace ScionPan

/-- `pathsMRU`: the paths a remote used, most recently used first. -/
abbrev PathsMRU := List Path

namespace PathsMRU

/-- The end of `insert`: `paths[i] = path`, then the move of `paths[i]` to the front. -/
def setFront (paths : PathsMRU) (i : Nat) (path : Path) : Option PathsMRU := do
  let paths ← setAt? paths i path
  if i ≠ 0 then
    let pi ← paths[i]?
    setAt? (copyWithin paths 1 0 i) 0 pi
  else pure paths

/-- `insert(path, maxEntries)`: the index of the path's fingerprint, or else a slot appended
(`append(paths, nil)`) below the bound or the last one at it, then `setFront`. -/
def insert (paths : PathsMRU) (path : Path) (maxEntries : Nat) : Option PathsMRU :=
  let i := paths.findIdx (·.fingerprint == path.fingerprint)
  if i = paths.length then
    if paths.length < maxEntries then setFront (paths ++ [default]) i path
    else setFront paths (paths.length - 1) path
  else setFront paths i path

/-- The shift `copy(paths[1:i+1], paths[0:i])` and the store at 0 move index `i` to the front. -/
theorem copyWithin_set_zero {α : Type} {l : List α} {i : Nat} (x : α) (hi : i < l.length) :
    (copyWithin (l.set i x) 1 0 i).set 0 x = x :: l.eraseIdx i := by
  apply List.ext_getElem
  · simp only [List.length_set, length_copyWithin, List.length_cons, List.length_eraseIdx, hi,
      if_true]
    omega
  · intro j h1 h2
    rcases j with _ | j
    · simp
    · simp only [copyWithin]
      rw [List.getElem_set, if_neg (by omega), List.getElem_mapIdx, List.getElem_cons_succ,
        List.getElem_eraseIdx]
      dsimp only
      by_cases hj : j < i
      · rw [if_pos ⟨by omega, by omega⟩, dif_pos hj, show 0 + (j + 1 - 1) = j by omega,
          List.getD_eq_getElem?_getD, List.getElem?_eq_getElem (by simp; omega), Option.getD_some,
          List.getElem_set, if_neg (by omega)]
      · rw [if_neg (by omega), dif_neg hj, List.getElem_set, if_neg (by omega)]

theorem setFront_eq {paths : PathsMRU} {i : Nat} (path : Path) (hi : i < paths.length) :
    setFront paths i path = some (path :: paths.eraseIdx i) := by
  by_cases h0 : i = 0
  · subst h0
    cases paths with
    | nil => cases hi
    | cons a t => simp [setFront]
  · have hpos : 0 < (copyWithin (paths.set i path) 1 0 i).length := by simp; omega
    simp [setFront, hi, h0, List.getElem?_set_self, setAt?_of_lt _ hpos, copyWithin_set_zero path hi]

/-- With room for one entry, `insert` never panics, and puts the path in front. -/
theorem insert_some (paths : PathsMRU) (path : Path) {maxEntries : Nat} (hmax : 1 ≤ maxEntries) :
    ∃ rest, insert paths path maxEntries = some (path :: rest) := by
  dsimp only [insert]
  split_ifs with hi hlt
  · exact ⟨_, setFront_eq path (by simp [hi])⟩
  · exact ⟨_, setFront_eq path (by omega)⟩
  · exact ⟨_, setFront_eq path (lt_of_le_of_ne (List.findIdx_le_length _) hi)⟩

/-- In a list of distinct fingerprints, no entry after the head has the head's fingerprint. -/
theorem filter_tail_of_nodup {a : Path} {t : List Path}
    (hnd : ((a :: t).map (·.fingerprint)).Nodup) : t.filter (·.fingerprint != a.fingerprint) = t :=
  List.filter_eq_self.mpr fun q hq => by
    have := (List.nodup_cons.mp hnd).1
    simp only [List.mem_map, not_exists, not_and] at this
    simpa using fun he => this q hq he

/-- In a list of distinct fingerprints, dropping the entry at the index of `f` drops every entry
with fingerprint `f`. -/
theorem eraseIdx_eq_filter {f : PathFingerprint} : ∀ {L : List Path} {i : Nat} (hi : i < L.length),
    (L.map (·.fingerprint)).Nodup → L[i].fingerprint = f →
      L.eraseIdx i = L.filter (·.fingerprint != f)
  | a :: t, 0, _, hnd, hf => by
    subst hf
    simp [filter_tail_of_nodup hnd]
  | a :: t, k + 1, hi, hnd, hf => by
    have ha : a.fingerprint ≠ f := fun he => by
      have := (List.nodup_cons.mp hnd).1
      simp only [List.mem_map, not_exists, not_and] at this
      exact this _ (List.getElem_mem (by simpa using hi)) (hf.trans he.symm)
    simp [eraseIdx_eq_filter (by simpa using hi) (List.nodup_cons.mp hnd).2 hf, ha]

/-- `insert` on a list of distinct fingerprints within the bound: the path in front, the entry with
its fingerprint dropped, at most `maxEntries` kept. -/
theorem insert_of_nodup {L : PathsMRU} (p : Path) {maxEntries : Nat} (hmax : 1 ≤ maxEntries)
    (hnd : (L.map (·.fingerprint)).Nodup) (hlen : L.length ≤ maxEntries) :
    insert L p maxEntries = some ((p :: L.filter (·.fingerprint != p.fingerprint)).take maxEntries) := by
  by_cases hf : L.findIdx (·.fingerprint == p.fingerprint) = L.length
  · have hnone : L.filter (·.fingerprint != p.fingerprint) = L :=
      List.filter_eq_self.mpr fun q hq => by simpa using List.findIdx_eq_length.mp hf q hq
    rw [hnone, insert, if_pos hf]
    split_ifs with hlt
    · rw [hf, setFront_eq p (by simp), List.eraseIdx_append_of_length_le (le_refl _),
        Nat.sub_self, List.eraseIdx_cons_zero, List.append_nil,
        List.take_of_length_le (by simp; omega)]
    · obtain ⟨m, hm⟩ : ∃ m, maxEntries = m + 1 := ⟨maxEntries - 1, by omega⟩
      rw [setFront_eq p (by omega), List.eraseIdx_eq_take_drop_succ, hm, List.take_succ_cons,
        List.drop_of_length_le (by omega), List.append_nil, show L.length - 1 = m by omega]
  · have hi : L.findIdx (·.fingerprint == p.fingerprint) < L.length :=
      lt_of_le_of_ne (List.findIdx_le_length _) hf
    have hfp := List.findIdx_getElem (w := hi)
    rw [insert, if_neg hf, setFront_eq p hi,
      eraseIdx_eq_filter hi hnd (by simpa using hfp), List.take_of_length_le]
    simp only [List.length_cons]
    have : (L.filter (·.fingerprint != p.fingerprint)).length < L.length :=
      List.length_filter_lt_length_iff_exists.mpr ⟨_, List.getElem_mem hi, by simpa using hfp⟩
    omega

/-- Putting `p` in front of the entries with other fingerprints keeps the fingerprints distinct. -/
theorem nodup_cons_filter {L : List Path} (p : Path) (hnd : (L.map (·.fingerprint)).Nodup) :
    ((p :: L.filter (·.fingerprint != p.fingerprint)).map (·.fingerprint)).Nodup := by
  simp only [List.map_cons, List.nodup_cons]
  exact ⟨by simp, List.Nodup.sublist ((List.filter_sublist _).map _) hnd⟩

/-- **`insert` on a well-formed list.** With `maxEntries ≥ 1` and a list of distinct fingerprints
within the bound, `insert` puts the path in front, drops the entry with its fingerprint and keeps
at most `maxEntries`, and the result is again well-formed. -/
theorem insert_eq (L : PathsMRU) (p : Path) (maxEntries : Nat) (hmax : 1 ≤ maxEntries)
    (hnd : (L.map (·.fingerprint)).Nodup) (hlen : L.length ≤ maxEntries) :
    insert L p maxEntries =
        some ((p :: L.filter (·.fingerprint != p.fingerprint)).take maxEntries) ∧
      (((p :: L.filter (·.fingerprint != p.fingerprint)).take maxEntries).map
        (·.fingerprint)).Nodup ∧
      ((p :: L.filter (·.fingerprint != p.fingerprint)).take maxEntries).length ≤ maxEntries :=
  ⟨insert_of_nodup p hmax hnd hlen,
    List.Nodup.sublist ((List.take_sublist _ _).map _) (nodup_cons_filter p hnd),
    List.length_take_le _ _⟩

theorem insert_eq_promote :
    let L := [pathWith "a", pathWith "b", pathWith "c"]
    let p := pathWith "b"
    insert L p 3 = some ((p :: L.filter (·.fingerprint != p.fingerprint)).take 3) ∧
      (((p :: L.filter (·.fingerprint != p.fingerprint)).take 3).map (·.fingerprint)).Nodup ∧
      ((p :: L.filter (·.fingerprint != p.fingerprint)).take 3).length ≤ 3 :=
  insert_eq _ _ 3 (by decide) (by decide) (by decide)

/-! ### The abstract cache -/

/-- Of a list of paths, most recent first, the latest path of every fingerprint, each fingerprint
once, in the order of their latest use. -/
def latestDistinct : List Path → List Path
  | [] => []
  | p :: rest => p :: (latestDistinct rest).filter (·.fingerprint != p.fingerprint)

theorem latestDistinct_sublist : ∀ l : List Path, (latestDistinct l).Sublist l
  | [] => List.nil_sublist _
  | p :: rest => ((List.filter_sublist _).trans (latestDistinct_sublist rest)).cons₂ p

theorem latestDistinct_nodup : ∀ l : List Path, ((latestDistinct l).map (·.fingerprint)).Nodup
  | [] => List.nodup_nil
  | p :: rest => nodup_cons_filter p (latestDistinct_nodup rest)

/-- Every fingerprint of the list is kept, by the first (latest) path that has it. -/
theorem latestDistinct_first : ∀ (l : List Path) (q : Path), q ∈ l →
    ∃ p ∈ latestDistinct l, p.fingerprint = q.fingerprint ∧
      l.find? (·.fingerprint == q.fingerprint) = some p
  | p :: rest, q, hq => by
    by_cases hpq : p.fingerprint = q.fingerprint
    · exact ⟨p, List.mem_cons_self _ _, hpq, by simp [hpq]⟩
    · obtain ⟨r, hr, hrq, hfind⟩ :=
        latestDistinct_first rest q ((List.mem_cons.mp hq).resolve_left (by rintro rfl; simp at hpq))
      exact ⟨r, List.mem_cons_of_mem _ (List.mem_filter.mpr ⟨hr, by simp [hrq, Ne.symm hpq]⟩), hrq,
        by simp [hpq, hfind]⟩

/-- **What the abstract cache holds.** `latestDistinct l` is a sublist of `l` with distinct
fingerprints that keeps, for every fingerprint of `l`, the first path of `l` carrying it. -/
theorem latestDistinct_spec (l : List Path) :
    (latestDistinct l).Sublist l ∧ ((latestDistinct l).map (·.fingerprint)).Nodup ∧
      ∀ q ∈ l, ∃ p ∈ latestDistinct l, p.fingerprint = q.fingerprint ∧
        l.find? (·.fingerprint == q.fingerprint) = some p :=
  ⟨latestDistinct_sublist l, latestDistinct_nodup l, latestDistinct_first l⟩

/-- Dropping the entry with fingerprint `f` from the first `k + 1` entries of a list of distinct
fingerprints still leaves the first `k` entries of the list without it. -/
theorem take_filter_take {f : PathFingerprint} : ∀ {D : List Path} (k : Nat),
    (D.map (·.fingerprint)).Nodup →
      ((D.take (k + 1)).filter (·.fingerprint != f)).take k = (D.filter (·.fingerprint != f)).take k
  | [], _, _ => rfl
  | a :: t, k, hnd => by
    by_cases ha : a.fingerprint = f
    · subst ha
      have htk := filter_tail_of_nodup (List.Nodup.sublist ((List.take_sublist k t).cons₂ a |>.map _) hnd)
      simp [htk, filter_tail_of_nodup hnd, min_le_left]
    · cases k with
      | zero => simp
      | succ k => simp [ha, take_filter_take k (List.nodup_cons.mp hnd).2]

/-- **`insert` refines the abstract cache.** Inserting into the first `cap` entries of the abstract
cache of `l` gives the first `cap` entries of the abstract cache of `p :: l`. -/
theorem insert_latestDistinct (l : List Path) (p : Path) {cap : Nat} (hcap : 1 ≤ cap) :
    insert ((latestDistinct l).take cap) p cap = some ((latestDistinct (p :: l)).take cap) := by
  obtain ⟨k, rfl⟩ : ∃ k, cap = k + 1 := ⟨cap - 1, by omega⟩
  have hnd := List.Nodup.sublist ((List.take_sublist (k + 1) _).map _) (latestDistinct_nodup l)
  rw [insert_of_nodup p hcap hnd (List.length_take_le _ _), latestDistinct, List.take_succ_cons,
    List.take_succ_cons, take_filter_take k (latestDistinct_nodup l)]

end PathsMRU

/-! ## DefaultReplySelector -/

/-- `remoteEntry`: the paths a remote used, and when the last was recorded. -/
structure RemoteEntry where
  paths : PathsMRU
  seen : Nat
  deriving Inhabited

/-- `DefaultReplySelector`. `Record` takes its lock exclusively and `Path` shared, so each call is
one step. -/
structure DefaultReplySelector where
  remotes : UDPAddr → Option RemoteEntry

def NewDefaultReplySelector : DefaultReplySelector := ⟨fun _ => none⟩

/-- Records at a time, from a remote, over a path (`nil` is `none`), in the order they are made. -/
abbrev RecordHistory := List (Nat × UDPAddr × Option Path)

namespace DefaultReplySelector

variable (defaultSelectorMaxReplyPaths : Nat)

/-- `Path(remote)`: the front of the remote's list, nil when it has none. -/
def path (s : DefaultReplySelector) (remote : UDPAddr) : Option Path :=
  match s.remotes remote with
  | none => none
  | some r => r.paths[0]?

/-- `Record(remote, path)` at time `now`; a nil path is ignored. -/
def record (s : DefaultReplySelector) (now : Nat) (remote : UDPAddr) :
    Option Path → Option DefaultReplySelector
  | none => pure s
  | some path => do
    let r := (s.remotes remote).getD default
    let paths ← PathsMRU.insert r.paths path defaultSelectorMaxReplyPaths
    pure ⟨Function.update s.remotes remote (some { r with seen := now, paths })⟩

/-- `PathDown`: no failover, the cache is left as it is. -/
def pathDown (s : DefaultReplySelector) (_pf : PathFingerprint) (_pi : PathInterface) :
    DefaultReplySelector := s

def recordAll (s : DefaultReplySelector) : RecordHistory → Option DefaultReplySelector
  | [] => some s
  | (now, remote, path) :: rest =>
    (s.record defaultSelectorMaxReplyPaths now remote path).bind (·.recordAll rest)

/-- The paths in the entry of `remote`, none when it has no entry. -/
def entryPaths (s : DefaultReplySelector) (remote : UDPAddr) : List Path :=
  ((s.remotes remote).map (·.paths)).getD []

theorem path_eq_head (s : DefaultReplySelector) (remote : UDPAddr) :
    s.path remote = (s.entryPaths remote).head? := by
  unfold path entryPaths
  cases s.remotes remote <;> simp [List.head?_eq_getElem?]

/-- With room for one entry, `Record` never panics. -/
theorem record_some (hcap : 1 ≤ defaultSelectorMaxReplyPaths) (s : DefaultReplySelector)
    (now : Nat) (remote : UDPAddr) (p : Option Path) :
    ∃ s', s.record defaultSelectorMaxReplyPaths now remote p = some s' := by
  cases p with
  | none => exact ⟨s, rfl⟩
  | some path =>
    obtain ⟨l, hl⟩ := PathsMRU.insert_some ((s.remotes remote).getD default).paths path hcap
    simp [record, hl]

/-- After a `Record` of a path, replies to the remote go over that path. -/
theorem path_record {s s' : DefaultReplySelector} {now : Nat} {remote : UDPAddr} {p : Path}
    (hcap : 1 ≤ defaultSelectorMaxReplyPaths)
    (h : s.record defaultSelectorMaxReplyPaths now remote (some p) = some s') :
    s'.path remote = some p := by
  obtain ⟨rest, hl⟩ := PathsMRU.insert_some ((s.remotes remote).getD default).paths p hcap
  simp only [record, hl, Option.pure_def, Option.bind_eq_bind, Option.some_bind,
    Option.some.injEq] at h
  subst h
  simp [path]

/-- A `Record` for another remote, or of a nil path, leaves the entry of `R` as it was. -/
theorem record_other {s s' : DefaultReplySelector} {now : Nat} {remote R : UDPAddr}
    {p : Option Path} (h : s.record defaultSelectorMaxReplyPaths now remote p = some s')
    (hR : remote ≠ R ∨ p = none) : s'.remotes R = s.remotes R := by
  cases p with
  | none => cases h; rfl
  | some path =>
    simp only [record, Option.pure_def, Option.bind_eq_bind, Option.bind_eq_some,
      Option.some.injEq] at h
    obtain ⟨_, -, rfl⟩ := h
    simp only [reduceCtorEq, or_false] at hR
    exact Function.update_noteq (Ne.symm hR) _ _

/-- The non-nil paths recorded for `R` over a history, oldest first. -/
def recordedFor (R : UDPAddr) (hist : RecordHistory) : List Path :=
  hist.filterMap fun (_, remote, p) => if remote = R then p else none

@[simp] theorem recordedFor_nil (R : UDPAddr) : recordedFor R [] = [] := rfl

@[simp] theorem recordedFor_append_single (R : UDPAddr) (hist : RecordHistory) (now : Nat)
    (remote : UDPAddr) (p : Option Path) :
    recordedFor R (hist ++ [(now, remote, p)]) =
      recordedFor R hist ++ (if remote = R then p else none).toList := by
  simp only [recordedFor, List.filterMap_append]
  split <;> cases p <;> simp_all

/-- Every entry is the first `defaultSelectorMaxReplyPaths` of the abstract cache of the paths
recorded for its remote. -/
def Tracks (s : DefaultReplySelector) (hist : RecordHistory) : Prop :=
  ∀ R, s.entryPaths R =
    (PathsMRU.latestDistinct (recordedFor R hist).reverse).take defaultSelectorMaxReplyPaths

theorem tracks_new : Tracks defaultSelectorMaxReplyPaths NewDefaultReplySelector [] := fun _ => by
  simp [entryPaths, NewDefaultReplySelector, PathsMRU.latestDistinct]

/-- One `Record` keeps the cache in step with the history. -/
theorem record_tracks (hcap : 1 ≤ defaultSelectorMaxReplyPaths) {s : DefaultReplySelector}
    {hist : RecordHistory} (hs : Tracks defaultSelectorMaxReplyPaths s hist) (now : Nat)
    (remote : UDPAddr) (p : Option Path) :
    ∃ s', s.record defaultSelectorMaxReplyPaths now remote p = some s' ∧
      Tracks defaultSelectorMaxReplyPaths s' (hist ++ [(now, remote, p)]) := by
  cases p with
  | none => exact ⟨s, rfl, fun R => by simpa using hs R⟩
  | some path =>
    have hr : ((s.remotes remote).getD default).paths = (s.entryPaths remote) := by
      unfold entryPaths; cases s.remotes remote <;> rfl
    refine ⟨_, by simp only [record, hr, hs remote, PathsMRU.insert_latestDistinct _ path hcap]; rfl,
      fun R => ?_⟩
    by_cases hR : remote = R
    · subst hR
      simp [entryPaths, PathsMRU.latestDistinct]
    · simp [entryPaths, Function.update_noteq (Ne.symm hR), hR, ← hs R]

/-- Every run of `Record` calls succeeds and keeps the cache in step with the history. -/
theorem recordAll_tracks (hcap : 1 ≤ defaultSelectorMaxReplyPaths) :
    ∀ (hist : RecordHistory) {s : DefaultReplySelector} {hist₀ : RecordHistory},
      Tracks defaultSelectorMaxReplyPaths s hist₀ →
        ∃ s', s.recordAll defaultSelectorMaxReplyPaths hist = some s' ∧
          Tracks defaultSelectorMaxReplyPaths s' (hist₀ ++ hist)
  | [], s, _, hs => ⟨s, rfl, by simpa using hs⟩
  | (now, remote, p) :: rest, _, _, hs => by
    obtain ⟨t, ht, htr⟩ := record_tracks defaultSelectorMaxReplyPaths hcap hs now remote p
    obtain ⟨s', hs', h'⟩ := recordAll_tracks hcap rest htr
    exact ⟨s', by simp [recordAll, ht, hs'], by simpa using h'⟩

/-- `Path(R)` is the front of the abstract cache, the latest non-nil path recorded for `R`. -/
theorem path_of_tracks (hcap : 1 ≤ defaultSelectorMaxReplyPaths) {s : DefaultReplySelector}
    {hist : RecordHistory} (hs : Tracks defaultSelectorMaxReplyPaths s hist) (R : UDPAddr) :
    s.path R = (recordedFor R hist).getLast? := by
  rw [path_eq_head, hs R, List.head?_take, if_neg (by omega), ← List.head?_reverse]
  cases (recordedFor R hist).reverse <;> rfl

/-- **The reply cache over any history.** With `defaultSelectorMaxReplyPaths ≥ 1`, every history
of `Record` calls runs without panicking; afterwards the entry of every remote `R` is the first
`defaultSelectorMaxReplyPaths` of the latest path of each fingerprint recorded for `R`, most
recent first (`PathsMRU.latestDistinct_spec`), and `Path(R)` is the latest non-nil path recorded
for `R`. A `Record` for another remote or of a nil path leaves the entry of `R` unchanged. -/
theorem record_history (hcap : 1 ≤ defaultSelectorMaxReplyPaths) (hist : RecordHistory) :
    (∃ s, NewDefaultReplySelector.recordAll defaultSelectorMaxReplyPaths hist = some s ∧
      ∀ R, s.entryPaths R = (PathsMRU.latestDistinct (recordedFor R hist).reverse).take
          defaultSelectorMaxReplyPaths ∧
        s.path R = (recordedFor R hist).getLast?) ∧
    ∀ (s s' : DefaultReplySelector) now remote p R,
      s.record defaultSelectorMaxReplyPaths now remote p = some s' → (remote ≠ R ∨ p = none) →
        s'.remotes R = s.remotes R := by
  refine ⟨?_, fun _ _ _ _ _ _ h hR => record_other defaultSelectorMaxReplyPaths h hR⟩
  obtain ⟨s, hrun, hs⟩ := recordAll_tracks defaultSelectorMaxReplyPaths hcap hist
    (tracks_new defaultSelectorMaxReplyPaths)
  exact ⟨s, hrun, fun R => ⟨hs R, path_of_tracks defaultSelectorMaxReplyPaths hcap hs R⟩⟩

theorem record_history_two_remotes :
    let hist : RecordHistory :=
      [(0, ⟨1, 1, 1⟩, some (pathWith "x")), (1, ⟨2, 2, 2⟩, some (pathWith "y")),
        (2, ⟨1, 1, 1⟩, none), (3, ⟨1, 1, 1⟩, some (pathWith "z"))]
    1 ≤ 2 ∧ (∃ s, NewDefaultReplySelector.recordAll 2 hist = some s ∧
      ∀ R, s.entryPaths R =
          (PathsMRU.latestDistinct (recordedFor R hist).reverse).take 2 ∧
        s.path R = (recordedFor R hist).getLast?) ∧
    ∀ (s s' : DefaultReplySelector) now remote p R,
      s.record 2 now remote p = some s' → (remote ≠ R ∨ p = none) → s'.remotes R = s.remotes R :=
  ⟨by decide, record_history 2 (by decide) _⟩

end DefaultReplySelector

end ScionPan
