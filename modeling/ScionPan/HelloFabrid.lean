import ScionPan.Listen
import Mathlib.Algebra.Group.Nat.Basic

/-! # The hellofabrid example

hellofabrid.go holds two versions of the example, one after the other. In both, `runServer` listens
with `ListenUDPWithFabrid` and answers every packet it reads with `WriteTo` back to the sender,
until a read or a write returns an error. The second `runClient` dials the server with
`DialUDPWithFabrid` and sends `count` packets, waiting for a reply after each; every tenth packet
it first asks the FABRID client for the validation ratio `uint8(255 - 5*i)`. The first version
sets validation handlers instead, which the FABRID library calls on every validation outcome.

The server stops for lack of a path to a client only at a packet from a client none of whose
packets so far came over a path that reverses (`server_no_path_only_to_pathless_remote`). The
second client's ratios are a prefix of `255, 205, …, 5, 211, …`: they decrease over the first sixty
packets and wrap around at the sixty-first (`client_ratios_wrap`). The first client's handler
doubles a path's ratio on each failed validation, up to `255`, and neither handler returns an
error (`validation_ratio_doubles_to_cap`). -/

namespace ScionPan

/-! ## `runServer` -/

section

variable {Ident Fab Ctrl Ext : Type} (env : FabridEnv Ident Fab Ctrl Ext)
  (defaultSelectorMaxReplyPaths : Nat)

/-- `runServer`'s loop on a `fabridListenConn`, over what reaches the connection in turn: a read is
`ReadFrom` and then `WriteTo` of the answer back to the sender, and the first error either
returns ends the loop (`some (some e)`); down notifications reach the selector in between.
`some none` when the loop is still reading once the events run out, `none` on a fault. -/
def runServer (writeMsg : UDPAddr → UDPAddr → Option Path → Option String) (localAddr : UDPAddr) :
    DefaultReplySelector → List ListenEvent → Option (Option WriteToError)
  | _, [] => some none
  | sel, .pathDown pf pi :: es => runServer writeMsg localAddr (sel.pathDown pf pi) es
  | sel, .read now msg :: es => do
    let ((_, src, _, err), sel) ←
      fabridReadFromVia env defaultSelectorMaxReplyPaths now localAddr sel msg
    match err with
    | some e => pure (some (.conn e))
    | none =>
      match listenWriteTo writeMsg localAddr sel (.udp src) with
      | some e => pure (some e)
      | none => runServer writeMsg localAddr sel es

/-- From a cache in step with `hist`, the loop stops with `errNoPathTo` only at a packet from a
remote in another AS none of whose packets, in `hist` or read since, had a path that reverses. -/
theorem runServer_noPathTo (hcap : 1 ≤ defaultSelectorMaxReplyPaths)
    (writeMsg : UDPAddr → UDPAddr → Option Path → Option String) (localAddr : UDPAddr) {ia : IA} :
    ∀ (events : List ListenEvent) {sel : DefaultReplySelector} {hist : RecordHistory},
      DefaultReplySelector.Tracks defaultSelectorMaxReplyPaths sel hist →
      runServer env defaultSelectorMaxReplyPaths writeMsg localAddr sel events =
        some (some (.conn (.noPathTo ia))) →
      ∃ pre now pkt rest, events = pre ++ .read now (.ok pkt) :: rest ∧ pkt.remote.ia = ia ∧
        localAddr.ia ≠ ia ∧ DefaultReplySelector.recordedFor pkt.remote
          (hist ++ (pre ++ [.read now (.ok pkt)]).flatMap (·.records env localAddr)) = []
  | [], _, _, _, h => by cases h
  | .pathDown pf pi :: es, _, _, hs, h => by
    obtain ⟨pre, now, pkt, rest, rfl, hia, hloc, hrec⟩ :=
      runServer_noPathTo hcap writeMsg localAddr es hs h
    exact ⟨.pathDown pf pi :: pre, now, pkt, rest, rfl, hia, hloc,
      by simpa [ListenEvent.records] using hrec⟩
  | .read now msg :: es, sel, hist, hs, h => by
    simp only [runServer, Option.bind_eq_bind, Option.bind_eq_some] at h
    obtain ⟨⟨⟨n, src, path, err⟩, sel'⟩, hread, h⟩ := h
    have hstep : (ListenEvent.read now msg).step env defaultSelectorMaxReplyPaths .fabrid
        localAddr sel = some sel' := by
      rw [ListenEvent.step, ListenKind.readFromVia, hread]; rfl
    have hs' := ListenEvent.step_tracks env _ hcap hs hstep
    cases msg with
    | error ne => cases hread; simp at h
    | ok pkt =>
      obtain ⟨hsrc, hno⟩ := fabridReadFromVia_sender env _ hread
      -- the run stops at this packet when its sender has no path
      have here : sel'.path pkt.remote = none → pkt.remote.ia = ia → localAddr.ia ≠ ia →
          ∃ pre now' pkt' rest, .read now (.ok pkt) :: es = pre ++ .read now' (.ok pkt') :: rest ∧
            pkt'.remote.ia = ia ∧ localAddr.ia ≠ ia ∧ DefaultReplySelector.recordedFor pkt'.remote
              (hist ++ (pre ++ [.read now' (.ok pkt')]).flatMap (·.records env localAddr)) = [] :=
        fun hp hia hloc => ⟨[], now, pkt, es, rfl, hia, hloc, by
          rw [DefaultReplySelector.path_of_tracks _ hcap hs', List.getLast?_eq_none_iff] at hp
          simpa using hp⟩
      cases err with
      | some e =>
        simp only [Option.pure_def, Option.some.injEq, WriteToError.conn.injEq] at h
        subst h
        obtain ⟨rfl, hloc, hp⟩ := hno ia rfl
        exact here hp rfl hloc
      | none =>
        obtain rfl : src = pkt.remote := hsrc rfl
        dsimp only at h
        split at h
        · simp only [Option.pure_def, Option.some.injEq] at h
          subst h
          obtain ⟨rfl, hloc, hp⟩ := listenWriteTo_noPathTo ‹_›
          exact here hp rfl hloc
        · obtain ⟨pre, now', pkt', rest, rfl, hia, hloc, hrec⟩ :=
            runServer_noPathTo hcap writeMsg localAddr es hs' h
          exact ⟨.read now (.ok pkt) :: pre, now', pkt', rest, rfl, hia, hloc,
            by simpa [List.append_assoc] using hrec⟩

/-- **The echo server keeps answering.** Over every run of reads and down notifications, with
room for one reply path, `runServer` stops with `errNoPathTo` only at a packet from a remote in
another AS none of whose packets so far, this one included, had a path that reverses to a
non-nil path: once a remote's packet came over a path that reverses, the server can always answer
it. -/
theorem server_no_path_only_to_pathless_remote
    (writeMsg : UDPAddr → UDPAddr → Option Path → Option String)
    (hcap : 1 ≤ defaultSelectorMaxReplyPaths) (localAddr : UDPAddr) (events : List ListenEvent)
    (ia : IA) (h : runServer env defaultSelectorMaxReplyPaths writeMsg localAddr
      NewDefaultReplySelector events = some (some (.conn (.noPathTo ia)))) :
    ∃ pre now pkt rest, events = pre ++ .read now (.ok pkt) :: rest ∧ pkt.remote.ia = ia ∧
      localAddr.ia ≠ ia ∧ DefaultReplySelector.recordedFor pkt.remote
        ((pre ++ [.read now (.ok pkt)]).flatMap (·.records env localAddr)) = [] := by
  simpa using runServer_noPathTo env _ hcap writeMsg localAddr events
    (DefaultReplySelector.tracks_new _) h

end

theorem server_no_path_only_to_pathless_remote_nil :
    runServer nilPathEnv 1 (fun _ _ _ => none) ⟨2, 0, 0⟩ NewDefaultReplySelector
        [.read 0 (.ok ⟨3, ⟨1, 1, 1⟩, ⟨.empty, 0⟩, none, none⟩)] = some (some (.conn (.noPathTo 1))) ∧
      ∃ pre now pkt rest,
        [ListenEvent.read 0 (.ok ⟨3, ⟨1, 1, 1⟩, ⟨.empty, 0⟩, none, none⟩)] =
          pre ++ .read now (.ok pkt) :: rest ∧ pkt.remote.ia = 1 ∧ (2 : IA) ≠ 1 ∧
        DefaultReplySelector.recordedFor pkt.remote
          ((pre ++ [.read now (.ok pkt)]).flatMap (·.records nilPathEnv ⟨2, 0, 0⟩)) = [] :=
  have h : runServer nilPathEnv 1 (fun _ _ _ => none) ⟨2, 0, 0⟩ NewDefaultReplySelector
      [.read 0 (.ok ⟨3, ⟨1, 1, 1⟩, ⟨.empty, 0⟩, none, none⟩)] =
        some (some (.conn (.noPathTo 1))) := rfl
  ⟨h, server_no_path_only_to_pathless_remote nilPathEnv 1 _ le_rfl _ _ 1 h⟩

/-! ## `runClient` -/

/-- What `conn.Read` returns to the client, after `SetReadDeadline`: a reply, the deadline passed,
or another error (of `SetReadDeadline` or `Read`). -/
inductive ClientRead where
  | reply (n : Nat)
  | deadlineExceeded
  | error (e : String)
  deriving DecidableEq, Repr

/-- `uint8(255 - 5*i)`: Go converts the `int` to `uint8` modulo `2^8`. -/
def validationRatioAt (i : Nat) : UInt8 :=
  UInt8.ofNat ((255 - 5 * (i : Int)) % 256).toNat

/-- The validation ratios the loop asks for over the packets `i, i+1, …` while none returns. -/
def ratioSchedule (i count : Nat) : List UInt8 :=
  (List.range' i count).filterMap fun j => if j % 10 = 0 then some (validationRatioAt j) else none

/-- `runClient`'s loop from packet `i` on, with `fuel` packets left, over what each `Write` and
`Read` returns: the ratios it asks for, in order, and the error it returns. A passed deadline goes
on to the next packet; any other error returns. -/
def runClientLoop (write : Nat → Option String) (read : Nat → ClientRead) :
    Nat → Nat → List UInt8 × Option String
  | _, 0 => ([], none)
  | i, fuel + 1 =>
    let set := if i % 10 = 0 then [validationRatioAt i] else []
    match write i with
    | some e => (set, some e)
    | none =>
      match read i with
      | .error e => (set, some e)
      | _ =>
        let rest := runClientLoop write read (i + 1) fuel
        (set ++ rest.1, rest.2)

/-- `runClient(address, count)` once the connection is open. -/
def runClient (count : Nat) (write : Nat → Option String) (read : Nat → ClientRead) :
    List UInt8 × Option String :=
  runClientLoop write read 0 count

theorem ratioSchedule_succ (i count : Nat) :
    ratioSchedule i (count + 1) =
      (if i % 10 = 0 then [validationRatioAt i] else []) ++ ratioSchedule (i + 1) count := by
  by_cases hi : i % 10 = 0 <;> simp [ratioSchedule, List.range'_succ, hi]

/-- The loop asks for a prefix of the schedule, all of it when nothing returns an error. -/
theorem runClientLoop_asks_schedule (write : Nat → Option String) (read : Nat → ClientRead) :
    ∀ i fuel, (runClientLoop write read i fuel).1 <+: ratioSchedule i fuel ∧
      ((∀ j, write j = none) → (∀ j e, read j ≠ .error e) →
        (runClientLoop write read i fuel).1 = ratioSchedule i fuel)
  | _, 0 => ⟨List.prefix_refl _, fun _ _ => rfl⟩
  | i, fuel + 1 => by
    obtain ⟨ihp, ihe⟩ := runClientLoop_asks_schedule write read (i + 1) fuel
    rw [ratioSchedule_succ]
    simp only [runClientLoop]
    split
    · exact ⟨List.prefix_append _ _, fun h => absurd (h i) (by simp [*])⟩
    · split
      · exact ⟨List.prefix_append _ _, fun _ h => absurd ‹read i = _› (h i _)⟩
      · exact ⟨(List.prefix_append_right_inj _).mpr ihp, fun hw hr => by rw [ihe hw hr]⟩

theorem ratioSchedule_mono (count : Nat) {count' : Nat} (h : count ≤ count') :
    ratioSchedule 0 count <+: ratioSchedule 0 count' := by
  have hr := List.range'_append 0 count (count' - count) 1
  rw [Nat.zero_add, Nat.one_mul, Nat.sub_add_cancel h] at hr
  rw [ratioSchedule, ratioSchedule, ← hr, List.filterMap_append]
  exact List.prefix_append _ _

/-- **The client's validation ratios wrap around.** Whatever `Write` and `Read` return, the ratios
`runClient` asks for are the first ones of its schedule, all of them when no error returns. The
schedule of `count` packets strictly decreases exactly when `count ≤ 60`: the sixty-first packet
asks for `uint8(255 - 300) = 211`, after `5`. -/
theorem client_ratios_wrap (count : Nat) (write : Nat → Option String) (read : Nat → ClientRead) :
    (runClient count write read).1 <+: ratioSchedule 0 count ∧
    ((∀ j, write j = none) → (∀ j e, read j ≠ .error e) →
      (runClient count write read).1 = ratioSchedule 0 count) ∧
    ((ratioSchedule 0 count).Pairwise (· > ·) ↔ count ≤ 60) := by
  obtain ⟨hpre, hall⟩ := runClientLoop_asks_schedule write read 0 count
  refine ⟨hpre, hall, fun h => ?_, fun h => ?_⟩
  · by_contra hc
    exact absurd (h.sublist (ratioSchedule_mono 61 (by omega)).sublist) (by decide)
  · exact (show (ratioSchedule 0 60).Pairwise (· > ·) by decide).sublist
      (ratioSchedule_mono count h).sublist

theorem client_ratios_wrap_seventy :
    (runClient 70 (fun _ => none) (fun _ => .deadlineExceeded)).1 = ratioSchedule 0 70 ∧
      ¬ (ratioSchedule 0 70).Pairwise (· > ·) :=
  have h := client_ratios_wrap 70 (fun _ => none) (fun _ => .deadlineExceeded)
  ⟨h.2.1 (fun _ => rfl) (fun _ _ => nofun), fun hp => absurd (h.2.2.mp hp) (by decide)⟩

/-! ## The validation handlers

The first program of hellofabrid.go sets the handlers the FABRID library calls on every
validation outcome. The server's counts the connection's invalid packets. The client's also
doubles the path's validation ratio, in `uint16` and at most `255`, and asks the library to send
it. Both return an error only under `STRICT`, which is `false`. -/

/-- `STRICT`: whether a failed validation aborts the connection. -/
def STRICT : Bool := false

/-- The fields of the FABRID library's `PathState` that the client's handler writes: its
statistics' `InvalidPackets`, `ValidationRatio` and `UpdateValRatio`. -/
structure PathState where
  invalidPackets : Nat
  validationRatio : UInt8
  updateValRatio : Bool
  deriving DecidableEq, Repr

/-- The server's `ValidationHandler(connection, id, success)`: the connection's `InvalidPackets`
afterwards, and the error it returns. -/
def serverValidationHandler (invalidPackets : Nat) (success : Bool) : Nat × Option String :=
  if success then (invalidPackets, none)
  else (invalidPackets + 1, if STRICT then some "Aborting on failed validation" else none)

/-- The client's `ValidationHandler(pathState, fc, success)`: the path state afterwards, and the
error it returns. -/
def clientValidationHandler (pathState : PathState) (success : Bool) : PathState × Option String :=
  if success then (pathState, none)
  else
    let newValRatio : UInt16 := pathState.validationRatio.toUInt16 * 2
    let newValRatio := if newValRatio > 255 then 255 else newValRatio
    ({ pathState with
        invalidPackets := pathState.invalidPackets + 1
        validationRatio := newValRatio.toUInt8
        updateValRatio := true },
      if STRICT then some "Aborting on failed validation" else none)

/-- The client's handler on one path's validation outcomes in turn. -/
def clientValidations (pathState : PathState) (outcomes : List Bool) : PathState :=
  outcomes.foldl (fun ps success => (clientValidationHandler ps success).1) pathState

/-- `uint16(r) * 2` cannot overflow, so the cap at `255` is `min`. -/
theorem newValRatio_toNat (r : UInt8) :
    (if r.toUInt16 * 2 > 255 then 255 else r.toUInt16 * 2 : UInt16).toUInt8.toNat =
      min 255 (2 * r.toNat) := by
  have hr := r.toNat_lt_size
  simp only [UInt8.size] at hr
  have h2 : (r.toUInt16 * 2).toNat = 2 * r.toNat := by
    simp [UInt16.toNat, UInt16.mul_def, UInt8.toUInt16, BitVec.toNat_mul, Nat.toUInt16,
      UInt16.ofNat]
    omega
  have h8 (v : UInt16) : v.toUInt8.toNat = v.toNat % 256 := by
    simp [UInt16.toUInt8, Nat.toUInt8, UInt8.ofNat, UInt8.toNat, BitVec.toNat_ofNat]
  have hlt (v : UInt16) : 255 < v ↔ 255 < v.toNat := BitVec.lt_def
  split_ifs with h <;> rw [gt_iff_lt, hlt, h2] at h <;> rw [h8]
  · show 255 % 256 = _
    omega
  · rw [h2]
    omega

/-- One outcome: a success changes nothing, a failure counts the packet, doubles the ratio up to
`255` and sets `UpdateValRatio`; no error either way. -/
theorem clientValidationHandler_spec (ps : PathState) (success : Bool) :
    (clientValidationHandler ps success).2 = none ∧
    (clientValidationHandler ps success).1.validationRatio.toNat =
      (if success then ps.validationRatio.toNat else min 255 (2 * ps.validationRatio.toNat)) ∧
    (clientValidationHandler ps success).1.invalidPackets =
      ps.invalidPackets + (if success then 0 else 1) ∧
    (clientValidationHandler ps success).1.updateValRatio = (ps.updateValRatio || !success) := by
  cases success
  · exact ⟨rfl, newValRatio_toNat ps.validationRatio, rfl, (Bool.or_true _).symm⟩
  · exact ⟨rfl, rfl, rfl, (Bool.or_false _).symm⟩

/-- Capping before or after scaling by a positive factor gives the same capped value. -/
theorem min_cap_mul (a K : Nat) (hK : 0 < K) : min 255 (min 255 a * K) = min 255 (a * K) := by
  rcases le_total a 255 with h | h
  · rw [min_eq_right h]
  · have h1 : 255 ≤ 255 * K := Nat.le_mul_of_pos_right 255 hK
    have h2 : a ≤ a * K := Nat.le_mul_of_pos_right a hK
    rw [min_eq_left h]
    omega

/-- A run in closed form, by induction on the outcomes from `clientValidationHandler_spec`. -/
theorem clientValidations_spec :
    ∀ (outcomes : List Bool) (ps : PathState),
      (clientValidations ps outcomes).validationRatio.toNat =
        min 255 (ps.validationRatio.toNat * 2 ^ outcomes.count false) ∧
      (clientValidations ps outcomes).invalidPackets = ps.invalidPackets + outcomes.count false ∧
      ((clientValidations ps outcomes).updateValRatio = true ↔
        ps.updateValRatio = true ∨ false ∈ outcomes)
  | [], ps => by
    have hr := ps.validationRatio.toNat_lt_size
    simp only [UInt8.size] at hr
    simp [clientValidations]
    omega
  | success :: outcomes, ps => by
    obtain ⟨-, hratio, hinv, hupd⟩ := clientValidationHandler_spec ps success
    obtain ⟨ih1, ih2, ih3⟩ := clientValidations_spec outcomes (clientValidationHandler ps success).1
    simp only [clientValidations, List.foldl_cons] at ih1 ih2 ih3 ⊢
    refine ⟨?_, ?_, ?_⟩
    · rw [ih1, hratio]
      cases success
      · have hpow : ps.validationRatio.toNat * 2 ^ (outcomes.count false + 1) =
            2 * ps.validationRatio.toNat * 2 ^ outcomes.count false := by
          rw [Nat.pow_succ]; ac_rfl
        rw [List.count_cons_self, hpow, if_neg Bool.false_ne_true]
        exact min_cap_mul _ _ (Nat.two_pow_pos _)
      · simp
    · rw [ih2, hinv]
      cases success <;> simp [List.count_cons]
      omega
    · rw [ih3, hupd]
      cases success <;> simp

/-- **Failed validations double the client's ratio, up to `255`.** Neither handler ever returns an
error, `STRICT` being `false`. Over every sequence of one path's validation outcomes, the client's
handler leaves the path's validation ratio at `min(255, r · 2^k)` after `k` failures from the
ratio `r`: it never wraps around, and a ratio of `0` stays `0`. It counts each failure once, and
asks for the ratio to be sent once any validation failed. -/
theorem validation_ratio_doubles_to_cap (pathState : PathState) (outcomes : List Bool) :
    (∀ n success, (serverValidationHandler n success).2 = none) ∧
    (∀ ps success, (clientValidationHandler ps success).2 = none) ∧
    (clientValidations pathState outcomes).validationRatio.toNat =
      min 255 (pathState.validationRatio.toNat * 2 ^ outcomes.count false) ∧
    (clientValidations pathState outcomes).invalidPackets =
      pathState.invalidPackets + outcomes.count false ∧
    ((clientValidations pathState outcomes).updateValRatio = true ↔
      pathState.updateValRatio = true ∨ false ∈ outcomes) :=
  ⟨fun n success => by cases success <;> rfl,
    fun ps success => (clientValidationHandler_spec ps success).1,
    clientValidations_spec outcomes pathState⟩

theorem validation_ratio_doubles_to_cap_zero_and_saturated :
    (clientValidations ⟨0, 0, false⟩ [false, false, true, false]).validationRatio.toNat = 0 ∧
      (clientValidations ⟨0, 100, false⟩ [false, true, false]).validationRatio.toNat = 255 :=
  ⟨(validation_ratio_doubles_to_cap _ _).2.2.1.trans (by decide),
    (validation_ratio_doubles_to_cap _ _).2.2.1.trans (by decide)⟩

end ScionPan
