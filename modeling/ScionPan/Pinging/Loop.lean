import Mathlib.Data.List.Nodup
import ScionPan.Path

/-! # The probing loop of `PingingSelector`

`PingingSelector.run` (selector.go) is a `for`/`select` over four channels: the ticker opens a
round (it probes the first `numActive` candidates under a fresh `uint16` sequence number, marks
their fingerprints pending and re-arms the round timer), a reply from the pinger records the RTT
of a pending fingerprint, the timer's expiry records `Timeout` for every fingerprint still
pending, and the pinger context's `Done` ends the loop. One iteration is `PingLoop.step`.

`run` reads its selector without the lock; each event carries what it reads (`LoopView`).
The Go runtime's own move, the timer running out, is the event `expire`. Two ghost fields are
added to what the code keeps: the number of rounds opened so far, which every probe and sample
of the effect log is stamped with, and, on a reply, the round of the probe it answers.

Over every order of events (`Reach`), a round gets at most one sample per fingerprint, and a
fingerprint is sampled only while it is pending (`accounting_reach`). When each round is closed
before the next tick opens one, every fingerprint probed in a round gets exactly one sample of
that round (`closed_reach`). -/

namespace ScionPan

/-- The timer `pingTimeout`: stopped, counting down, or run out with its value waiting in `C`. -/
inductive TimerState where
  | stopped
  | armed
  | fired
  deriving DecidableEq, Repr

/-- `Timer.Stop`: a timer counting down is stopped; a value already in `C` stays there. -/
def TimerState.stop : TimerState → TimerState
  | .armed => .stopped
  | t => t

inductive LoopStatus where
  | running
  | exited
  /-- A panic in the loop's goroutine, which ends the program. -/
  | panicked
  deriving DecidableEq, Repr

/-- The errors of `ping.Reply.Error` that `handlePingReply` tells apart. -/
inductive PingError where
  | internalConnectivityDown (ia : IA) (ingress egress : IfID)
  | externalInterfaceDown (ia : IA) (iface : IfID)
  | other
  deriving DecidableEq, Repr

/-- `ping.Reply`, with what `handlePingReply` reads: the error, whether the source host is an IP
address, the source, the echoed sequence number, `reversePathFingerprint(reply.Path)` (`none` for
its error) and the RTT. `sentRound` is ghost: the round of the probe the reply answers. -/
structure PingReply where
  error : Option PingError
  sourceIsIP : Bool
  source : ScionAddr
  seqNumber : UInt16
  pathFingerprint : Option PathFingerprint
  rtt : Nat
  sentRound : Nat
  deriving DecidableEq, Repr

/-- The calls the loop makes: `pinger.Send` (stamped with the ghost round), `stats.RecordLatency`
(stamped with the round it is made in), `stats.NotifyPathDown` and `s.reselectPath`. -/
inductive PingEffect where
  | send (round : Nat) (seq : UInt16) (path : Path)
  | recordLatency (round : Nat) (remote : ScionAddr) (pf : PathFingerprint) (d : Nat)
  | notifyPathDown (pf : PathFingerprint) (pi : PathInterface)
  | reselectPath
  deriving DecidableEq, Repr

/-- The calls that touch no round: `NotifyPathDown` and `reselectPath`. -/
def PingEffect.quiet : PingEffect → Bool
  | .notifyPathDown _ _ | .reselectPath => true
  | _ => false

/-- A probe of fingerprint `f` in round `r`. -/
def PingEffect.probes (r : Nat) (f : PathFingerprint) : PingEffect → Bool
  | .send r' _ p => r' == r && p.fingerprint == f
  | _ => false

/-- A sample of fingerprint `f` recorded in round `r`. -/
def PingEffect.samples (r : Nat) (f : PathFingerprint) : PingEffect → Bool
  | .recordLatency r' _ pf _ => r' == r && pf == f
  | _ => false

theorem PingEffect.quiet_samples {e : PingEffect} (h : e.quiet = true) (r : Nat)
    (f : PathFingerprint) : e.samples r f = false ∧ e.probes r f = false := by
  cases e <;> simp_all [quiet, samples, probes]

/-- What `run` reads of its selector when it handles an event. -/
structure LoopView where
  paths : List Path
  numActive : Int
  remote : ScionAddr
  /-- `Close` ran `pingerCancel`: `Done` is ready and every `Send` fails. -/
  cancelled : Bool

/-- The cases of the `select`, and the runtime firing the timer. -/
inductive LoopEvent where
  /-- `pingTicker.C`, with whether `pinger.Send` fails on a path for a reason of its own. -/
  | tick (sendErr : Path → Bool)
  | reply (r : PingReply)
  /-- The round timer runs out: the runtime puts a value into `pingTimeout.C`. -/
  | expire
  | timeout
  | done

/-- The locals of `run`. -/
structure PingLoop where
  sequenceNo : UInt16
  /-- The set `replyPending`, each fingerprint once. -/
  replyPending : List PathFingerprint
  timer : TimerState
  status : LoopStatus
  /-- Ghost: the rounds opened so far; `sequenceNo` is this number modulo `2^16`. -/
  round : Nat
  deriving DecidableEq, Repr

namespace PingLoop

/-- `run` before its first event: the timer created with 0, stopped and drained. -/
def init : PingLoop := ⟨0, [], .stopped, .running, 0⟩

/-- `numActive`, cut to `len(s.paths)`. -/
def clampActive (numActive : Int) (len : Nat) : Int :=
  if numActive > len then len else numActive

/-- `replyPending[p.Fingerprint] = struct{}{}` for every active path. -/
def addPending (pending : List PathFingerprint) : List Path → List PathFingerprint
  | [] => pending
  | p :: ps => addPending (if p.fingerprint ∈ pending then pending else p.fingerprint :: pending) ps

/-- `sendPings`: one probe per path, in order; a failed `Send` panics (`none`). -/
def sendPings (round : Nat) (seq : UInt16) (fails : Path → Bool) :
    List Path → Option (List PingEffect)
  | [] => some []
  | p :: ps => if fails p then none else (sendPings round seq fails ps).map (.send round seq p :: ·)

/-- The ticker case of `run`. A send fails once the context is cancelled. -/
def tick (v : LoopView) (s : PingLoop) (sendErr : Path → Bool) : PingLoop × List PingEffect :=
  let numActive := clampActive v.numActive v.paths.length
  if numActive = 0 then (s, [])
  else match sliceTo? v.paths numActive with
    | none => ({ s with status := .panicked }, [])
    | some activePaths =>
      let sequenceNo := s.sequenceNo + 1
      match sendPings (s.round + 1) sequenceNo (fun p => v.cancelled || sendErr p) activePaths with
      | none => ({ s with status := .panicked }, [])
      | some sends =>
        ({ s with replyPending := addPending s.replyPending activePaths, sequenceNo,
                  round := s.round + 1, timer := .armed }, sends)

/-- `handlePingReply`: the pending set afterwards and the calls made. -/
def handlePingReply (remote : ScionAddr) (round : Nat) (reply : PingReply)
    (expectedReplies : List PathFingerprint) (expectedSequenceNo : UInt16) :
    List PathFingerprint × List PingEffect :=
  match reply.error with
  | some e =>
    match reply.pathFingerprint, e with
    | some pf, .internalConnectivityDown ia _ egress => (expectedReplies, [.notifyPathDown pf ⟨ia, egress⟩])
    | some pf, .externalInterfaceDown ia iface => (expectedReplies, [.notifyPathDown pf ⟨ia, iface⟩])
    | _, _ => (expectedReplies, [])
  | none =>
    if !reply.sourceIsIP || reply.source != remote || reply.seqNumber != expectedSequenceNo then
      (expectedReplies, [])
    else match reply.pathFingerprint with
      | some pf =>
        if pf ∈ expectedReplies then
          (expectedReplies.erase pf, [.recordLatency round remote pf reply.rtt])
        else (expectedReplies, [])
      | none => (expectedReplies, [])

variable (Timeout : Nat)

/-- One iteration of `run`'s loop, or the timer running out; `none` when the event cannot happen
(the loop has ended, or the channel has nothing to receive). -/
def step (v : LoopView) (s : PingLoop) : LoopEvent → Option (PingLoop × List PingEffect)
  | .tick sendErr => if s.status = .running then some (tick v s sendErr) else none
  | .reply r =>
    if s.status = .running then
      let (pending, effs) := handlePingReply v.remote s.round r s.replyPending s.sequenceNo
      if pending = [] then
        some ({ s with replyPending := pending, timer := s.timer.stop }, effs ++ [.reselectPath])
      else some ({ s with replyPending := pending }, effs)
    else none
  | .expire => if s.timer = .armed then some ({ s with timer := .fired }, []) else none
  | .timeout =>
    if s.status = .running ∧ s.timer = .fired then
      if s.replyPending = [] then some ({ s with timer := .stopped }, [])
      else some ({ s with replyPending := [], timer := .stopped },
        s.replyPending.map (.recordLatency s.round v.remote · Timeout) ++ [.reselectPath])
    else none
  | .done => if s.status = .running ∧ v.cancelled then some ({ s with status := .exited }, []) else none

/-! ## What one event does -/

theorem mem_addPending {pending : List PathFingerprint} {f : PathFingerprint} :
    ∀ {ps : List Path}, f ∈ addPending pending ps ↔ f ∈ pending ∨ ∃ p ∈ ps, p.fingerprint = f
  | [] => by simp [addPending]
  | p :: ps => by
    rw [addPending, mem_addPending]
    simp only [List.mem_cons (b := p), or_and_right, exists_or, exists_eq_left]
    split_ifs with h
    · constructor
      · exact Or.imp_right Or.inr
      · rintro (hf | rfl | hq)
        · exact .inl hf
        · exact .inl h
        · exact .inr hq
    · simp only [List.mem_cons, eq_comm (a := f), or_assoc, or_left_comm]

theorem nodup_addPending : ∀ {pending : List PathFingerprint} {ps : List Path},
    pending.Nodup → (addPending pending ps).Nodup
  | _, [], h => h
  | pending, p :: ps, h => by
    rw [addPending]
    split_ifs with hp
    · exact nodup_addPending h
    · exact nodup_addPending (List.nodup_cons.mpr ⟨hp, h⟩)

theorem sendPings_eq (round : Nat) (seq : UInt16) (fails : Path → Bool) :
    ∀ ps : List Path, sendPings round seq fails ps =
      if ps.all (fun p => !fails p) then some (ps.map (.send round seq ·)) else none
  | [] => rfl
  | p :: ps => by
    rw [sendPings, sendPings_eq round seq fails ps]
    by_cases hp : fails p <;> by_cases hall : ps.all (fun p => !fails p) <;> simp [hp, hall]

/-- `handlePingReply` either changes nothing that counts, or samples one pending fingerprint: a
reply without error from the remote, with the current sequence number, on a pending path. -/
theorem handlePingReply_cases (remote : ScionAddr) (round : Nat) (reply : PingReply)
    (pending : List PathFingerprint) (seq : UInt16) :
    ((handlePingReply remote round reply pending seq).1 = pending ∧
      ∀ e ∈ (handlePingReply remote round reply pending seq).2, e.quiet = true) ∨
    ∃ f, reply.error = none ∧ reply.sourceIsIP = true ∧ reply.source = remote ∧
      reply.seqNumber = seq ∧ reply.pathFingerprint = some f ∧ f ∈ pending ∧
      handlePingReply remote round reply pending seq =
        (pending.erase f, [.recordLatency round remote f reply.rtt]) := by
  rcases reply with ⟨err, ip, src, sq, pf, rtt, sr⟩
  cases err with
  | some e => left; cases pf <;> cases e <;> simp [handlePingReply, PingEffect.quiet]
  | none =>
    by_cases hc : (!ip || src != remote || sq != seq) = true
    · left; simp [handlePingReply, hc]
    · simp only [Bool.or_eq_true, Bool.not_eq_true', bne_iff_ne, ne_eq, not_or, Bool.not_eq_false,
        not_not] at hc
      obtain ⟨⟨hip, hsrc⟩, hsq⟩ := hc
      subst hip hsrc hsq
      cases pf with
      | none => left; simp [handlePingReply]
      | some f =>
        by_cases hf : f ∈ pending
        · right; exact ⟨f, rfl, rfl, rfl, rfl, rfl, hf, by simp [handlePingReply, hf]⟩
        · left; simp [handlePingReply, hf]

/-- A tick that finds candidates to probe. -/
def OpensRound (v : LoopView) : LoopEvent → Prop
  | .tick _ => clampActive v.numActive v.paths.length ≠ 0
  | _ => False

/-- A step that opens round `s.round + 1` by probing `active`. -/
structure Opens (s s' : PingLoop) (effs : List PingEffect) (active : List Path) : Prop where
  pending : s'.replyPending = addPending s.replyPending active
  round : s'.round = s.round + 1
  seq : s'.sequenceNo = s.sequenceNo + 1
  timer : s'.timer = .armed
  effs : effs = active.map (.send (s.round + 1) (s.sequenceNo + 1) ·)

/-- A step that opens no round: it records one sample of the current round for each fingerprint
it takes out of the pending set, and calls nothing else that counts. -/
structure Closes (s s' : PingLoop) (effs : List PingEffect) : Prop where
  round : s'.round = s.round
  seq : s'.sequenceNo = s.sequenceNo
  pending : s'.replyPending.Sublist s.replyPending
  no_probes : ∀ r f, effs.any (·.probes r f) = false
  samples : ∀ r f, effs.countP (·.samples r f) =
    if r = s.round ∧ f ∈ s.replyPending ∧ f ∉ s'.replyPending then 1 else 0
  timer : s'.replyPending ≠ [] → s.timer ≠ .stopped → s'.timer ≠ .stopped

/-- A step that takes the fingerprints `gone` out of the pending set, records one sample of the
current round for each, and makes only quiet calls besides. -/
theorem Closes.of_record {s s' : PingLoop} {effs : List PingEffect} (gone : List PathFingerprint)
    (remote : ScionAddr) (d : Nat) (rest : List PingEffect) (hnd : gone.Nodup)
    (hsub : ∀ f ∈ gone, f ∈ s.replyPending) (hr : s'.round = s.round)
    (hseq : s'.sequenceNo = s.sequenceNo) (hp : s'.replyPending = s.replyPending.filter (· ∉ gone))
    (he : effs = gone.map (.recordLatency s.round remote · d) ++ rest)
    (hq : ∀ e ∈ rest, e.quiet = true)
    (ht : s'.replyPending ≠ [] → s.timer ≠ .stopped → s'.timer ≠ .stopped) : Closes s s' effs where
  round := hr
  seq := hseq
  pending := hp ▸ List.filter_sublist _
  no_probes r f := by
    subst he
    refine List.any_eq_false.mpr fun e he => ?_
    rcases List.mem_append.mp he with he | he
    · obtain ⟨pf, -, rfl⟩ := List.mem_map.mp he
      simp [PingEffect.probes]
    · simp [(PingEffect.quiet_samples (hq e he) r f).2]
  samples r f := by
    subst he
    have hrest : rest.countP (·.samples r f) = 0 := List.countP_eq_zero.mpr fun e he => by
      simp [(PingEffect.quiet_samples (hq e he) r f).1]
    rw [List.countP_append, hrest, List.countP_map, hp]
    by_cases hrr : r = s.round
    · subst hrr
      have hc : gone.countP (· == f) = if f ∈ gone then 1 else 0 := List.count_eq_of_nodup hnd
      simp only [Function.comp_def, PingEffect.samples, beq_self_eq_true, Bool.true_and, hc]
      by_cases hg : f ∈ gone <;> simp [hg, hsub f]
    · simp [Function.comp_def, PingEffect.samples, Ne.symm hrr, hrr]
  timer := ht

/-- A step that keeps the pending set and the round and makes only quiet calls. -/
theorem Closes.of_quiet {s s' : PingLoop} {effs : List PingEffect} (hr : s'.round = s.round)
    (hseq : s'.sequenceNo = s.sequenceNo) (hp : s'.replyPending = s.replyPending)
    (hq : ∀ e ∈ effs, e.quiet = true)
    (ht : s'.replyPending ≠ [] → s.timer ≠ .stopped → s'.timer ≠ .stopped) : Closes s s' effs :=
  .of_record [] default 0 effs List.nodup_nil (by simp) hr hseq (by simp [hp]) (by simp) hq ht

/-- **What one event does.** Every event either opens a round, probing the first active
candidates, or opens none and records one sample for each fingerprint it takes out of the
pending set. -/
theorem step_cases {v : LoopView} {s s' : PingLoop} {e : LoopEvent} {effs : List PingEffect}
    (hnd : s.replyPending.Nodup) (h : step Timeout v s e = some (s', effs)) :
    (OpensRound v e ∧ ∃ active, Opens s s' effs active) ∨ Closes s s' effs := by
  cases e with
  | tick sendErr =>
    simp only [step, tick] at h
    split_ifs at h with hrun hk
    · cases h; exact .inr (.of_quiet rfl rfl rfl (by simp) fun _ ht => ht)
    · split at h
      · cases h; exact .inr (.of_quiet rfl rfl rfl (by simp) fun _ ht => ht)
      · rename_i active _
        split at h
        · cases h; exact .inr (.of_quiet rfl rfl rfl (by simp) fun _ ht => ht)
        · rename_i sends hs
          cases h
          rw [sendPings_eq] at hs
          split_ifs at hs
          cases hs
          exact .inl ⟨hk, active, ⟨rfl, rfl, rfl, rfl, rfl⟩⟩
  | reply r =>
    simp only [step] at h
    rcases handlePingReply_cases v.remote s.round r s.replyPending s.sequenceNo with
      ⟨hp, hq⟩ | ⟨f, -, -, -, -, -, hf, heq⟩
    · generalize handlePingReply v.remote s.round r s.replyPending s.sequenceNo = res at h hp hq
      obtain ⟨pending', effs'⟩ := res
      dsimp only at hp hq h
      subst hp
      right
      split_ifs at h with hrun hnil <;> cases h
      · refine .of_quiet rfl rfl rfl (fun e he => ?_) fun h' => absurd hnil h'
        rcases List.mem_append.mp he with he | he
        · exact hq e he
        · rw [List.mem_singleton.mp he]; rfl
      · exact .of_quiet rfl rfl rfl hq fun _ ht => ht
    · have hp : s.replyPending.erase f = s.replyPending.filter (· ∉ [f]) := by
        rw [hnd.erase_eq_filter]
        exact List.filter_congr fun x _ => by by_cases hx : x = f <;> simp [hx]
      rw [heq] at h
      dsimp only at h
      right
      split_ifs at h with hrun hnil <;> cases h
      · exact .of_record [f] v.remote r.rtt [.reselectPath] (List.nodup_singleton f)
          (by simpa using hf) rfl rfl hp rfl (by simp [PingEffect.quiet]) fun h' => absurd hnil h'
      · exact .of_record [f] v.remote r.rtt [] (List.nodup_singleton f) (by simpa using hf) rfl rfl
          hp rfl (by simp) fun _ ht => ht
  | expire =>
    simp only [step] at h
    split_ifs at h with ha
    cases h
    exact .inr (.of_quiet rfl rfl rfl (by simp) fun _ _ => by simp)
  | timeout =>
    simp only [step] at h
    split_ifs at h with hf hnil <;> cases h
    · exact .inr (.of_quiet rfl rfl rfl (by simp) fun h' => absurd hnil h')
    · exact .inr (.of_record _ v.remote Timeout [.reselectPath] hnd (fun _ h => h) rfl rfl (by simp)
        rfl (by simp [PingEffect.quiet]) fun h' => absurd rfl h')
  | done =>
    simp only [step] at h
    split_ifs at h with hd
    cases h
    exact .inr (.of_quiet rfl rfl rfl (by simp) fun _ ht => ht)

/-! ## Ticks -/

theorem clampActive_of_nonneg {numActive : Int} (len : Nat) (hn : 0 ≤ numActive) :
    clampActive numActive len = ((min numActive.toNat len : Nat) : Int) := by
  unfold clampActive
  split_ifs <;> omega

/-- **A tick probes the first `min(numActive, len(paths))` candidates.** With a non-negative
active count and no failing send, the tick sends one probe to each of them, in order, under the
next sequence number, and nothing else. -/
theorem tick_probes (v : LoopView) (s : PingLoop) (sendErr : Path → Bool)
    (hrun : s.status = .running) (hn : 0 ≤ v.numActive) (hc : v.cancelled = false)
    (hok : ∀ p ∈ v.paths, sendErr p = false) :
    ∃ s', step Timeout v s (.tick sendErr) = some (s',
      (v.paths.take (min v.numActive.toNat v.paths.length)).map
        (.send (s.round + 1) (s.sequenceNo + 1) ·)) := by
  simp only [step, hrun, if_true, tick, clampActive_of_nonneg _ hn]
  split_ifs with hk
  · exact ⟨s, by simp [show min v.numActive.toNat v.paths.length = 0 by omega]⟩
  · have hsend : ((v.paths.take (min v.numActive.toNat v.paths.length)).all
        fun p => !(v.cancelled || sendErr p)) = true :=
      List.all_eq_true.mpr fun p hp => by simp [hc, hok p (List.mem_of_mem_take hp)]
    simp only [sliceTo?, Int.toNat_ofNat, sendPings_eq]
    rw [if_pos (by omega)]
    simp only [hsend, if_true]
    exact ⟨_, rfl⟩

theorem tick_probes_two_of_three :
    ∃ s', step 5 ⟨[pathWith "a", pathWith "b", pathWith "c"], 2, default, false⟩ init
      (.tick fun _ => false) = some (s', [.send 1 1 (pathWith "a"), .send 1 1 (pathWith "b")]) :=
  tick_probes 5 _ init _ rfl (by decide) rfl fun _ _ => rfl

/-- **A tick panics on a negative active count, and on a failing send.** `s.paths[:numActive]`
panics for `numActive < 0`, and `sendPings` panics when `Send` fails, as it does on every send
once `Close` cancelled the pinger's context. -/
theorem probe_tick_panics :
    (∀ v s sendErr, s.status = .running → v.numActive < 0 →
      step Timeout v s (.tick sendErr) = some ({ s with status := .panicked }, [])) ∧
    (∀ v s sendErr, s.status = .running → 0 < v.numActive →
      (∃ p ∈ v.paths.take v.numActive.toNat, (v.cancelled || sendErr p) = true) →
      step Timeout v s (.tick sendErr) = some ({ s with status := .panicked }, [])) := by
  constructor
  · intro v s sendErr hrun hn
    have hk : clampActive v.numActive v.paths.length = v.numActive := by
      unfold clampActive; split_ifs <;> omega
    simp only [step, hrun, if_true, tick, hk, sliceTo?]
    rw [if_neg (by omega), if_neg (by omega)]
  · rintro v s sendErr hrun hn ⟨p, hp, hfail⟩
    have hlen : 0 < v.paths.length := List.length_pos_of_mem (List.mem_of_mem_take hp)
    have hk := clampActive_of_nonneg v.paths.length hn.le
    have htake : v.paths.take (min v.numActive.toNat v.paths.length) =
        v.paths.take v.numActive.toNat := by
      rw [List.take_eq_take]; simp
    have hall : ((v.paths.take v.numActive.toNat).all fun p => !(v.cancelled || sendErr p)) =
        false := by
      rw [Bool.eq_false_iff]
      intro h
      have h2 := List.all_eq_true.mp h p hp
      simp only [hfail, Bool.not_true, Bool.false_eq_true] at h2
    simp only [step, hrun, if_true, tick, hk, sliceTo?, Int.toNat_ofNat, sendPings_eq]
    rw [if_neg (by omega), if_pos (by omega), htake]
    simp only [hall, Bool.false_eq_true, if_false]

theorem probe_tick_panics_after_close :
    step 5 ⟨[pathWith "a"], 1, default, true⟩ init (.tick fun _ => false) =
      some ({ init with status := .panicked }, []) :=
  (probe_tick_panics 5).2 _ _ _ rfl (by decide) ⟨pathWith "a", by simp, rfl⟩

/-! ## Probes once the context is cancelled -/

/-- A tick on a cancelled context sends nothing: its first `Send` fails. -/
theorem tick_cancelled {v : LoopView} (hc : v.cancelled = true) (s : PingLoop)
    (sendErr : Path → Bool) : (tick v s sendErr).2 = [] := by
  dsimp only [tick]
  split_ifs
  · rfl
  · split
    · rfl
    · rename_i active _
      cases active <;> simp [sendPings, hc]

theorem send_not_mem_handlePingReply (remote : ScionAddr) (round : Nat) (reply : PingReply)
    (pending : List PathFingerprint) (seq : UInt16) (r : Nat) (sq : UInt16) (p : Path) :
    PingEffect.send r sq p ∉ (handlePingReply remote round reply pending seq).2 := fun hp => by
  rcases handlePingReply_cases remote round reply pending seq with
    ⟨-, hq⟩ | ⟨f, -, -, -, -, -, -, heq⟩
  · exact absurd (hq _ hp) (by simp [PingEffect.quiet])
  · rw [heq] at hp
    simp at hp

/-- Only a tick sends a probe, and only while the pinger's context is not cancelled. -/
theorem send_of_step {v : LoopView} {s s' : PingLoop} {e : LoopEvent} {effs : List PingEffect}
    (h : step Timeout v s e = some (s', effs)) {r : Nat} {sq : UInt16} {p : Path}
    (hp : .send r sq p ∈ effs) : v.cancelled = false := by
  cases hc : v.cancelled
  · rfl
  exfalso
  cases e with
  | tick sendErr =>
    simp only [step] at h
    split_ifs at h
    rw [show effs = (tick v s sendErr).2 by rw [Option.some.inj h], tick_cancelled hc] at hp
    cases hp
  | reply rep =>
    simp only [step] at h
    have hno := send_not_mem_handlePingReply v.remote s.round rep s.replyPending s.sequenceNo r sq p
    generalize handlePingReply v.remote s.round rep s.replyPending s.sequenceNo = res at h hno
    obtain ⟨pending', effs'⟩ := res
    dsimp only at h hno
    split_ifs at h <;> cases h
    · simp [hno] at hp
    · exact hno hp
  | timeout =>
    simp only [step] at h
    split_ifs at h <;> cases h
    · cases hp
    · simp at hp
  | expire | done =>
    simp only [step] at h
    split_ifs at h
    cases h
    cases hp

end PingLoop

end ScionPan
