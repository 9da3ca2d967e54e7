import ScionPan.Pinging.Loop

/-! # Probing rounds: what every order of events gives, and what it does not

`Reach ok` is the set of states and effect logs `run` reaches from its start over events that
`ok` allows; `anyOrder` allows all of them. Over every order (`accounting_reach`) the sequence
number is the round modulo `2^16`, a pending fingerprint always has a round timer that can still
fire, no fingerprint is sampled twice in one round, and a sample is only ever recorded for a
fingerprint some round probed. When every tick that probes finds the previous round closed
(`RoundsSeparate`), each fingerprint probed in a round gets exactly one sample of that round by
the time the next round opens (`closed_reach`). No round need stay open: from every state a run
reaches, the timer's events close the pending round (`pending_round_closes`).

`probe_rounds_accounted` collects these with where a sample's value comes from.
`probe_rounds_merge_or_alias` shows the two ways the stronger per-probe law fails: a tick taken
before the previous round's expiry merges the two rounds, and a reply to a probe `2^16` rounds old
carries the current sequence number. -/

namespace ScionPan

theorem uint16_toNat_add_one (a : UInt16) : (a + 1).toNat = (a.toNat + 1) % 65536 := by
  simp [UInt16.add_def, UInt16.toNat, BitVec.toNat_add]

theorem uint16_toNat_ofNat (n : Nat) : (UInt16.ofNat n).toNat = n % 65536 := by
  simp [UInt16.ofNat, UInt16.toNat, BitVec.toNat_ofNat]

theorem uint16_ofNat_succ (n : Nat) : UInt16.ofNat n + 1 = UInt16.ofNat (n + 1) :=
  UInt16.toNat.inj (by rw [uint16_toNat_add_one, uint16_toNat_ofNat, uint16_toNat_ofNat]; omega)

namespace PingLoop

variable (Timeout : Nat)

/-- The states and effect logs `run` reaches from its start over events that `ok` allows. -/
inductive Reach (ok : PingLoop → LoopView → LoopEvent → Prop) : PingLoop → List PingEffect → Prop
  | init : Reach ok init []
  | step {s : PingLoop} {log : List PingEffect} {v : LoopView} {e : LoopEvent} {s' : PingLoop}
      {effs : List PingEffect} : Reach ok s log → ok s v e → step Timeout v s e = some (s', effs) →
      Reach ok s' (log ++ effs)

/-- Every event may happen whenever its channel is ready. -/
def anyOrder (_s : PingLoop) (_v : LoopView) (_e : LoopEvent) : Prop := True

/-- The round accounting that holds over every order of events. -/
structure Accounting (s : PingLoop) (log : List PingEffect) : Prop where
  seq_eq : s.sequenceNo = UInt16.ofNat s.round
  nodup : s.replyPending.Nodup
  armed : s.replyPending ≠ [] → s.timer ≠ .stopped
  pending_unsampled : ∀ f ∈ s.replyPending, log.countP (·.samples s.round f) = 0
  future_unsampled : ∀ r f, s.round < r → log.countP (·.samples r f) = 0
  at_most_one : ∀ r f, log.countP (·.samples r f) ≤ 1
  sampled_probed : ∀ r f, 0 < log.countP (·.samples r f) → ∃ r' ≤ r, log.any (·.probes r' f)
  pending_probed : ∀ f ∈ s.replyPending, ∃ r ≤ s.round, log.any (·.probes r f)

theorem accounting_init : Accounting init [] where
  seq_eq := rfl
  nodup := List.nodup_nil
  armed h := absurd rfl h
  pending_unsampled _ h := absurd h (List.not_mem_nil _)
  future_unsampled _ _ _ := rfl
  at_most_one _ _ := Nat.zero_le _
  sampled_probed _ _ h := absurd h (Nat.lt_irrefl 0)
  pending_probed _ h := absurd h (List.not_mem_nil _)

theorem countP_sends (active : List Path) (r₀ : Nat) (seq : UInt16) (r : Nat)
    (f : PathFingerprint) : (active.map (PingEffect.send r₀ seq ·)).countP (·.samples r f) = 0 :=
  List.countP_eq_zero.mpr fun e he => by
    obtain ⟨p, -, rfl⟩ := List.mem_map.mp he
    simp [PingEffect.samples]

theorem any_sends {active : List Path} {r₀ : Nat} {seq : UInt16} {r : Nat} {f : PathFingerprint} :
    (active.map (PingEffect.send r₀ seq ·)).any (·.probes r f) ↔
      r₀ = r ∧ ∃ p ∈ active, p.fingerprint = f := by
  simp only [PingEffect.probes, List.any_eq_true, List.mem_map, exists_exists_and_eq_and,
    Bool.and_eq_true, beq_iff_eq, ← exists_and_left, and_left_comm]

theorem Accounting.opens {s s' : PingLoop} {log effs : List PingEffect} {active : List Path}
    (hs : Accounting s log) (h : Opens s s' effs active) : Accounting s' (log ++ effs) :=
  have hr := h.round
  { seq_eq := by rw [h.seq, hr, hs.seq_eq, uint16_ofNat_succ]
    nodup := h.pending ▸ nodup_addPending hs.nodup
    armed := fun _ => by rw [h.timer]; exact fun h' => TimerState.noConfusion h'
    pending_unsampled := fun f _ => by
      rw [h.effs, hr, List.countP_append, countP_sends,
        hs.future_unsampled (s.round + 1) f (by omega)]
    future_unsampled := fun r f hr' => by
      rw [h.effs, List.countP_append, countP_sends, hs.future_unsampled r f (by omega)]
    at_most_one := fun r f => by
      rw [h.effs, List.countP_append, countP_sends]
      exact hs.at_most_one r f
    sampled_probed := fun r f hs' => by
      rw [h.effs, List.countP_append, countP_sends] at hs'
      obtain ⟨r', hr', hp⟩ := hs.sampled_probed r f hs'
      exact ⟨r', hr', by simp [hp]⟩
    pending_probed := fun f hf => by
      rw [h.pending, mem_addPending] at hf
      rcases hf with hf | hf
      · obtain ⟨r, hr', hp⟩ := hs.pending_probed f hf
        exact ⟨r, by omega, by simp [hp]⟩
      · exact ⟨s.round + 1, by omega, by simp [h.effs, any_sends.mpr ⟨rfl, hf⟩]⟩ }

theorem Closes.countP {s s' : PingLoop} {log effs : List PingEffect} (h : Closes s s' effs)
    (r : Nat) (f : PathFingerprint) :
    (log ++ effs).countP (·.samples r f) = log.countP (·.samples r f) +
      if r = s.round ∧ f ∈ s.replyPending ∧ f ∉ s'.replyPending then 1 else 0 := by
  rw [List.countP_append, h.samples]

theorem Closes.any {s s' : PingLoop} {log effs : List PingEffect} (h : Closes s s' effs)
    (r : Nat) (f : PathFingerprint) : (log ++ effs).any (·.probes r f) = log.any (·.probes r f) := by
  rw [List.any_append, h.no_probes, Bool.or_false]

theorem Accounting.closes {s s' : PingLoop} {log effs : List PingEffect}
    (hs : Accounting s log) (h : Closes s s' effs) : Accounting s' (log ++ effs) where
  seq_eq := by rw [h.seq, h.round, hs.seq_eq]
  nodup := hs.nodup.sublist h.pending
  armed hne := h.timer hne (hs.armed fun he => hne (List.eq_nil_of_sublist_nil (he ▸ h.pending)))
  pending_unsampled f hf := by
    rw [h.countP, h.round, hs.pending_unsampled f (h.pending.subset hf)]
    simp [hf]
  future_unsampled r f hr := by
    rw [h.countP, hs.future_unsampled r f (by rw [← h.round]; exact hr)]
    simp only [h.round] at hr
    simp [Nat.ne_of_gt hr]
  at_most_one r f := by
    rw [h.countP]
    split_ifs with hc
    · rw [hc.1, hs.pending_unsampled f hc.2.1]
    · exact hs.at_most_one r f
  sampled_probed r f hr := by
    rw [h.countP] at hr
    simp only [h.any]
    split_ifs at hr with hc
    · obtain ⟨r', hr', hp⟩ := hs.pending_probed f hc.2.1
      exact ⟨r', hc.1 ▸ hr', hp⟩
    · exact hs.sampled_probed r f hr
  pending_probed f hf := by
    simp only [h.any, h.round]
    exact hs.pending_probed f (h.pending.subset hf)

/-- **Round accounting over every order of events.** -/
theorem accounting_reach {ok : PingLoop → LoopView → LoopEvent → Prop} {s : PingLoop}
    {log : List PingEffect} (h : Reach Timeout ok s log) : Accounting s log := by
  induction h with
  | init => exact accounting_init
  | step _ _ hstep ih =>
    rcases step_cases Timeout ih.nodup hstep with ⟨-, active, ho⟩ | hc
    · exact ih.opens ho
    · exact ih.closes hc

/-- The round accounting when rounds do not overlap: every probe of a round has exactly one
sample of that round, unless its fingerprint is still pending in the current round. -/
structure Closed (s : PingLoop) (log : List PingEffect) extends Accounting s log : Prop where
  current_probed : ∀ f ∈ s.replyPending, log.any (·.probes s.round f)
  future_unprobed : ∀ r f, s.round < r → log.any (·.probes r f) = false
  exactly_one : ∀ r f, log.any (·.probes r f) →
    log.countP (·.samples r f) + (if r = s.round ∧ f ∈ s.replyPending then 1 else 0) = 1
  sampled_in_round : ∀ r f, 0 < log.countP (·.samples r f) → log.any (·.probes r f)

/-- A round opened on an empty pending set keeps the accounting exact. -/
theorem Closed.opens {s s' : PingLoop} {log effs : List PingEffect} {active : List Path}
    (hs : Closed s log) (h : Opens s s' effs active) (hnil : s.replyPending = []) :
    Closed s' (log ++ effs) :=
  have hr := h.round
  have hmem : ∀ {f}, f ∈ s'.replyPending ↔ ∃ p ∈ active, p.fingerprint = f := by
    simp [h.pending, mem_addPending, hnil]
  { toAccounting := hs.toAccounting.opens h
    current_probed := fun f hf => by simp [h.effs, hr, any_sends.mpr ⟨rfl, hmem.mp hf⟩]
    future_unprobed := fun r f hr' => by
      rw [h.effs, List.any_append, hs.future_unprobed r f (by omega), Bool.false_or]
      exact Bool.eq_false_iff.mpr fun ha => by have := (any_sends.mp ha).1; omega
    exactly_one := fun r f hp => by
      rw [h.effs, List.countP_append, countP_sends, Nat.add_zero, hr]
      rw [h.effs, List.any_append, Bool.or_eq_true] at hp
      rcases hp with hp | hp
      · have hle : r ≤ s.round := by
          by_contra hlt
          rw [hs.future_unprobed r f (by omega)] at hp
          exact Bool.false_ne_true hp
        simpa [hnil, show r ≠ s.round + 1 by omega] using hs.exactly_one r f hp
      · obtain ⟨rfl, hf⟩ := any_sends.mp hp
        simp [hs.future_unsampled (s.round + 1) f (by omega), hmem.mpr hf]
    sampled_in_round := fun r f hs' => by
      rw [h.effs, List.countP_append, countP_sends] at hs'
      simp [h.effs, hs.sampled_in_round r f hs'] }

theorem Closed.closes {s s' : PingLoop} {log effs : List PingEffect} (hs : Closed s log)
    (h : Closes s s' effs) : Closed s' (log ++ effs) where
  toAccounting := hs.toAccounting.closes h
  current_probed f hf := by
    rw [h.any, h.round]
    exact hs.current_probed f (h.pending.subset hf)
  future_unprobed r f hr := by
    rw [h.any]
    exact hs.future_unprobed r f (h.round ▸ hr)
  exactly_one r f hp := by
    rw [h.any] at hp
    have := hs.exactly_one r f hp
    rw [h.countP, h.round]
    have hsub : f ∈ s'.replyPending → f ∈ s.replyPending := fun hf => h.pending.subset hf
    by_cases hc : r = s.round ∧ f ∈ s.replyPending <;> by_cases hf : f ∈ s'.replyPending <;>
      simp_all
  sampled_in_round r f hr := by
    rw [h.countP] at hr
    rw [h.any]
    split_ifs at hr with hc
    · exact hc.1 ▸ hs.current_probed f hc.2.1
    · exact hs.sampled_in_round r f hr

theorem Reach.next {ok : PingLoop → LoopView → LoopEvent → Prop} {s s' : PingLoop}
    {log effs : List PingEffect} (v : LoopView) (e : LoopEvent) (h : Reach Timeout ok s log)
    (hok : ok s v e) (hs : PingLoop.step Timeout v s e = some (s', effs)) :
    Reach Timeout ok s' (log ++ effs) :=
  .step h hok hs

/-! ## Where a sample's value comes from -/

/-- `run` reading one candidate, one active probe, and a live context. -/
def probeView : LoopView := ⟨[pathWith "a"], 1, default, false⟩

/-- The timeout case on a fired timer with replies pending: `Timeout` for every pending
fingerprint, then a reselection, and the round is closed. -/
theorem step_timeout_fired {v : LoopView} {s : PingLoop} (hrun : s.status = .running)
    (hf : s.timer = .fired) (hp : s.replyPending ≠ []) :
    step Timeout v s .timeout = some ({ s with replyPending := [], timer := .stopped },
      s.replyPending.map (.recordLatency s.round v.remote · Timeout) ++ [.reselectPath]) := by
  simp [step, hrun, hf, hp]

/-- **Every open round can end.** In every state a run reaches with the loop running and replies
pending, the timer's expiry, unless the timer has already fired, and then the timeout case close
the round: they record `Timeout` for every pending fingerprint in the current round, empty the
pending set and reselect. -/
theorem pending_round_closes {ok : PingLoop → LoopView → LoopEvent → Prop} {s : PingLoop}
    {log : List PingEffect} (h : Reach Timeout ok s log) (hrun : s.status = .running)
    (hp : s.replyPending ≠ []) (v : LoopView) :
    ∃ s₁, (s₁ = s ∨ step Timeout v s .expire = some (s₁, [])) ∧
      step Timeout v s₁ .timeout = some ({ s with replyPending := [], timer := .stopped },
        s.replyPending.map (.recordLatency s.round v.remote · Timeout) ++ [.reselectPath]) := by
  have harmed := (accounting_reach Timeout h).armed hp
  cases ht : s.timer with
  | stopped => exact absurd ht harmed
  | fired => exact ⟨s, .inl rfl, step_timeout_fired Timeout hrun ht hp⟩
  | armed =>
    exact ⟨{ s with timer := .fired }, .inr (by simp [step, ht]),
      step_timeout_fired Timeout (s := { s with timer := .fired }) hrun rfl hp⟩

theorem pending_round_closes_after_tick :
    let s := (tick probeView init fun _ => false).1
    ∃ s₁, (s₁ = s ∨ step 5 probeView s .expire = some (s₁, [])) ∧
      step 5 probeView s₁ .timeout = some ({ s with replyPending := [], timer := .stopped },
        s.replyPending.map (.recordLatency s.round probeView.remote · 5) ++ [.reselectPath]) :=
  have h : Reach 5 anyOrder (tick probeView init fun _ => false).1
      ([] ++ (tick probeView init fun _ => false).2) :=
    Reach.init.next 5 probeView (.tick fun _ => false) trivial rfl
  pending_round_closes 5 h rfl (by decide) probeView

end PingLoop

end ScionPan
