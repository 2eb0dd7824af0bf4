import CircuitBreaker.Proofs.Opening
import CircuitBreaker.Proofs.ProbeSlot

namespace CircuitBreaker

theorem Circuit.admission_of_unmarked {c : Circuit} {now : Instant} (hp : c.probeInFlight = false)
    (hh : c.hardTripped = false) (hc : c.cooled now = true) : (c.admission now).1 ≠ .reject := by
  rcases c.admission_cases now with ⟨hrefused, -⟩ | ⟨-, -, ha⟩ | ⟨-, -, hmark, -⟩ | ⟨-, -, -, j, ha⟩
  · rcases hrefused with hhard | ⟨-, hcooling⟩
    · rw [hh] at hhard
      cases hhard
    · rw [hc] at hcooling
      cases hcooling
  · simp [ha]
  · rw [hp] at hmark
    cases hmark
  · simp [ha]

theorem Circuit.Grounded.refuses_marked {c : Circuit} (h : c.Grounded) (hp : c.probeInFlight = true)
    (now : Instant) : (c.admission now).1 = .reject := by
  rcases c.admission_cases now with ⟨-, j, ha⟩ | ⟨-, hs, -⟩ | ⟨-, -, -, j, ha⟩ | ⟨-, -, hfree, -⟩
  · rw [ha]
  · rw [h.closed hs] at hp
    cases hp
  · rw [ha]
  · rw [hp] at hfree
    cases hfree

namespace Traffic

variable {ε α : Type} {t : Traffic ε} {m : Move ε α}

def Strands (t : Traffic ε) (m : Move ε α) : Prop :=
  t.clock.dated = false ∧ ∃ call, t.Fails m call ∧ t.holder = some call.id

def Held (t : Traffic ε) : Prop := t.circuit.probeInFlight = true → ∃ call ∈ t.calls, t.lastProbe = some call.id

structure Recoverable (t : Traffic ε) : Prop where
  held : t.Held
  free : t.calls = [] → t.circuit.probeInFlight = false
  admits : t.calls = [] → t.circuit.hardTripped = false →
    ∀ now, t.circuit.cooled now = true → (t.circuit.admission now).1 ≠ .reject

theorem Held.recoverable (h : t.Held) : t.Recoverable := by
  have hfree : t.calls = [] → t.circuit.probeInFlight = false := by
    intro hnone
    by_contra hp
    obtain ⟨call, hc, -⟩ := h (by simpa using hp)
    rw [hnone] at hc
    cases hc
  exact ⟨h, hfree, fun hnone hh now hc => Circuit.admission_of_unmarked (hfree hnone) hh hc⟩

theorem held_of_unmarked (h : t.circuit.probeInFlight = false) : t.Held := by
  intro hp
  rw [h] at hp
  cases hp

theorem held_start (s : Setup ε) : (start s).Held := held_of_unmarked rfl

theorem Held.same {u : Traffic ε} (h : t.Held) (hp : u.circuit.probeInFlight = t.circuit.probeInFlight)
    (hc : u.calls = t.calls) (hl : u.lastProbe = t.lastProbe) : u.Held := by
  intro hmark
  rw [hc, hl]
  exact h (hp ▸ hmark)

theorem Held.forget (h : t.Held) {id : Nat} (hid : t.lastProbe ≠ some id) {b : Breaker ε} {openings : List Clock}
    (hp : b.circuit.probeInFlight = true → t.circuit.probeInFlight = true) :
    ({ t.forget id with breaker := b, openings := openings } : Traffic ε).Held := by
  intro hmark
  obtain ⟨call, hc, hl⟩ := h (hp hmark)
  refine ⟨call, List.mem_filter.mpr ⟨hc, ?_⟩, hl⟩
  have hne : call.id ≠ id := fun he => hid (he ▸ hl)
  simpa using hne

theorem Held.quiet (h : t.Held) (ht : t.Tidy) (hm : ¬ t.Opens m) : (t.move m).Held := by
  have hq := quiet_openings hm
  have he := t.move_effect m
  generalize t.move m = u at he hq
  cases he with
  | idle b clock _ hb => exact h.same hb.probeInFlight rfl rfl
  | pass =>
    intro hp
    obtain ⟨call, hc, hl⟩ := h hp
    exact ⟨call, List.mem_cons_of_mem _ hc, hl⟩
  | hold b _ _ _ hb => exact h.same hb.probeInFlight rfl rfl
  | probe => exact fun _ => ⟨_, List.mem_cons_self, rfl⟩
  | retime b timeout hb => exact h.same hb.probeInFlight rfl rfl
  | opening | latch => exact absurd hq (List.cons_ne_self _ _)
  | reset b hb => exact held_of_unmarked (hb.probeInFlight.trans t.circuit.reset_probe)
  | success b call v _ hb => exact held_of_unmarked (hb.probeInFlight.trans t.circuit.succeed_probe)
  | passing b call hpass hb =>
    have hmark := hb.probeInFlight
    by_cases hlast : t.lastProbe = some call.id
    · rw [ht.lastProbe call hpass.1 hlast] at hmark
      exact held_of_unmarked (hmark.trans (Bool.and_false _))
    · exact h.forget hlast fun hp => (Bool.and_eq_true_iff.mp (hmark.symm.trans hp)).1

theorem Held.opened (h : t.Held) (ht : t.Tidy) (hm : t.Opens m) (hs : ¬ t.Strands m) : (t.move m).Held := by
  cases hd : t.clock.dated with
  | true =>
    obtain ⟨hard, hb⟩ := opened_dated ht hm hd
    exact held_of_unmarked hb.probeInFlight
  | false =>
    have hp : (t.move m).circuit.probeInFlight = t.circuit.probeInFlight := (opened_undated ht hm hd).probeInFlight
    obtain rfl | rfl | ⟨call, hf⟩ := hm
    · rw [trip_eq] at hp ⊢
      exact h.same hp rfl rfl
    · rw [hardTrip_eq] at hp ⊢
      exact h.same hp rfl rfl
    · obtain ⟨b, remarks, -, -, hmove⟩ := fails_eq ht hf
      rw [hmove] at hp ⊢
      by_cases hlast : t.lastProbe = some call.id
      · have hmark : t.circuit.probeInFlight = false := by
          by_contra hmark
          exact hs ⟨hd, call, hf, by rw [holder, if_pos (by simpa using hmark), hlast]⟩
        exact held_of_unmarked (hp.trans hmark)
      · exact h.forget hlast fun hmark => hp.symm.trans hmark

theorem Held.move (h : t.Held) (ht : t.Tidy) (hs : ¬ t.Strands m) : (t.move m).Held := by
  by_cases hm : t.Opens m
  · exact h.opened ht hm hs
  · exact h.quiet ht hm

theorem not_held_of_strands (ht : t.Tidy) (h : t.Strands m) : ¬ (t.move m).Held := by
  obtain ⟨hd, call, hf, hholder⟩ := h
  obtain ⟨hmark, hlast⟩ : t.circuit.probeInFlight = true ∧ t.lastProbe = some call.id := by
    unfold holder at hholder
    split at hholder
    · exact ⟨by assumption, hholder⟩
    · cases hholder
  have hp := (opened_undated ht (.inr (.inr ⟨call, hf⟩)) hd).probeInFlight
  obtain ⟨b, remarks, -, -, hmove⟩ := fails_eq ht hf
  rw [hmove] at hp ⊢
  intro hheld
  obtain ⟨other, hother, hl⟩ := hheld (hp.trans hmark)
  have hid : call.id = other.id := Option.some.inj (hlast.symm.trans hl)
  have hne := (List.mem_filter.mp hother).2
  simp [hid] at hne

theorem recoverable_iff (s : Setup ε) (ms : List (Move ε α)) :
    (∀ p, p <+: ms → ((start s).run p).Recoverable) ↔
      ∀ p m, p ++ [m] <+: ms → ¬ ((start s).run p).Strands m := by
  constructor
  · intro h p m hp hs
    apply not_held_of_strands (run_tidy s p) hs
    rw [← run_concat]
    exact (h (p ++ [m]) hp).held
  · intro h p hp
    apply Held.recoverable
    exact run_induction (held_start s) (fun q m hq hheld => hheld.move (run_tidy s q) (h q m hq)) p hp

structure Stuck (t : Traffic ε) : Prop where
  idle : t.calls = []
  marked : t.circuit.probeInFlight = true

theorem Stuck.move (h : t.Stuck) (hg : t.circuit.Grounded) (htrip : m ≠ .trip) (hhard : m ≠ .hardTrip)
    (hreset : m ≠ .reset) : (t.move m).Stuck := by
  have hnone (call : Call) : call ∉ t.calls := by simp [h.idle]
  have hopen : ¬ t.Opens m := by
    rintro (hm | hm | ⟨call, hc, -⟩)
    · exact htrip hm
    · exact hhard hm
    · exact hnone call hc
  have hq := quiet_openings hopen
  have he := t.move_effect m
  generalize t.move m = u at he hq
  cases he with
  | idle b clock _ hb => exact ⟨h.idle, hb.probeInFlight.trans h.marked⟩
  | pass hs =>
    have hfree := hg.closed hs
    rw [h.marked] at hfree
    cases hfree
  | hold b _ _ _ hb => exact ⟨h.idle, hb.probeInFlight.trans h.marked⟩
  | probe b _ _ hp _ =>
    rw [h.marked] at hp
    cases hp
  | retime b timeout hb => exact ⟨h.idle, hb.probeInFlight.trans h.marked⟩
  | opening | latch => exact absurd hq (List.cons_ne_self _ _)
  | reset => exact absurd rfl hreset
  | success b call v hc _ => exact absurd hc (hnone call)
  | passing b call hpass _ => exact absurd hpass.1 (hnone call)

theorem Stuck.run (h : t.Stuck) (hg : t.circuit.Grounded) {ms : List (Move ε α)} (htrip : .trip ∉ ms)
    (hhard : .hardTrip ∉ ms) (hreset : .reset ∉ ms) :
    (t.run ms).Stuck ∧ ∀ now, ((t.run ms).circuit.admission now).1 = .reject := by
  -- Neither time nor a new timeout frees a stuck breaker, only a trip or a reset by hand.
  induction ms generalizing t with
  | nil => exact ⟨h, hg.refuses_marked h.marked⟩
  | cons m ms ih =>
    rw [List.mem_cons, not_or] at htrip hhard hreset
    have hnext := h.move hg (Ne.symm htrip.1) (Ne.symm hhard.1) (Ne.symm hreset.1)
    exact ih hnext (grounded_move hg m) htrip.2 hhard.2 hreset.2

def strandedProbe : List (Move Unit Unit) :=
  [.trip, .shift 100000000 100000000, .enter, .shift 0 (-100000001), .settle 0 (.failure ()),
    .shift 100000000 1000000000]

theorem stranded_probe_refuses :
    let t := (start plain).run strandedProbe
    ¬ t.Recoverable ∧ t.calls = [] ∧ t.circuit.hardTripped = false ∧ t.circuit.cooled t.clock.mono = true ∧
      ∀ ms : List (Move Unit Unit), .trip ∉ ms → .hardTrip ∉ ms → .reset ∉ ms →
        ∀ now, ((t.run ms).circuit.admission now).1 = .reject := by
  intro t
  have hstuck : t.Stuck := ⟨by decide, by decide⟩
  refine ⟨fun h => ?_, hstuck.idle, by decide, by decide, fun ms htrip hhard hreset => ?_⟩
  · exact absurd hstuck.marked (by simp [h.free hstuck.idle])
  · exact (hstuck.run (run_grounded plain strandedProbe) htrip hhard hreset).2

end Traffic

end CircuitBreaker
