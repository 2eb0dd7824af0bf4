import CircuitBreaker.Proofs.Opening

namespace CircuitBreaker

namespace Traffic

variable {ε α : Type} {t : Traffic ε} {m : Move ε α}

structure Consistent (t : Traffic ε) : Prop where
  marked : t.circuit.probeInFlight = true → t.circuit.state = .halfOpen
  locked : t.circuit.hardTripped = true → t.circuit.state = .opened
  failed : t.circuit.state ≠ .closed → t.circuit.lastFailure ≠ none ∧ t.circuit.lastFailureTime ≠ none
  timed : t.circuit.lastFailure ≠ none ↔ t.circuit.lastFailureTime ≠ none
  counted : t.openings.length < UInt64.size → (t.circuit.lastFailure ≠ none ↔ 0 < t.circuit.openCount)

/-- An opening that is not completed, though a mark stands or none was completed before. -/
def Tears (t : Traffic ε) (m : Move ε α) : Prop :=
  t.Opens m ∧ t.clock.dated = false ∧ (t.circuit.probeInFlight = true ∨ t.circuit.lastFailureTime = none)

theorem Sound.failed_iff (h : t.Sound) : t.circuit.lastFailure ≠ none ↔ t.openings ≠ [] := by
  rw [h.cooldown]
  cases t.openings <;> simp

theorem Recorded.timed_iff (h : t.Recorded) :
    t.circuit.lastFailureTime ≠ none ↔ t.openings.filter Clock.dated ≠ [] := by
  rw [h.time]
  cases t.openings.filter Clock.dated <;> simp

theorem Recorded.counted_iff (h : t.Recorded) (hlt : t.openings.length < UInt64.size) :
    0 < t.circuit.openCount ↔ t.circuit.lastFailureTime ≠ none := by
  rw [h.timed_iff, UInt64.lt_iff_toNat_lt, h.openCount_toNat hlt, ← List.length_pos_iff]
  rfl

structure Whole (t : Traffic ε) : Prop where
  marked : t.circuit.probeInFlight = true → t.circuit.state = .halfOpen
  timed : t.circuit.lastFailure ≠ none → t.circuit.lastFailureTime ≠ none

theorem whole_start (s : Setup ε) : (start s).Whole := by
  constructor <;> simp [start, circuit, Circuit.ofTimeout]

theorem Whole.consistent (h : t.Whole) (hs : t.Sound) (hr : t.Recorded) (hg : t.circuit.Grounded) :
    t.Consistent := by
  have htimed : t.circuit.lastFailure ≠ none ↔ t.circuit.lastFailureTime ≠ none := by
    refine ⟨h.timed, fun htime => hs.failed_iff.mpr fun hnone => ?_⟩
    apply hr.timed_iff.mp htime
    rw [hnone]
    rfl
  refine ⟨h.marked, fun hh => (hs.locked hh).state, fun hc => ?_, htimed, fun hlt => ?_⟩
  · exact ⟨hg.tripped hc, h.timed (hg.tripped hc)⟩
  · exact htimed.trans (hr.counted_iff hlt).symm

theorem marked_quiet (h : t.circuit.probeInFlight = true → t.circuit.state = .halfOpen) (hm : ¬ t.Opens m) :
    (t.move m).circuit.probeInFlight = true → (t.move m).circuit.state = .halfOpen := by
  have hq := quiet_openings hm
  have he := t.move_effect m
  generalize t.move m = u at he hq
  intro hp
  cases he with
  | idle b clock _ hb => exact hb.state.trans (h (hb.probeInFlight ▸ hp))
  | pass => exact h hp
  | hold b _ _ _ hb => exact hb.state
  | probe b _ _ _ hb => exact hb.state
  | retime b timeout hb => exact hb.state.trans (h (hb.probeInFlight ▸ hp))
  | opening | latch => exact absurd hq (List.cons_ne_self _ _)
  | reset b hb => exact absurd (hb.probeInFlight.symm.trans hp) (by simp)
  | success b call v _ hb => exact absurd (hb.probeInFlight.symm.trans hp) (by simp)
  | passing b call _ hb =>
    exact hb.state.trans (h (Bool.and_eq_true_iff.mp (hb.probeInFlight.symm.trans hp)).1)

theorem Whole.quiet (h : t.Whole) (hs : t.Sound) (hm : ¬ t.Opens m) : (t.move m).Whole := by
  have htime := (quiet_telemetry hm).1
  have hlast : (t.move m).circuit.lastFailure = t.circuit.lastFailure := by
    rw [(hs.move m).cooldown, quiet_openings hm, hs.cooldown]
  exact ⟨marked_quiet h.marked hm, by rw [htime, hlast]; exact h.timed⟩

theorem whole_opened (ht : t.Tidy) (hm : t.Opens m) (htear : ¬ t.Tears m) : (t.move m).Whole := by
  cases hd : t.clock.dated with
  | true =>
    obtain ⟨hard, hb⟩ := opened_dated ht hm hd
    refine ⟨fun hp => ?_, fun _ => ?_⟩
    · cases hb.probeInFlight.symm.trans hp
    · rw [hb.lastFailureTime]
      exact Option.some_ne_none _
  | false =>
    have hb := opened_undated ht hm hd
    refine ⟨fun hp => ?_, fun _ hnone => ?_⟩
    · exact absurd ⟨hm, hd, .inl (hb.probeInFlight.symm.trans hp)⟩ htear
    · exact htear ⟨hm, hd, .inr (hb.lastFailureTime.symm.trans hnone)⟩

theorem Whole.move (h : t.Whole) (ht : t.Tidy) (hs : t.Sound) (htear : ¬ t.Tears m) : (t.move m).Whole := by
  by_cases hm : t.Opens m
  · exact whole_opened ht hm htear
  · exact h.quiet hs hm

theorem not_consistent_of_tears (ht : t.Tidy) (h : t.Tears m) : ¬ (t.move m).Consistent := by
  obtain ⟨hm, hd, hbad⟩ := h
  have hb := opened_undated ht hm hd
  intro hc
  rcases hbad with hp | hnone
  · have hstate := hc.marked (hb.probeInFlight.trans hp)
    rw [hb.state] at hstate
    cases hstate
  · have hlast : (t.move m).circuit.lastFailure ≠ none := by
      rw [hb.lastFailure]
      exact Option.some_ne_none _
    exact hc.timed.mp hlast (hb.lastFailureTime.trans hnone)

theorem ripening_waits (hg : t.circuit.Grounded) (hs : t.circuit.state = .opened)
    (hu : (t.move m).circuit.state = .halfOpen) :
    ∃ failed, t.circuit.lastFailure = some failed ∧
      t.circuit.timeout.toNat * 1000000 ≤ t.clock.mono.since failed := by
  have hripe : t.circuit.Ripe t.clock.mono → t.circuit.cooled t.clock.mono = true := by
    rintro (hhalf | ⟨-, hcooled⟩)
    · rw [hs] at hhalf
      cases hhalf
    · exact hcooled
  have hcooled : t.circuit.cooled t.clock.mono = true := by
    have he := t.move_effect m
    generalize t.move m = u at he hu
    cases he with
    | idle b clock _ hb | retime b timeout hb | passing b call _ hb =>
      cases hs.symm.trans (hb.state.symm.trans hu)
    | pass hclosed => cases hs.symm.trans hclosed
    | hold b _ hr _ _ | probe b _ hr _ _ => exact hripe hr
    | opening b calls _ _ hb => cases (Circuit.trip_state _ _).symm.trans (hb.state.symm.trans hu)
    | latch b hb => cases (Circuit.hardTrip_state _ _).symm.trans (hb.state.symm.trans hu)
    | reset b hb => cases hb.state.symm.trans hu
    | success b call v _ hb =>
      have hsucceed := hb.state.symm.trans hu
      rw [Circuit.succeed_state, hs] at hsucceed
      split at hsucceed <;> cases hsucceed
  have hfailed := hg.tripped (by simp [hs])
  obtain ⟨failed, hlast⟩ := Option.ne_none_iff_exists'.mp hfailed
  refine ⟨failed, hlast, ?_⟩
  unfold Circuit.cooled at hcooled
  rw [hlast] at hcooled
  simpa using hcooled

theorem consistent_iff (s : Setup ε) (ms : List (Move ε α)) :
    ((∀ p, p <+: ms → ((start s).run p).Consistent) ↔
        ∀ p m, p ++ [m] <+: ms → ¬ ((start s).run p).Tears m) ∧
      ∀ p m, p ++ [m] <+: ms → ((start s).run p).circuit.state = .opened →
        (((start s).run p).move m).circuit.state = .halfOpen →
        ∃ failed, ((start s).run p).circuit.lastFailure = some failed ∧
          ((start s).run p).circuit.timeout.toNat * 1000000 ≤ ((start s).run p).clock.mono.since failed := by
  refine ⟨⟨?_, ?_⟩, ?_⟩
  · intro h p m hp htear
    apply not_consistent_of_tears (run_tidy s p) htear
    rw [← run_concat]
    exact h (p ++ [m]) hp
  · intro h p hp
    have hwhole := run_induction (whole_start s)
      (fun q m hq hw => hw.move (run_tidy s q) (run_sound s q) (h q m hq)) p hp
    exact hwhole.consistent (run_sound s p) (run_recorded s p) (run_grounded s p)
  · intro p m _ hs hu
    exact ripening_waits (run_grounded s p) hs hu

theorem marked_while_open :
    let t := (start plain).run
      [(.trip : Move Unit Unit), .shift 100000000 100000000, .enter, .shift 0 (-100000001), .trip]
    ¬ t.Consistent ∧ t.circuit.state = .opened ∧ t.circuit.probeInFlight = true := by
  refine ⟨fun h => ?_, by decide, by decide⟩
  exact absurd (h.marked (by decide)) (by decide)

end Traffic

end CircuitBreaker
