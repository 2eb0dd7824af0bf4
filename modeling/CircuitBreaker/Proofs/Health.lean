import CircuitBreaker.Proofs.Consistency
import CircuitBreaker.Proofs.Recovery
import CircuitBreaker.Stats

namespace CircuitBreaker

namespace Circuit

variable {c : Circuit} {now : Instant}

structure Foretells (c : Circuit) (now : Instant) : Prop where
  stats : (c.stats now).health = c.health now
  healthy : c.health now = .healthy ↔ (c.admission now).1 = .pass
  unavailable : c.health now = .unavailable → (c.admission now).1 = .reject
  opened : c.state = .opened → (c.health now = .degraded ↔ (c.admission now).1 = .probe)
  refused : c.health now = .degraded → (c.admission now).1 = .reject →
    c.state = .halfOpen ∧ c.probeInFlight = true

theorem health_of_closed (hs : c.state = .closed) : c.health now = .healthy := by
  unfold health
  rw [hs]

theorem health_of_ripe (hh : c.hardTripped = false) (hr : c.Ripe now) : c.health now = .degraded := by
  unfold health
  rcases hr with hs | ⟨hs, hc⟩
  · rw [hs]
  · rw [hs]
    simp [hh, hc]

theorem health_of_waiting (hs : c.state = .opened) (hw : c.hardTripped = true ∨ c.cooled now = false) :
    c.health now = .unavailable := by
  unfold health
  rw [hs]
  rcases hw with hh | hc
  · simp [hh]
  · simp [hc]

theorem foretells (hlock : c.hardTripped = true → c.state = .opened)
    (hmark : c.probeInFlight = true → c.state = .halfOpen) : c.Foretells now := by
  rcases c.admission_cases now with ⟨hw, j, ha⟩ | ⟨-, hs, ha⟩ | ⟨hh, hr, hp, j, ha⟩ | ⟨hh, hr, hp, j, ha⟩
  · have hs : c.state = .opened := hw.elim hlock fun hcool => hcool.1
    have hhealth := health_of_waiting hs (hw.imp_right fun hcool => hcool.2)
    constructor <;> simp [ha, hhealth, stats]
  · have hhealth : c.health now = .healthy := health_of_closed hs
    constructor <;> simp [ha, hhealth, hs, stats]
  · have hhealth := health_of_ripe hh hr
    have hs := hmark hp
    constructor <;> simp [ha, hhealth, hs, hp, stats]
  · have hhealth := health_of_ripe hh hr
    constructor <;> simp [ha, hhealth, stats]

theorem Grounded.not_foretells (h : c.Grounded) (hs : c.state = .opened) (hh : c.hardTripped = false)
    (hp : c.probeInFlight = true) (hc : c.cooled now = true) : ¬ c.Foretells now := by
  -- An open circuit with a mark calls itself degraded once it has cooled, and still refuses.
  intro hf
  have hprobe := (hf.opened hs).mp (health_of_ripe hh (.inr ⟨hs, hc⟩))
  rw [h.refuses_marked hp] at hprobe
  cases hprobe

theorem cooled_of_no_timeout (c : Circuit) (now : Instant) : (c.setTimeout .zero).cooled now = true := by
  have hzero : (c.setTimeout .zero).timeout.toNat = 0 := rfl
  unfold cooled
  rw [hzero]
  split <;> simp

end Circuit

namespace Traffic

variable {ε α : Type} {t : Traffic ε} {m : Move ε α}

def LeavesMark (t : Traffic ε) (m : Move ε α) : Prop :=
  t.Opens m ∧ t.clock.dated = false ∧ t.circuit.probeInFlight = true

theorem marked_opened (ht : t.Tidy) (hm : t.Opens m) (hleave : ¬ t.LeavesMark m) :
    (t.move m).circuit.probeInFlight = false := by
  cases hd : t.clock.dated with
  | true =>
    obtain ⟨hard, hb⟩ := opened_dated ht hm hd
    exact hb.probeInFlight
  | false =>
    have hb := opened_undated ht hm hd
    by_contra hp
    exact hleave ⟨hm, hd, hb.probeInFlight.symm.trans (by simpa using hp)⟩

theorem marked_move (h : t.circuit.probeInFlight = true → t.circuit.state = .halfOpen) (ht : t.Tidy)
    (hleave : ¬ t.LeavesMark m) :
    (t.move m).circuit.probeInFlight = true → (t.move m).circuit.state = .halfOpen := by
  by_cases hm : t.Opens m
  · intro hp
    rw [marked_opened ht hm hleave] at hp
    cases hp
  · exact marked_quiet h hm

theorem LeavesMark.move (ht : t.Tidy) (hs : t.Sound) (h : t.LeavesMark m) :
    (t.move m).circuit.state = .opened ∧ (t.move m).circuit.hardTripped = false ∧
      (t.move m).circuit.probeInFlight = true := by
  obtain ⟨hm, hd, hp⟩ := h
  have hb := opened_undated ht hm hd
  have hmark : (t.move m).circuit.probeInFlight = true := hb.probeInFlight.trans hp
  refine ⟨hb.state, ?_, hmark⟩
  by_contra hh
  have hlock := (hs.move m).locked (by simpa using hh)
  rw [hlock.probeInFlight] at hmark
  cases hmark

theorem marked_run {s : Setup ε} {ms : List (Move ε α)}
    (h : ∀ p m, p ++ [m] <+: ms → ¬ ((start s).run p).LeavesMark m) (p : List (Move ε α)) (hp : p <+: ms) :
    ((start s).run p).circuit.probeInFlight = true → ((start s).run p).circuit.state = .halfOpen :=
  run_induction (P := fun t => t.circuit.probeInFlight = true → t.circuit.state = .halfOpen)
    (whole_start s).marked (fun q m hq hmark => marked_move hmark (run_tidy s q) (h q m hq)) p hp

theorem not_foretells_of_leavesMark (ht : t.Tidy) (hs : t.Sound) (h : t.LeavesMark m) (now : Instant) :
    ¬ ((t.move m).circuit.setTimeout .zero).Foretells now := by
  obtain ⟨hstate, hfree, hmark⟩ := h.move ht hs
  obtain ⟨hm, hd, -⟩ := h
  have hground : ((t.move m).circuit.setTimeout .zero).Grounded := by
    constructor
    · intro hclosed
      cases hstate.symm.trans hclosed
    · intro _ hnone
      have hlast : (t.move m).circuit.lastFailure = some t.clock.mono := (opened_undated ht hm hd).lastFailure
      cases hlast.symm.trans hnone
  exact hground.not_foretells hstate hfree hmark (Circuit.cooled_of_no_timeout _ now)

theorem health_foretells_iff (s : Setup ε) (ms : List (Move ε α)) :
    (∀ p, p <+: ms → ∀ timeout now, (((start s).run p).circuit.setTimeout timeout).Foretells now) ↔
      ∀ p m, p ++ [m] <+: ms → ¬ ((start s).run p).LeavesMark m := by
  constructor
  · intro h p m hp hleave
    apply not_foretells_of_leavesMark (run_tidy s p) (run_sound s p) hleave ⟨0⟩
    rw [← run_concat]
    exact h (p ++ [m]) hp .zero ⟨0⟩
  · intro h p hp timeout now
    exact Circuit.foretells (fun hh => ((run_sound s p).locked hh).state) (marked_run h p hp)

theorem degraded_open_refuses :
    let c := ((start plain).run [(.trip : Move Unit Unit), .shift 100000000 100000000, .enter,
      .shift 0 (-100000001), .trip, .shift 100000000 100000001]).circuit
    ¬ c.Foretells ⟨200000000⟩ ∧ c.state = .opened ∧ c.health ⟨200000000⟩ = .degraded ∧
      (c.admission ⟨200000000⟩).1 = .reject := by
  refine ⟨fun h => ?_, by decide, by decide, by decide⟩
  exact absurd ((h.opened (by decide)).mp (by decide)) (by decide)

end Traffic

end CircuitBreaker
