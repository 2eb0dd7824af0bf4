import CircuitBreaker.Proofs.Session
import CircuitBreaker.Proofs.Traffic
import CircuitBreaker.Stats

namespace CircuitBreaker

namespace Traffic

variable {ε α : Type}

/-- However a call is made now, it is answered with a rejection, and nothing of its operation is done:
the breaker is as after a mere question, and an asynchronous call is forgotten. -/
structure TurnsAway (t : Traffic ε) : Prop where
  invoked : ∀ {α : Type} (s : Session ε), s.breaker = t.breaker → s.clock = t.clock →
    ∀ (delivery : Delivery α) (operation : List (Step ε α)) (result : Completion ε α),
      s.step (.invoke delivery operation result) =
        (.settled .rejected false [], { s with breaker := (t.breaker.acquire t.clock.mono).2 })
  polled : ∀ {α : Type} (s : Session ε), s.breaker = t.breaker → s.clock = t.clock →
    ∀ id, s.calls.lookup id = some .fresh → ∀ result : Option (Completion ε α),
      s.poll id result =
        (.settled .rejected false [], { s with breaker := (t.breaker.acquire t.clock.mono).2 }.forget id)

theorem turnsAway_iff {t : Traffic ε} : t.TurnsAway ↔ (t.breaker.acquire t.clock.mono).1 = none := by
  constructor
  · intro h
    cases ha : (t.breaker.acquire t.clock.mono).1 with
    | none => rfl
    | some permit =>
      let s : Session ε := { breaker := t.breaker, clock := t.clock }
      have hran := Session.invoke_admitted (s := s) ha .own [] (.value ())
      rw [h.invoked s rfl rfl] at hran
      cases hran
  · intro h
    constructor
    · intro α s hb hc delivery operation result
      rw [← hb, ← hc] at h ⊢
      exact Session.invoke_refused h delivery operation result
    · intro α s hb hc id hid result
      rw [← hb, ← hc] at h ⊢
      exact Session.poll_refused h hid result

theorem turnsAway_locked {t : Traffic ε} (h : t.circuit.hardTripped = true) : t.TurnsAway :=
  turnsAway_iff.mpr (Breaker.acquire_locked h _)

theorem locked_move {t : Traffic ε} (h : t.circuit.Locked) {m : Move ε α} (hm : m ≠ .reset) :
    (t.move m).circuit.Locked := by
  have he := t.move_effect m
  generalize t.move m = u at he
  cases he with
  | idle b clock _ hb => exact hb.locked h
  | pass hs =>
    rw [h.state] at hs
    cases hs
  | hold b hh _ _ _ | probe b hh _ _ _ =>
    rw [h.hardTripped] at hh
    cases hh
  | retime b timeout hb => exact hb.locked (h.setTimeout timeout)
  | opening b calls _ _ hb => exact hb.locked (h.trip t.clock)
  | latch b hb => exact hb.locked (h.hardTrip t.clock)
  | reset => exact absurd rfl hm
  | success b call v _ hb => exact hb.locked h.succeed
  | passing b call _ hb => exact hb.locked ⟨h.state, h.hardTripped, by simp [h.probeInFlight]⟩

theorem locked_run {t : Traffic ε} (h : t.circuit.Locked) {ms : List (Move ε α)} (hms : .reset ∉ ms) :
    (t.run ms).circuit.Locked := by
  induction ms generalizing t with
  | nil => exact h
  | cons m ms ih =>
    rw [List.mem_cons, not_or] at hms
    exact ih (locked_move h (Ne.symm hms.1)) hms.2

structure HeldOpen (t : Traffic ε) : Prop where
  state : t.circuit.state = .opened
  hardTripped : t.circuit.hardTripped = true
  probeInFlight : t.circuit.probeInFlight = false
  health : t.circuit.health t.clock.mono = .unavailable
  stats : (t.circuit.stats t.clock.mono).health = .unavailable
  turnsAway : t.TurnsAway

theorem heldOpen_of_locked {t : Traffic ε} (h : t.circuit.Locked) : t.HeldOpen := by
  have hhealth : t.circuit.health t.clock.mono = .unavailable := by
    unfold Circuit.health
    rw [h.state]
    simp [h.hardTripped]
  exact ⟨h.state, h.hardTripped, h.probeInFlight, hhealth, hhealth, turnsAway_locked h.hardTripped⟩

theorem hardTrip_circuit (t : Traffic ε) :
    (t.move (.hardTrip : Move ε α)).circuit = t.circuit.hardTrip t.clock := rfl

theorem hard_trip_held_iff (s : Setup ε) (before : List (Move ε α)) :
    let t := (start s).run before
    (∀ after : List (Move ε α), .reset ∉ after → (t.run (.hardTrip :: after)).HeldOpen) ↔
      t.clock.wall.fault? = none ∨ t.circuit.hardTripped = true := by
  intro t
  constructor
  · intro h
    by_cases hn : t.clock.wall.fault? = none
    · exact .inl hn
    · have hh : (t.circuit.hardTrip t.clock).hardTripped = true := (h [] (by simp)).hardTripped
      rw [t.circuit.hardTrip_of_fault hn] at hh
      exact .inr hh
  · intro h after hafter
    have hlock : (t.circuit.hardTrip t.clock).Locked := by
      rcases h with hn | hh
      · exact t.circuit.hardTrip_locked hn
      · exact ((run_sound s before).locked hh).hardTrip t.clock
    rw [← t.hardTrip_circuit (α := α)] at hlock
    exact heldOpen_of_locked (locked_run hlock hafter)

def dateless : Setup Unit :=
  { name := "default", timeout := .zero, classifiers := [], installed := none, clock := ⟨⟨0⟩, ⟨-1⟩⟩ }

theorem hard_trip_without_date :
    let t := (start dateless).run [(.hardTrip : Move Unit Unit)]
    ¬ t.HeldOpen ∧ (t.breaker.acquire t.clock.mono).1 = some ⟨true⟩ := by
  refine ⟨fun h => ?_, by decide⟩
  exact absurd h.hardTripped (by decide)

end Traffic

end CircuitBreaker
