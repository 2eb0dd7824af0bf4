import CircuitBreaker.Program
import CircuitBreaker.Proofs.Lockstep

namespace CircuitBreaker

namespace Circuit

def recalling (earlier : List Event) (c : Circuit) : Circuit := { c with journal := c.journal ++ earlier }

variable (earlier : List Event) (c : Circuit)

theorem trip_recalling (now : Clock) : (c.recalling earlier).trip now = (c.trip now).recalling earlier := by
  unfold trip
  split <;> rfl

theorem hardTrip_recalling (now : Clock) :
    (c.recalling earlier).hardTrip now = (c.hardTrip now).recalling earlier := by
  unfold hardTrip
  split <;> rfl

theorem likeness_recalling : Likeness fun c c' => c' = c.recalling earlier where
  name := by rintro _ _ rfl; rfl
  state := by rintro _ _ rfl; rfl
  probeInFlight := by rintro _ _ rfl; rfl
  hardTripped := by rintro _ _ rfl; rfl
  cooled := by rintro _ _ rfl _ _; rfl
  emit := by rintro _ _ rfl _; rfl
  mark := by rintro _ _ rfl _; rfl
  latch := by rintro _ _ rfl _; rfl
  close := by rintro _ _ rfl; rfl
  halfOpen := by rintro _ _ rfl _; rfl

theorem lockstep_recalling : Lockstep id (fun _ => True) Eq fun c c' => c' = c.recalling earlier := by
  apply (likeness_recalling earlier).lockstep
  · rintro _ _ rfl _
    rfl
  · rintro c _ rfl now
    exact c.trip_recalling earlier now
  · rintro c _ rfl now
    exact c.hardTrip_recalling earlier now

end Circuit

structure Simulation.Recalls (earlier : List Event) (s s' : Simulation) : Prop where
  breaker : s.breaker.Like (fun c c' => c' = c.recalling earlier) s'.breaker
  clock : s'.clock = s.clock

namespace Simulation

variable {s s' : Simulation} {earlier : List Event}

theorem Recalls.onCircuit (h : s.Recalls earlier s') {f f' : Circuit → Circuit}
    (hf : f' (s.breaker.circuit.recalling earlier) = (f s.breaker.circuit).recalling earlier) :
    (s.onCircuit f).Recalls earlier (s'.onCircuit f') := by
  refine ⟨⟨?_, h.breaker.classifiers, h.breaker.installed⟩, h.clock⟩
  change f' s'.breaker.circuit = _
  rw [h.breaker.circuit]
  exact hf

theorem Recalls.note (h : s.Recalls earlier s') (outcome : Outcome SimulatedError Unit) :
    (s.note outcome).Recalls earlier (s'.note outcome) := by
  cases outcome with
  | failure e => exact h.onCircuit rfl
  | value | rejected | crash => exact h

theorem Recalls.call (h : s.Recalls earlier s') (result : Completion SimulatedError Unit) :
    (s'.call result).1 = (s.call result).1 ∧ (s.call result).2.Recalls earlier (s'.call result).2 := by
  have hlock := Circuit.lockstep_recalling earlier
  obtain ⟨hpermit, hb⟩ := hlock.acquire h.breaker s.clock.mono
  unfold Simulation.call
  rw [h.clock]
  generalize s.breaker.acquire s.clock.mono = acquired at hpermit hb
  generalize s'.breaker.acquire s.clock.mono = acquired' at hpermit hb
  obtain ⟨permit?, b⟩ := acquired
  obtain ⟨permit?', b'⟩ := acquired'
  obtain rfl : permit?' = permit? := hpermit
  cases permit?' with
  | none => exact ⟨rfl, hb, rfl⟩
  | some permit =>
    change b.Like _ b' at hb
    obtain ⟨houtcome, hb⟩ := hlock.settle hb (rfl : s.clock = s.clock) permit result fun _ => trivial
    dsimp only
    rw [houtcome]
    refine ⟨rfl, Recalls.note ?_ _⟩
    exact ⟨hb, rfl⟩

theorem Recalls.act (h : s.Recalls earlier s') (interval : Duration) (action : Action) :
    (s'.act interval action).1 = (s.act interval action).1 ∧
      (s.act interval action).2.Recalls earlier (s'.act interval action).2 := by
  have hcall (result : Completion SimulatedError Unit) :
      (s'.call result).1.map some = (s.call result).1.map some ∧
        (s.call result).2.Recalls earlier (s'.call result).2 :=
    ⟨congrArg (Except.map some) (h.call result).1, (h.call result).2⟩
  have hopening : s'.opening = s.opening := by rw [Simulation.opening, Simulation.opening, h.clock]
  cases action with
  | succeed => exact hcall (.value ())
  | fail => exact hcall (.failure .outage)
  | invalidRequest => exact hcall (.failure .invalidRequest)
  | wait => exact ⟨rfl, h.breaker, congrArg (·.advance interval) h.clock⟩
  | trip =>
    refine ⟨hopening, h.onCircuit ?_⟩
    rw [h.clock]
    exact Circuit.trip_recalling earlier _ s.clock
  | hardTrip =>
    refine ⟨hopening, h.onCircuit ?_⟩
    rw [h.clock]
    exact Circuit.hardTrip_recalling earlier _ s.clock
  | reset => exact ⟨rfl, h.onCircuit rfl⟩

theorem Recalls.stats (h : s.Recalls earlier s') : s'.stats = s.stats := by
  rw [Simulation.stats, Simulation.stats, h.clock, h.breaker.circuit]
  rfl

theorem Recalls.step (h : s.Recalls earlier s') (interval : Duration) (number : Nat) (action : Action) :
    (s'.step interval number action).1 = (s.step interval number action).1 ∧
      (s.step interval number action).2.Recalls earlier (s'.step interval number action).2 := by
  obtain ⟨hresult, hafter⟩ := h.act interval action
  refine ⟨?_, hafter⟩
  unfold Simulation.step
  dsimp only
  rw [hresult, hafter.stats]

theorem Recalls.log (h : s.Recalls earlier s') :
    s'.breaker.circuit.log = earlier.reverse ++ s.breaker.circuit.log := by
  rw [Circuit.log, h.breaker.circuit]
  exact List.reverse_append

theorem Recalls.resume (h : s.Recalls earlier s') (now : Clock) :
    (s.resume now).Recalls s'.breaker.circuit.journal { s' with clock := now } := by
  refine ⟨⟨?_, h.breaker.classifiers, h.breaker.installed⟩, rfl⟩
  rw [h.breaker.circuit]
  rfl

def clockAfter (s : Simulation) (interval : Duration) (action : Action) : Clock :=
  if action = .wait then s.clock.advance interval else s.clock

theorem step_eq (s : Simulation) (interval : Duration) (number : Nat) (action : Action) :
    s.step interval number action = { s with clock := s.clockAfter interval action }.step .zero number action := by
  cases action with
  | wait =>
    have hzero (now : Clock) : now.advance .zero = now := by simp [Clock.advance, Clock.shift, Duration.zero]
    simp [step, act, clockAfter, hzero]
  | _ => rfl

theorem call_clock (s : Simulation) (result : Completion SimulatedError Unit) :
    (s.call result).2.clock = s.clock := by
  unfold call
  split
  · rfl
  · dsimp only
    generalize Breaker.settle _ _ _ _ = settled
    obtain ⟨outcome, b⟩ := settled
    cases outcome <;> rfl

theorem act_clock (s : Simulation) (interval : Duration) (action : Action) :
    (s.act interval action).2.clock = s.clockAfter interval action := by
  cases action with
  | succeed => exact s.call_clock (.value ())
  | fail => exact s.call_clock (.failure .outage)
  | invalidRequest => exact s.call_clock (.failure .invalidRequest)
  | wait | trip | hardTrip | reset => rfl

end Simulation

structure Stage where
  clock : Clock
  log : List Event := []

/-- Surroundings in which time passes only while waiting. -/
def Surroundings.staged : Surroundings (StateM Stage) where
  pause d := modify fun stage => { stage with clock := stage.clock.advance d }
  clock := return (← get).clock
  putLog events := modify fun stage => { stage with log := stage.log ++ events }

def Simulation.stage (s : Simulation) : Stage := ⟨s.clock, s.breaker.circuit.log⟩

namespace Simulation

variable {s s' : Simulation} {interval : Duration} {earlier : List Event}

theorem turn_staged {now : Clock} (s s' : Simulation) (number : Nat) (action : Action)
    (hnow : s'.clockAfter interval action = now) :
    (s.turn .staged interval number action).run s'.stage =
      ((s.resume now).step .zero number action,
        ⟨now, s'.breaker.circuit.log ++ ((s.resume now).step .zero number action).2.breaker.circuit.log⟩) := by
  subst hnow
  unfold turn clockAfter
  by_cases hw : action = .wait
  · subst hw
    rfl
  · simp only [if_neg hw]
    rfl

theorem drive_staged (number : Nat) (script : Script) (h : s.Recalls earlier s') :
    (s.drive .staged interval number script).run s'.stage =
      ((s'.runFrom interval number script).1, (s'.runFrom interval number script).2.stage) := by
  -- The stage shows the whole log, and the driven circuit has that of its latest turn.
  induction script generalizing s s' earlier number with
  | nil => rfl
  | cons action script ih =>
    obtain ⟨now, hnow⟩ : ∃ now, s'.clockAfter interval action = now := ⟨_, rfl⟩
    have hafter := (h.resume now).step .zero number action
    have hclock : (s'.step interval number action).2.clock = now := (s'.act_clock interval action).trans hnow
    rw [← hnow, ← step_eq, hnow] at hafter
    rw [drive, StateT.run_bind, turn_staged s s' number action hnow, runFrom]
    generalize (s.resume now).step .zero number action = turn at hafter
    generalize s'.step interval number action = turn' at hafter hclock
    obtain ⟨report, driven⟩ := turn
    obtain ⟨report', last⟩ := turn'
    obtain ⟨hreport, hrecalls⟩ := hafter
    obtain rfl : report' = report := hreport
    have hstage : ⟨now, s'.breaker.circuit.log ++ driven.breaker.circuit.log⟩ = last.stage :=
      (congrArg₂ Stage.mk hclock hrecalls.log).symm
    dsimp only
    rw [hstage]
    cases report' with
    | error text => rfl
    | ok report =>
      change (Except.map _ ((driven.drive .staged interval (number + 1) script).run last.stage).1,
        ((driven.drive .staged interval (number + 1) script).run last.stage).2) = _
      rw [ih (number + 1) hrecalls]

end Simulation

namespace Program

open Simulation

theorem performLive_staged (clock : Clock) (job : Job) :
    ((performLive .staged job).run ⟨clock, []⟩).1 = (perform clock job).ending ∧
      ((performLive .staged job).run ⟨clock, []⟩).2.log = (perform clock job).events := by
  cases job with
  | printSettings s => exact ⟨rfl, rfl⟩
  | simulate d =>
    let s := Simulation.ofSettings d.settings clock
    have hrecalls : s.Recalls [] s := ⟨⟨rfl, rfl, rfl⟩, rfl⟩
    have hdrive : (s.drive .staged d.interval 1 d.script).run ⟨clock, []⟩ = _ := drive_staged 1 d.script hrecalls
    change endingOf d.json ((s.drive .staged d.interval 1 d.script).run ⟨clock, []⟩).1 = _ ∧
      ((s.drive .staged d.interval 1 d.script).run ⟨clock, []⟩).2.log = _
    rw [hdrive]
    exact ⟨rfl, rfl⟩

end Program

end CircuitBreaker
