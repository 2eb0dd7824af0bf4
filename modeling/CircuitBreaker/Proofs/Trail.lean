import CircuitBreaker.Proofs.Session

namespace CircuitBreaker

variable {ε α : Type}

/-- What can be seen after a step: the answer to it, without the reports of what the operation did, the
breaker and the clock. -/
structure Moment (ε α : Type) where
  answer : Answer ε α
  breaker : Breaker ε
  clock : Clock

def Answer.bare : Answer ε α → Answer ε α
  | .settled outcome ran _ => .settled outcome ran []
  | answer => answer

mutual

def Answer.during : Answer ε α → List (Moment ε α)
  | .settled _ _ reports => trail reports
  | .done | .created | .pending | .dropped | .noSuchCall | .crashed _ | .raced _ => []

def trail : List (Report ε (Answer ε α)) → List (Moment ε α)
  | [] => []
  | ⟨answer, breaker, clock, _⟩ :: reports => answer.during ++ ⟨answer.bare, breaker, clock⟩ :: trail reports

end

mutual

def Step.numbers : Step ε α → List Int
  | .create id | .start id | .poll id | .finish id _ | .drop id => [id]
  | .invoke _ operation _ => numbersOf operation
  | .shift .. | .trip | .hardTrip | .reset | .setTimeout _ | .install _ | .look | .race .. => []

def numbersOf : List (Step ε α) → List Int
  | [] => []
  | step :: steps => step.numbers ++ numbersOf steps

end

namespace Session

def next (s : Session ε) (step : Step ε α) : Session ε :=
  ((s.step step).2.report (s.step step).1 []).2

def moments (s : Session ε) (step : Step ε α) : List (Moment ε α) :=
  (s.step step).1.during ++ [⟨(s.step step).1.bare, (s.step step).2.breaker, (s.step step).2.clock⟩]

theorem run_cons (s : Session ε) (step : Step ε α) (steps : List (Step ε α)) :
    (s.run (step :: steps)).2 = ((s.next step).run steps).2 := by
  rw [run]
  rfl

theorem trail_run_cons (s : Session ε) (step : Step ε α) (steps : List (Step ε α)) :
    trail (s.run (step :: steps)).1 = s.moments step ++ trail ((s.next step).run steps).1 := by
  rw [run, moments, List.append_assoc]
  rfl

theorem acquire_eq (s : Session ε) : s.acquire =
    ((s.breaker.acquire s.clock.mono).1, { s with breaker := (s.breaker.acquire s.clock.mono).2 }) := rfl

theorem settle_eq (s : Session ε) (permit : Permit) (result : Completion ε α) : s.settle permit result =
    ((s.breaker.settle s.clock permit result).1,
      { s with breaker := (s.breaker.settle s.clock permit result).2 }) := rfl

variable {s : Session ε} {id other : Int}

/-! Only an invoked operation takes steps while its call is answered. -/

theorem afterOpening_during {answer : Answer ε α} (h : answer.during = []) :
    (s.afterOpening answer).during = [] := by
  unfold afterOpening
  split
  · exact h
  · rfl

theorem afterAbandoning_during {answer : Answer ε α} (h : answer.during = []) (phase : Phase) :
    (s.afterAbandoning answer phase).during = [] := by
  cases phase with
  | fresh => exact h
  | running permit => exact afterOpening_during h

theorem create_during (s : Session ε) (id : Int) : (s.create id : Answer ε α × Session ε).1.during = [] := by
  unfold create
  split
  · rfl
  · exact afterAbandoning_during rfl _

theorem drop_during (s : Session ε) (id : Int) : (s.drop id : Answer ε α × Session ε).1.during = [] := by
  unfold drop
  split
  · rfl
  · exact afterAbandoning_during rfl _

theorem progress_during (s : Session ε) (id : Int) (permit : Permit) (result : Option (Completion ε α)) :
    (s.progress id permit result).1.during = [] := by
  cases result <;> rfl

theorem poll_during (s : Session ε) (id : Int) (result : Option (Completion ε α)) :
    (s.poll id result).1.during = [] := by
  unfold poll
  split
  · rfl
  · exact progress_during s id _ result
  · split
    · rfl
    · exact progress_during _ id _ result

theorem start_during (s : Session ε) (id : Int) : (s.start id : Answer ε α × Session ε).1.during = [] := by
  unfold start
  split
  · rfl
  · exact poll_during _ id none

/-! A step leaves the calls alone that it does not name. -/

@[simp] theorem abandon_calls (s : Session ε) (phase : Phase) : (s.abandon phase).calls = s.calls := by
  cases phase <;> rfl

theorem lookup_create (h : other ≠ id) :
    (s.create id : Answer ε α × Session ε).2.calls.lookup other = s.calls.lookup other := by
  have hhold : (hold id .fresh s.calls).lookup other = s.calls.lookup other := by
    rw [lookup_hold, if_neg h]
  unfold create
  cases s.calls.lookup id with
  | none => exact hhold
  | some phase =>
    dsimp only
    rw [abandon_calls]
    exact hhold

theorem lookup_progress (h : other ≠ id) (permit : Permit) (result : Option (Completion ε α)) :
    (s.progress id permit result).2.calls.lookup other = s.calls.lookup other := by
  cases result with
  | none =>
    unfold progress
    dsimp only
    rw [lookup_hold, if_neg h]
  | some result =>
    unfold progress
    dsimp only
    rw [lookup_forget, if_neg h]
    rfl

theorem lookup_poll (h : other ≠ id) (result : Option (Completion ε α)) :
    (s.poll id result).2.calls.lookup other = s.calls.lookup other := by
  unfold poll
  cases s.calls.lookup id with
  | none => rfl
  | some phase =>
    cases phase with
    | running permit => exact lookup_progress h permit result
    | fresh =>
      dsimp only
      rw [s.acquire_eq]
      cases (s.breaker.acquire s.clock.mono).1 with
      | none =>
        dsimp only
        rw [lookup_forget, if_neg h]
      | some permit => exact lookup_progress h permit result

theorem lookup_start (h : other ≠ id) :
    (s.start id : Answer ε α × Session ε).2.calls.lookup other = s.calls.lookup other := by
  have hcreate := lookup_create (α := α) (s := s) h
  unfold start
  generalize (s.create id : Answer ε α × Session ε) = created at hcreate
  obtain ⟨answer, s'⟩ := created
  cases answer with
  | crashed text => exact hcreate
  | _ => exact (lookup_poll h none).trans hcreate

theorem lookup_drop (h : other ≠ id) :
    (s.drop id : Answer ε α × Session ε).2.calls.lookup other = s.calls.lookup other := by
  unfold drop
  cases s.calls.lookup id with
  | none => rfl
  | some phase =>
    dsimp only
    rw [lookup_forget, if_neg h, abandon_calls]

theorem acquireMany_calls (n : Nat) (s : Session ε) : (acquireMany n s).2.calls = s.calls := by
  induction n generalizing s with
  | zero => rfl
  | succ n ih =>
    rw [acquireMany]
    exact ih s.acquire.2

theorem acquireMany_clock (n : Nat) (s : Session ε) : (acquireMany n s).2.clock = s.clock := by
  induction n generalizing s with
  | zero => rfl
  | succ n ih => exact ih s.acquire.2

theorem settleMany_calls (result : Completion ε α) (permits : List Permit) (tally : Tally) (s : Session ε) :
    (settleMany result permits tally s).2.calls = s.calls := by
  induction permits generalizing tally s with
  | nil => rfl
  | cons permit permits ih =>
    rw [settleMany]
    exact ih _ (s.settle permit result).2

theorem race_calls (s : Session ε) (callers : Nat) (result : Completion ε α) :
    (s.race callers result).2.calls = s.calls := by
  unfold race
  dsimp only
  rw [settleMany_calls, acquireMany_calls]

mutual

theorem lookup_step (s : Session ε) (other : Int) : ∀ step : Step ε α, other ∉ step.numbers →
    (s.step step).2.calls.lookup other = s.calls.lookup other
  | .shift .., _ | .trip, _ | .hardTrip, _ | .reset, _ | .setTimeout _, _ | .install _, _ | .look, _ => rfl
  | .invoke delivery operation result, h => by
    rw [step, s.acquire_eq]
    cases (s.breaker.acquire s.clock.mono).1 with
    | none => rfl
    | some permit => exact lookup_run _ other operation h
  | .create id, h => lookup_create (List.ne_of_not_mem_cons h)
  | .start id, h => lookup_start (List.ne_of_not_mem_cons h)
  | .poll id, h => lookup_poll (List.ne_of_not_mem_cons h) none
  | .finish id result, h => lookup_poll (List.ne_of_not_mem_cons h) (some result)
  | .drop id, h => lookup_drop (List.ne_of_not_mem_cons h)
  | .race callers result, _ => congrArg (List.lookup other) (s.race_calls callers result)

theorem lookup_run (s : Session ε) (other : Int) : ∀ steps : List (Step ε α), other ∉ numbersOf steps →
    (s.run steps).2.calls.lookup other = s.calls.lookup other
  | [], _ => rfl
  | step :: steps, h => by
    rw [numbersOf, List.mem_append, not_or] at h
    rw [run_cons, lookup_run _ other steps h.2]
    exact lookup_step s other step h.1

end

end Session

end CircuitBreaker
