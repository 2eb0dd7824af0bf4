import CircuitBreaker.Proofs.Health
import CircuitBreaker.Proofs.Hearing

namespace CircuitBreaker

variable {ε α : Type}

namespace Answer

def refusal : Answer ε α → Bool
  | .settled .rejected _ _ => true
  | _ => false

def started : Answer ε α → Bool
  | .settled _ ran _ => ran
  | .pending => true
  | .done | .created | .dropped | .noSuchCall | .crashed _ | .raced _ => false

end Answer

def Completion.outcome {β : Type} (deliver : α → β) : Completion ε α → Outcome ε β
  | value v => .value (deliver v)
  | failure error => .failure error
  | crash text => .crash text

theorem Circuit.exists_cooled (c : Circuit) : ∃ now, c.cooled now = true := by
  unfold cooled
  cases c.lastFailure with
  | none => exact ⟨⟨0⟩, rfl⟩
  | some failed =>
    refine ⟨⟨failed.nanos + c.timeout.toNat * 1000000⟩, decide_eq_true ?_⟩
    unfold Instant.since
    dsimp only
    omega

namespace Breaker

def Alike (b d : Breaker ε) : Prop := ∃ journal, b = { d with circuit := { d.circuit with journal } }

theorem Alike.state {b d : Breaker ε} (h : b.Alike d) : b.circuit.state = d.circuit.state := by
  obtain ⟨j, rfl⟩ := h; rfl

variable {b : Breaker ε} {now : Instant}

theorem refusal_alike (hmark : b.circuit.probeInFlight = true → b.circuit.state = .halfOpen)
    (h : (b.acquire now).1 = none) : (b.acquire now).2.Alike b := by
  rcases b.acquire_cases now with ⟨_, j, ha⟩ | ⟨_, _, ha⟩ | ⟨_, _, hp, j, ha⟩ | ⟨_, _, _, j, ha⟩
  · exact ⟨j, by rw [ha]⟩
  · rw [ha] at h
    cases h
  · exact ⟨j, by rw [ha, ← hmark hp]⟩
  · rw [ha] at h
    cases h

theorem refusal_ripens (hs : b.circuit.state = .opened) (hh : b.circuit.hardTripped = false)
    (hp : b.circuit.probeInFlight = true) (hc : b.circuit.cooled now = true) :
    (b.acquire now).1 = none ∧ (b.acquire now).2.circuit.state = .halfOpen := by
  -- An open circuit with a mark becomes half-open once it has cooled, and only then finds the mark.
  rcases b.acquire_cases now with ⟨hr, _⟩ | ⟨_, hclosed, _⟩ | ⟨_, _, _, j, ha⟩ | ⟨_, _, hp', _⟩
  · rcases hr with hr | hr
    · cases hh.symm.trans hr
    · cases hc.symm.trans hr.2
  · cases hs.symm.trans hclosed
  · rw [ha]
    exact ⟨rfl, rfl⟩
  · cases hp.symm.trans hp'

inductive Unwinds (b : Breaker ε) (now : Clock) : Completion ε α → String → Prop
  | operation (text : String) : b.Unwinds now (.crash text) text
  | classifier {error : ε} {text : String} (h : b.panel.ruling? now.mono error = some (.crash text)) :
      b.Unwinds now (.failure error) text
  | opening {error : ε} {fault : DateFault}
      (h : b.panel.ruling? now.mono error = none ∨ b.panel.ruling? now.mono error = some (.verdict .trip))
      (hf : now.wall.fault? = some fault) : b.Unwinds now (.failure error) fault.message

structure HandsBack {β : Type} (b : Breaker ε) (now : Clock) (deliver : α → β) (result : Completion ε α)
    (outcome : Outcome ε β) : Prop where
  crashed : ∀ text, outcome = .crash text ↔ b.Unwinds now result text
  kept : (¬ ∃ text, b.Unwinds now result text) → outcome = result.outcome deliver

section HandsBack

variable {β : Type} {b : Breaker ε} {now : Clock} {deliver : α → β} {result : Completion ε α} {text text' : String}

theorem Unwinds.unique (h : b.Unwinds now result text) (h' : b.Unwinds now result text') : text = text' := by
  cases h with
  | operation =>
    cases h'
    rfl
  | classifier h =>
    cases h' with
    | classifier h' =>
      cases h.symm.trans h'
      rfl
    | opening h' => simp [h] at h'
  | opening h hf =>
    cases h' with
    | classifier h' => simp [h'] at h
    | opening _ hf' =>
      cases hf.symm.trans hf'
      rfl

theorem handsBack_crash (h : b.Unwinds now result text) : b.HandsBack now deliver result (.crash text) := by
  refine ⟨fun other => ⟨fun hother => ?_, fun hother => ?_⟩, fun hcalm => absurd ⟨text, h⟩ hcalm⟩
  · cases hother
    exact h
  · rw [h.unique hother]

theorem handsBack_calm (h : ¬ ∃ text, b.Unwinds now result text) :
    b.HandsBack now deliver result (result.outcome deliver) := by
  refine ⟨fun text => ⟨fun hcrash => ?_, fun hunwinds => absurd ⟨text, hunwinds⟩ h⟩, fun _ => rfl⟩
  cases result with
  | value | failure => cases hcrash
  | crash text => exact absurd ⟨text, .operation text⟩ h

end HandsBack

theorem handsBack_settle {β : Type} (b : Breaker ε) (now : Clock) (permit : Permit) (deliver : α → β)
    (result : Completion ε α) : b.HandsBack now deliver result ((b.settle now permit result).1.map deliver) := by
  rw [settle_outcome]
  cases result with
  | value v =>
    apply handsBack_calm
    rintro ⟨text, h⟩
    cases h
  | crash text => exact handsBack_crash (.operation text)
  | failure error =>
    rw [assess_failure_eq]
    match hr : b.panel.ruling? now.mono error with
    | some (.crash text) => exact handsBack_crash (.classifier hr)
    | some (.verdict .passThrough) | some .ignored =>
      apply handsBack_calm
      rintro ⟨text, h⟩
      cases h with
      | classifier h => simp [hr] at h
      | opening h => simp [hr] at h
    | none | some (.verdict .trip) =>
      change b.HandsBack now deliver _ (((Outcome.failure error).afterOpening now).map deliver)
      unfold Outcome.afterOpening
      cases hf : now.wall.fault? with
      | none =>
        apply handsBack_calm
        rintro ⟨text, h⟩
        cases h with
        | classifier h => simp [hr] at h
        | opening _ h => cases hf.symm.trans h
      | some fault => exact handsBack_crash (.opening (by simp [hr]) hf)

theorem settle_ne_rejected (b : Breaker ε) (now : Clock) (permit : Permit) (result : Completion ε α) :
    (b.settle now permit result).1 ≠ .rejected := by
  rw [settle_outcome]
  cases (b.assess now.mono result).1 with
  | success | nonTripping | crash => nofun
  | tripping error =>
    unfold Assessment.outcome Outcome.afterOpening
    dsimp only
    split <;> nofun

end Breaker

namespace Session

variable {s y : Session ε} {permit : Permit} {id : Int}

inductive Asks (s : Session ε) : Step ε α → Prop
  | invoke (delivery : Delivery α) (operation : List (Step ε α)) (result : Completion ε α) :
      s.Asks (.invoke delivery operation result)
  | start {id : Int} (h : s.calls.lookup id = none) : s.Asks (.start id)
  | poll {id : Int} (h : s.calls.lookup id = some .fresh) : s.Asks (.poll id)
  | finish {id : Int} (h : s.calls.lookup id = some .fresh) (result : Completion ε α) : s.Asks (.finish id result)

inductive Completes (s : Session ε) : Step ε α → (α → Option α) → Completion ε α → Session ε → Prop
  | invoke {permit : Permit} (h : s.acquire.1 = some permit) (operation : List (Step ε α)) (result : Completion ε α) :
      s.Completes (.invoke .own operation result) some result (s.acquire.2.run operation).2
  | invokeNothing {permit : Permit} (h : s.acquire.1 = some permit) (operation : List (Step ε α))
      (result : Completion ε α) :
      s.Completes (.invoke .nothing operation result) (fun _ => none) result (s.acquire.2.run operation).2
  | invokeFixed {permit : Permit} (h : s.acquire.1 = some permit) (v : α) (operation : List (Step ε α))
      (result : Completion ε α) :
      s.Completes (.invoke (.fixed v) operation result) (fun _ => some v) result (s.acquire.2.run operation).2
  | finishFresh {permit : Permit} {id : Int} (hid : s.calls.lookup id = some .fresh)
      (h : s.acquire.1 = some permit) (result : Completion ε α) : s.Completes (.finish id result) some result s.acquire.2
  | finishRunning {permit : Permit} {id : Int} (hid : s.calls.lookup id = some (.running permit))
      (result : Completion ε α) : s.Completes (.finish id result) some result s

structure Answered (s : Session ε) (call : Step ε α) : Prop where
  refusal_iff : (s.step call).1.refusal = true ↔ (s.step call).1.started = false
  started_eq : (s.step call).1.started = s.acquire.1.isSome
  left : (s.step call).1.started = false → ∃ calls, (s.step call).2 = { s.acquire.2 with calls }

theorem answered_refused {call : Step ε α} {calls : List (Int × Phase)} (ha : s.acquire.1 = none)
    (h : s.step call = (.settled .rejected false [], { s.acquire.2 with calls })) : s.Answered call := by
  refine ⟨?_, ?_, fun _ => ⟨calls, congrArg Prod.snd h⟩⟩
  · simp [h, Answer.refusal, Answer.started]
  · simp [h, ha, Answer.started]

theorem answered_started {call : Step ε α} (ha : s.acquire.1 = some permit)
    (hstarted : (s.step call).1.started = true) (hrefusal : (s.step call).1.refusal = false) : s.Answered call := by
  refine ⟨?_, ?_, fun h => ?_⟩
  · simp [hstarted, hrefusal]
  · simp [hstarted, ha]
  · cases hstarted.symm.trans h

theorem settled_not_refusal (s : Session ε) (permit : Permit) (result : Completion ε α) (deliver : α → Option α)
    (during : List (Report ε (Answer ε α))) :
    (Answer.settled ((s.settle permit result).1.map deliver) true during).refusal = false := by
  have hne : (s.settle permit result).1 ≠ .rejected := s.breaker.settle_ne_rejected s.clock permit result
  cases ho : (s.settle permit result).1 with
  | rejected => exact absurd ho hne
  | value | failure | crash => rfl

theorem answered_poll {call : Step ε α} {result : Option (Completion ε α)} (hcall : s.step call = s.poll id result)
    (hid : s.calls.lookup id = some .fresh) : s.Answered call := by
  cases ha : s.acquire.1 with
  | none => exact answered_refused ha (hcall.trans (poll_refused ha hid result))
  | some permit =>
    rw [poll_admitted ha hid] at hcall
    cases result with
    | none => exact answered_started ha (by rw [hcall]; rfl) (by rw [hcall]; rfl)
    | some result =>
      refine answered_started ha (by rw [hcall]; rfl) ?_
      rw [hcall]
      exact s.acquire.2.settled_not_refusal permit result some []

theorem Asks.answered {call : Step ε α} (h : s.Asks call) : s.Answered call := by
  cases h with
  | invoke delivery operation result =>
    cases ha : s.acquire.1 with
    | none => exact answered_refused ha (invoke_refused ha delivery operation result)
    | some permit =>
      have hstep := invoke_admitted ha delivery operation result
      refine answered_started ha (by rw [hstep]; rfl) ?_
      rw [hstep]
      exact (s.acquire.2.run operation).2.settled_not_refusal permit result delivery.value _
  | start hfree =>
    cases ha : s.acquire.1 with
    | none =>
      obtain ⟨calls, hstart, -⟩ := start_refused (α := α) hfree ha
      exact answered_refused ha (by rw [step]; exact hstart)
    | some permit =>
      obtain ⟨calls, hstart, -⟩ := start_admitted (α := α) hfree ha
      exact answered_started ha (by rw [step, hstart]; rfl) (by rw [step, hstart]; rfl)
  | poll hid => exact answered_poll (by rw [step]) hid
  | finish hid result => exact answered_poll (by rw [step]) hid

theorem Completes.handsBack {call : Step ε α} {deliver : α → Option α} {result : Completion ε α}
    (h : s.Completes call deliver result y) :
    ∃ outcome during, (s.step call).1 = .settled outcome true during ∧
      y.breaker.HandsBack y.clock deliver result outcome := by
  cases h with
  | invoke h | invokeNothing h | invokeFixed h =>
    rw [invoke_admitted h]
    exact ⟨_, _, rfl, Breaker.handsBack_settle ..⟩
  | finishFresh hid h =>
    rw [step, poll_admitted h hid]
    exact ⟨_, _, rfl, Breaker.handsBack_settle ..⟩
  | finishRunning hid =>
    rw [step, finish_running hid]
    exact ⟨_, _, rfl, Breaker.handsBack_settle ..⟩

end Session

namespace Traffic

theorem rejection_alike_iff (s : Setup ε) (ms : List (Move ε α)) :
    ((∀ p, p <+: ms → ∀ x : Session ε, x.breaker = ((start s).run p).breaker → ∀ call : Step ε α, x.Asks call →
        (x.step call).1.refusal = true → (x.step call).2.breaker.Alike x.breaker) ↔
      ∀ p m, p ++ [m] <+: ms → ¬ ((start s).run p).LeavesMark m) ∧
    (∀ (x : Session ε) (call : Step ε α), x.Asks call → x.Answered call) ∧
    ∀ (x y : Session ε) (call : Step ε α) (deliver : α → Option α) (result : Completion ε α),
      x.Completes call deliver result y →
        ∃ outcome during, (x.step call).1 = .settled outcome true during ∧
          y.breaker.HandsBack y.clock deliver result outcome := by
  refine ⟨⟨fun h p m hp hleave => ?_, fun h p hp x hx call hcall hrefusal => ?_⟩,
    fun _ _ hcall => hcall.answered, fun _ _ _ _ _ hcompletes => hcompletes.handsBack⟩
  · -- The call that comes once the open circuit has cooled is rejected, and makes it half-open.
    obtain ⟨hstate, hfree, hmark⟩ := hleave.move (run_tidy s p) (run_sound s p)
    rw [← run_concat] at hstate hfree hmark
    obtain ⟨now, hcool⟩ := ((start s).run (p ++ [m])).circuit.exists_cooled
    obtain ⟨hnone, hripe⟩ := Breaker.refusal_ripens hstate hfree hmark hcool
    let x : Session ε := { breaker := ((start s).run (p ++ [m])).breaker, clock := ⟨now, s.clock.wall⟩ }
    have hstep := Session.invoke_refused (s := x) hnone .own [] (.crash "" : Completion ε α)
    have halike := h (p ++ [m]) hp x rfl _ (.invoke .own [] (.crash "")) (by rw [hstep]; rfl)
    rw [hstep] at halike
    cases hripe.symm.trans (halike.state.trans hstate)
  · have hanswered := hcall.answered
    have hstarted := hanswered.refusal_iff.mp hrefusal
    have hnone : x.acquire.1 = none := by simpa using hanswered.started_eq.symm.trans hstarted
    have hmark : x.breaker.circuit.probeInFlight = true → x.breaker.circuit.state = .halfOpen := by
      rw [hx]
      exact marked_run h p hp
    obtain ⟨calls, hleft⟩ := hanswered.left hstarted
    rw [hleft]
    exact Breaker.refusal_alike hmark hnone

theorem rejection_half_opens :
    let t := (start plain).run [(.trip : Move Unit Unit), .shift 100000000 100000000, .enter,
      .shift 0 (-100000001), .trip, .shift 100000000 100000001]
    let x : Session Unit := { breaker := t.breaker, clock := t.clock, calls := [(0, .running ⟨true⟩)] }
    let call : Step Unit Unit := .invoke .own [] (.value ())
    (x.step call).1.refusal = true ∧ x.breaker.circuit.state = .opened ∧
      (x.step call).2.breaker.circuit.state = .halfOpen ∧ ¬ (x.step call).2.breaker.Alike x.breaker := by
  intro t x call
  have hstate : x.breaker.circuit.state = .opened := by decide
  have hripe : (x.step call).2.breaker.circuit.state = .halfOpen := by decide
  exact ⟨by decide, hstate, hripe, fun h => absurd (hripe.symm.trans (h.state.trans hstate)) (by decide)⟩

end Traffic

end CircuitBreaker
