import CircuitBreaker.Proofs.History
import CircuitBreaker.Proofs.Opening

namespace CircuitBreaker

namespace Circuit

variable {c : Circuit} {now : Instant}

theorem healthy_iff : c.health now = .healthy ↔ c.state = .closed := by
  unfold health
  cases c.state with
  | closed | halfOpen => simp
  | opened =>
    simp only [reduceCtorEq, iff_false]
    split <;> exact Health.noConfusion

theorem unavailable_iff : c.health now = .unavailable ↔
    c.state = .opened ∧ (c.hardTripped = true ∨ c.cooled now = false) := by
  unfold health
  cases c.state with
  | closed | halfOpen => simp
  | opened => cases c.hardTripped <;> simp

theorem succeed_alike (hh : c.hardTripped = false) :
    c.succeed.Alike { c with state := .closed, hardTripped := false, probeInFlight := false } := by
  obtain ⟨name, timeout, state, failure, time, mark, hard, count, journal⟩ := c
  obtain rfl : hard = false := hh
  unfold succeed
  dsimp only
  by_cases hs : state = .closed
  · rw [if_pos (.inr hs)]
    exact ⟨journal, by rw [hs]⟩
  · rw [if_neg (by simp [hs])]
    exact ⟨_ :: journal, rfl⟩

end Circuit

namespace Breaker

structure Simulated (b : Breaker SimulatedError) : Prop where
  classifiers : b.classifiers = [("simulated", .rule fun e => .ok e.verdict)]
  installed : b.installed = some "simulated"

theorem Simulated.assess {b : Breaker SimulatedError} (h : b.Simulated) (now : Instant) (e : SimulatedError) :
    b.assess now (.failure e : Completion SimulatedError Unit) = ((Ruling.verdict e.verdict).assess e, b) := by
  obtain ⟨hc, hi⟩ := h
  obtain ⟨circuit, classifiers, installed⟩ := b
  obtain rfl : classifiers = _ := hc
  obtain rfl : installed = _ := hi
  rfl

end Breaker

namespace Simulation

variable {settings : Settings} {start : Clock} {interval : Duration} {h : History} {s s' : Simulation}
  {r : Turn}

def circuit (s : Simulation) : Circuit := s.breaker.circuit

@[simp] theorem onCircuit_circuit (s : Simulation) (f : Circuit → Circuit) :
    (s.onCircuit f).circuit = f s.circuit := rfl

@[simp] theorem onCircuit_clock (s : Simulation) (f : Circuit → Circuit) : (s.onCircuit f).clock = s.clock := rfl

structure Matches (settings : Settings) (start : Clock) (interval : Duration) (h : History) (s : Simulation) :
    Prop where
  classifiers : s.breaker.classifiers = (ofSettings settings start).breaker.classifiers
  installed : s.breaker.installed = (ofSettings settings start).breaker.installed
  clock : s.clock = start.advance ⟨h.waits * interval.nanos⟩
  name : s.circuit.name = settings.name
  timeout : s.circuit.timeout = settings.resetTimeout.millis
  locked : s.circuit.hardTripped = true ↔ h.Locked
  held : s.circuit.hardTripped = true → s.circuit.state = .opened
  unmarked : s.circuit.probeInFlight = false
  tripped : s.circuit.state ≠ .closed ↔ h.Tripped
  passed : s.circuit.state ≠ .closed → (s.circuit.state = .halfOpen ↔ h.Passed)
  within : ∀ time, h.TrippedWithin interval time ↔ s.circuit.state ≠ .closed ∧
    ∃ failed, s.circuit.lastFailure = some failed ∧ s.clock.mono.since failed < time
  past : ∀ failed, s.circuit.lastFailure = some failed → failed.nanos ≤ s.clock.mono.nanos
  cooled : s.circuit.state = .halfOpen → s.circuit.cooled s.clock.mono = true
  openCount : s.circuit.openCount = .ofNat h.openings
  time : ∀ time, s.circuit.lastFailureTime = some time ↔ h.OpenedAt interval s.clock.wall.nanos time.nanos

structure Alike (s' s : Simulation) : Prop where
  circuit : s'.circuit.Alike s.circuit
  clock : s'.clock = s.clock
  classifiers : s'.breaker.classifiers = s.breaker.classifiers
  installed : s'.breaker.installed = s.breaker.installed

theorem Matches.alike (hm : s.Matches settings start interval h) (ha : s'.Alike s) :
    s'.Matches settings start interval h := by
  obtain ⟨⟨journal, hc⟩, hclock, hclassifiers, hinstalled⟩ := ha
  constructor
  · rw [hclassifiers, hm.classifiers]
  · rw [hinstalled, hm.installed]
  · rw [hclock, hm.clock]
  all_goals rw [hc]
  · exact hm.name
  · exact hm.timeout
  · exact hm.locked
  · exact hm.held
  · exact hm.unmarked
  · exact hm.tripped
  · exact hm.passed
  · rw [hclock]; exact hm.within
  · rw [hclock]; exact hm.past
  · rw [hclock]; exact hm.cooled
  · exact hm.openCount
  · rw [hclock]; exact hm.time

/-! What each kind of report makes of a simulation that its history matches. -/

theorem Matches.opening (hm : s.Matches settings start interval h) (hard : Bool) (ho : r.opens = true)
    (hc : r.closes = false) (hp : r.passes = false) (hw : r.action ≠ .wait)
    (hh : r.action = .hardTrip ↔ hard = true) :
    (s.onCircuit fun c => { c.failAt s.clock with hardTripped := hard || c.hardTripped }).Matches settings start
      interval (h ++ [r]) := by
  have hreset : r.action ≠ .reset := by
    intro hr
    simp [Turn.closes, hr] at hc
  have hzero : s.clock.mono.since s.clock.mono = 0 := by simp [Instant.since]
  constructor
  · exact hm.classifiers
  · exact hm.installed
  · rw [History.waits_concat, if_neg hw]
    exact hm.clock
  · exact hm.name
  · exact hm.timeout
  · rw [History.locked_concat, hh, ← hm.locked]
    simp [hreset]
  · exact fun _ => rfl
  · rfl
  · rw [History.tripped_concat]
    exact ⟨fun _ => .inl ho, fun _ => State.noConfusion⟩
  · intro _
    rw [History.passed_concat, hp, ho]
    exact ⟨(nomatch ·), by simp⟩
  · intro time
    rw [History.trippedWithin_concat, ho, hc, if_neg hw, hm.within]
    constructor
    · intro ht
      refine ⟨State.noConfusion, s.clock.mono, rfl, ?_⟩
      change s.clock.mono.since s.clock.mono < time
      rw [hzero]
      rcases ht with ⟨-, hpos⟩ | ⟨⟨-, failed, -, hlt⟩, -⟩
      · exact hpos
      · omega
    · rintro ⟨-, failed, ⟨⟩, hlt⟩
      exact .inl ⟨rfl, Nat.zero_lt_of_lt hlt⟩
  · rintro failed ⟨⟩
    exact Int.le_refl _
  · exact (nomatch ·)
  · rw [History.openings_concat, if_pos ho]
    change s.circuit.openCount + 1 = _
    rw [hm.openCount]
    simp
  · intro time
    rw [History.openedAt_concat, ho, if_neg hw]
    change some s.clock.wall = some time ↔ _
    rw [onCircuit_clock]
    generalize s.clock.wall = wall
    obtain ⟨wall⟩ := wall
    obtain ⟨nanos⟩ := time
    simp [eq_comm]

theorem Matches.closing (hm : s.Matches settings start interval h) (ho : r.opens = false) (hc : r.closes = true)
    (hw : r.action ≠ .wait) (hh : r.action ≠ .hardTrip)
    (hfree : r.action = .reset ∨ s.circuit.hardTripped = false) :
    (s.onCircuit fun c => { c with state := .closed, hardTripped := false, probeInFlight := false }).Matches settings
      start interval (h ++ [r]) := by
  constructor
  · exact hm.classifiers
  · exact hm.installed
  · rw [History.waits_concat, if_neg hw]
    exact hm.clock
  · exact hm.name
  · exact hm.timeout
  · rw [History.locked_concat, ← hm.locked]
    refine ⟨(nomatch ·), ?_⟩
    rintro (hhard | ⟨hlocked, hreset⟩)
    · exact absurd hhard hh
    · have hunlocked := hfree.resolve_left hreset
      rw [hlocked] at hunlocked
      cases hunlocked
  · exact (nomatch ·)
  · rfl
  · rw [History.tripped_concat, ho, hc]
    exact ⟨fun hs => absurd rfl hs, by simp⟩
  · exact fun hs => absurd rfl hs
  · intro time
    rw [History.trippedWithin_concat, ho, hc]
    exact ⟨by simp, fun hs => absurd rfl hs.1⟩
  · exact hm.past
  · exact (nomatch ·)
  · rw [History.openings_concat, ho]
    exact hm.openCount
  · intro time
    rw [History.openedAt_concat, ho, if_neg hw]
    simpa using hm.time time

theorem Matches.quiet (hm : s.Matches settings start interval h) (ho : r.opens = false) (hc : r.closes = false)
    (hw : r.action ≠ .wait) (hh : r.action ≠ .hardTrip) (hp : r.passes = true → s.circuit.state = .closed) :
    s.Matches settings start interval (h ++ [r]) := by
  have hreset : r.action ≠ .reset := by
    intro hr
    simp [Turn.closes, hr] at hc
  constructor
  · exact hm.classifiers
  · exact hm.installed
  · rw [History.waits_concat, if_neg hw]
    exact hm.clock
  · exact hm.name
  · exact hm.timeout
  · rw [History.locked_concat, hm.locked]
    simp [hh, hreset]
  · exact hm.held
  · exact hm.unmarked
  · rw [History.tripped_concat, ho, hc, hm.tripped]
    simp
  · intro hs
    have hnot : r.passes ≠ true := fun hpass => hs (hp hpass)
    rw [History.passed_concat, ho, hc, hm.passed hs]
    simp [hnot]
  · intro time
    rw [History.trippedWithin_concat, ho, hc, if_neg hw]
    simpa using hm.within time
  · exact hm.past
  · exact hm.cooled
  · rw [History.openings_concat, ho]
    exact hm.openCount
  · intro time
    rw [History.openedAt_concat, ho, if_neg hw]
    simpa using hm.time time

theorem Matches.probing (hm : s.Matches settings start interval h) (ho : r.opens = false) (hc : r.closes = false)
    (hp : r.passes = true) (hw : r.action ≠ .wait) (hh : r.action ≠ .hardTrip)
    (hfree : s.circuit.hardTripped = false) (hripe : s.circuit.Ripe s.clock.mono) :
    (s.onCircuit fun c => { c with state := .halfOpen }).Matches settings start interval (h ++ [r]) := by
  have hreset : r.action ≠ .reset := by
    intro hr
    simp [Turn.closes, hr] at hc
  have hcooled : s.circuit.cooled s.clock.mono = true := by
    rcases hripe with hs | ⟨-, hcooled⟩
    · exact hm.cooled hs
    · exact hcooled
  have hstate := hripe.not_closed
  constructor
  · exact hm.classifiers
  · exact hm.installed
  · rw [History.waits_concat, if_neg hw]
    exact hm.clock
  · exact hm.name
  · exact hm.timeout
  · rw [History.locked_concat, ← hm.locked]
    simp [hh, hreset]
  · intro hlocked
    have hheld : s.circuit.hardTripped = true := hlocked
    rw [hfree] at hheld
    cases hheld
  · exact hm.unmarked
  · rw [History.tripped_concat, ho, hc, ← hm.tripped]
    exact ⟨fun _ => .inr ⟨hstate, rfl⟩, fun _ => State.noConfusion⟩
  · intro _
    rw [History.passed_concat, hp]
    exact ⟨fun _ => .inl rfl, fun _ => rfl⟩
  · intro time
    rw [History.trippedWithin_concat, ho, hc, if_neg hw, Nat.sub_zero, hm.within]
    constructor
    · rintro (⟨hf, -⟩ | ⟨⟨-, hlt⟩, -⟩)
      · cases hf
      · exact ⟨State.noConfusion, hlt⟩
    · rintro ⟨-, hlt⟩
      exact .inr ⟨⟨hstate, hlt⟩, rfl⟩
  · exact hm.past
  · exact fun _ => hcooled
  · rw [History.openings_concat, ho]
    exact hm.openCount
  · intro time
    rw [History.openedAt_concat, ho, if_neg hw]
    simpa using hm.time time

theorem since_advance {now failed : Instant} (hpast : failed.nanos ≤ now.nanos) (d : Nat) :
    (Instant.mk (now.nanos + d)).since failed = now.since failed + d := by
  simp only [Instant.since]
  omega

theorem Matches.waiting (hm : s.Matches settings start interval h) (hr : r.action = .wait) :
    ({ s with clock := s.clock.advance interval } : Simulation).Matches settings start interval (h ++ [r]) := by
  have ho : r.opens = false := by simp [Turn.opens, hr]
  have hc : r.closes = false := by simp [Turn.closes, hr]
  have hp : r.passes = false := by simp [Turn.passes, hr]
  have hsince (failed : Instant) (hf : s.circuit.lastFailure = some failed) :
      (s.clock.advance interval).mono.since failed = s.clock.mono.since failed + interval.nanos :=
    since_advance (hm.past failed hf) interval.nanos
  constructor
  · exact hm.classifiers
  · exact hm.installed
  · rw [History.waits_concat, if_pos hr, hm.clock]
    simp [Clock.advance, Clock.shift, Nat.add_mul, Int.add_assoc]
  · exact hm.name
  · exact hm.timeout
  · rw [History.locked_concat, hr, ← hm.locked]
    simp [circuit]
  · exact hm.held
  · exact hm.unmarked
  · rw [History.tripped_concat, ho, hc, ← hm.tripped]
    simp [circuit]
  · intro hs
    rw [History.passed_concat, ho, hc, hp, ← hm.passed hs]
    simp [circuit]
  · intro time
    rw [History.trippedWithin_concat, ho, hc, if_pos hr, hm.within]
    constructor
    · rintro (⟨hf, -⟩ | ⟨⟨hs, failed, hf, hlt⟩, -⟩)
      · cases hf
      · refine ⟨hs, failed, hf, ?_⟩
        rw [hsince failed hf]
        omega
    · rintro ⟨hs, failed, hf, hlt⟩
      rw [hsince failed hf] at hlt
      exact .inr ⟨⟨hs, failed, hf, by omega⟩, rfl⟩
  · intro failed hf
    have := hm.past failed hf
    simp only [Clock.advance, Clock.shift]
    omega
  · exact fun hs => Circuit.cooled_of_le (hm.cooled hs) (Int.le_add_of_nonneg_right (Int.natCast_nonneg _))
  · rw [History.openings_concat, ho]
    exact hm.openCount
  · intro time
    rw [History.openedAt_concat, ho, if_pos hr]
    have hwall : (s.clock.advance interval).wall.nanos - interval.nanos = s.clock.wall.nanos :=
      Int.add_sub_cancel _ _
    rw [hwall, ← hm.time]
    simp [circuit]

theorem Matches.simulated (hm : s.Matches settings start interval h) : s.breaker.Simulated :=
  ⟨hm.classifiers, hm.installed⟩

theorem call_refused (href : s.circuit.Refuses s.clock.mono) (result : Completion SimulatedError Unit) :
    (s.call result).1 = .ok .rejected ∧ (s.call result).2.Alike s := by
  rcases s.breaker.acquire_cases s.clock.mono with
    ⟨_, j, ha⟩ | ⟨hh, hs, _⟩ | ⟨hh, hr, _⟩ | ⟨hh, hr, _⟩
  · unfold call
    rw [ha]
    exact ⟨rfl, ⟨j, rfl⟩, rfl, rfl, rfl⟩
  all_goals
    rcases href with hhard | ⟨hopened, hcool⟩
    · exact absurd (hhard.symm.trans hh) Bool.noConfusion
  · exact absurd (hopened.symm.trans hs) State.noConfusion
  · exact absurd hr (Circuit.not_ripe_of_cooling hopened hcool)
  · exact absurd hr (Circuit.not_ripe_of_cooling hopened hcool)

theorem note_alike (s : Simulation) (outcome : Outcome SimulatedError Unit) : (s.note outcome).Alike s := by
  cases outcome with
  | failure e => exact ⟨Circuit.alike_emit s.circuit _, rfl, rfl, rfl⟩
  | value | rejected | crash => exact ⟨Circuit.alike_refl _, rfl, rfl, rfl⟩

theorem Alike.trans {s₁ s₂ s₃ : Simulation} (h₁ : s₁.Alike s₂) (h₂ : s₂.Alike s₃) : s₁.Alike s₃ where
  circuit := h₁.circuit.trans h₂.circuit
  clock := h₁.clock.trans h₂.clock
  classifiers := h₁.classifiers.trans h₂.classifiers
  installed := h₁.installed.trans h₂.installed

theorem call_admitted (href : ¬ s.circuit.Refuses s.clock.mono) (hmark : s.circuit.probeInFlight = false)
    (result : Completion SimulatedError Unit) {a : Assessment SimulatedError Unit}
    (hassess : s.breaker.assess s.clock.mono result = (a, s.breaker)) :
    ∃ (permit : Permit) (admitted : Circuit),
      (s.circuit.state = .closed ∧ permit = ⟨false⟩ ∧ admitted = s.circuit ∨
        s.circuit.Ripe s.clock.mono ∧ permit = ⟨true⟩ ∧
          admitted.Alike { s.circuit with state := .halfOpen, probeInFlight := true }) ∧
      (s.call result).1 = callResult (a.outcome s.clock) ∧
      (s.call result).2.Alike (s.onCircuit fun _ => admitted.conclude s.clock permit a) := by
  have hsettle (permit : Permit) (admitted : Circuit)
      (hacquire : s.breaker.acquire s.clock.mono = (some permit, { s.breaker with circuit := admitted })) :
      (s.call result).1 = callResult (a.outcome s.clock) ∧
        (s.call result).2.Alike (s.onCircuit fun _ => admitted.conclude s.clock permit a) := by
    let b : Breaker SimulatedError := { s.breaker with circuit := admitted }
    have ha : (b.assess s.clock.mono result).1 = a := congrArg Prod.fst hassess
    have hclassifiers : (b.assess s.clock.mono result).2.classifiers = s.breaker.classifiers :=
      congrArg (fun x => x.2.classifiers) hassess
    have hcall : s.call result = (callResult (b.settle s.clock permit result).1,
        ({ s with breaker := (b.settle s.clock permit result).2 } : Simulation).note
          (b.settle s.clock permit result).1) := by
      unfold call
      rw [hacquire]
    rw [hcall, b.settle_outcome, ha]
    refine ⟨rfl, (note_alike _ _).trans ⟨?_, rfl, ?_, ?_⟩⟩
    · have hs := b.settle_alike s.clock permit result
      rw [ha] at hs
      exact hs
    · exact (b.settle_classifiers s.clock permit result).trans hclassifiers
    · exact b.settle_installed s.clock permit result
  rcases s.breaker.acquire_cases s.clock.mono with
    ⟨hc, -⟩ | ⟨-, hs, ha⟩ | ⟨-, -, hp, -⟩ | ⟨-, hr, -, j, ha⟩
  · exact absurd hc href
  · exact ⟨⟨false⟩, s.circuit, .inl ⟨hs, rfl, rfl⟩, hsettle _ _ ha⟩
  · exact absurd (hp.symm.trans hmark) Bool.noConfusion
  · exact ⟨⟨true⟩, _, .inr ⟨hr, rfl, ⟨j, rfl⟩⟩, hsettle _ _ ha⟩

theorem Matches.refused (hm : s.Matches settings start interval h) (href : s.circuit.Refuses s.clock.mono)
    (result : Completion SimulatedError Unit) (action : Action) (hcall : action.answer ≠ none) :
    (s.call result).1 = .ok .rejected ∧
      (s.call result).2.Matches settings start interval (h ++ [⟨action, some .rejected⟩]) := by
  obtain ⟨hr, ha⟩ := call_refused href result
  refine ⟨hr, (hm.quiet ?_ ?_ ?_ ?_ ?_).alike ha⟩ <;>
    cases action <;> simp [Turn.opens, Turn.closes, Turn.passes, Action.answer] at hcall ⊢

theorem Matches.succeeding (hm : s.Matches settings start interval h) (href : ¬ s.circuit.Refuses s.clock.mono) :
    (s.call (.value ())).1 = .ok .ok ∧
      (s.call (.value ())).2.Matches settings start interval (h ++ [⟨.succeed, some .ok⟩]) := by
  have hfree : s.circuit.hardTripped = false := Bool.eq_false_iff.mpr fun hh => href (.inl hh)
  obtain ⟨permit, admitted, hadmitted, hr, ha⟩ := call_admitted href hm.unmarked (.value ()) rfl
  have hsucceed : admitted.succeed.Alike
      { s.circuit with state := .closed, hardTripped := false, probeInFlight := false } := by
    rcases hadmitted with ⟨-, -, rfl⟩ | ⟨-, -, halike⟩
    · exact Circuit.succeed_alike hfree
    · exact halike.succeed.trans (Circuit.succeed_alike hfree)
  exact ⟨hr, (hm.closing rfl rfl Action.noConfusion Action.noConfusion (.inr hfree)).alike
    (ha.trans ⟨hsucceed, rfl, rfl, rfl⟩)⟩

theorem Matches.failing (hm : s.Matches settings start interval h) (href : ¬ s.circuit.Refuses s.clock.mono)
    (hd : s.clock.dated = true) :
    (s.call (.failure .outage)).1 = .ok .failed ∧
      (s.call (.failure .outage)).2.Matches settings start interval (h ++ [⟨.fail, some .failed⟩]) := by
  obtain ⟨permit, admitted, hadmitted, hr, ha⟩ :=
    call_admitted href hm.unmarked _ (hm.simulated.assess s.clock.mono .outage)
  have htrip : (admitted.trip s.clock).Alike
      { s.circuit.failAt s.clock with hardTripped := false || s.circuit.hardTripped } := by
    rcases hadmitted with ⟨-, -, rfl⟩ | ⟨-, -, halike⟩
    · exact Circuit.opening_of_date s.circuit false hd
    · exact (halike.trip s.clock).trans (Circuit.opening_of_date _ false hd)
  have hdate : (Assessment.outcome s.clock (.tripping .outage) : Outcome SimulatedError Unit) = .failure .outage := by
    simp only [Assessment.outcome, Outcome.afterOpening, s.clock.dated_iff.mp hd]
  rw [hr]
  refine ⟨congrArg callResult hdate, ?_⟩
  exact (hm.opening false rfl rfl rfl Action.noConfusion (by simp)).alike (ha.trans ⟨htrip, rfl, rfl, rfl⟩)

theorem Matches.passing (hm : s.Matches settings start interval h) (href : ¬ s.circuit.Refuses s.clock.mono) :
    (s.call (.failure .invalidRequest)).1 = .ok .failed ∧
      (s.call (.failure .invalidRequest)).2.Matches settings start interval
        (h ++ [⟨.invalidRequest, some .failed⟩]) := by
  have hfree : s.circuit.hardTripped = false := Bool.eq_false_iff.mpr fun hh => href (.inl hh)
  obtain ⟨permit, admitted, hadmitted, hr, ha⟩ :=
    call_admitted href hm.unmarked _ (hm.simulated.assess s.clock.mono .invalidRequest)
  refine ⟨hr, ?_⟩
  have hpass := admitted.passing_alike permit
  rcases hadmitted with ⟨hs, rfl, rfl⟩ | ⟨hripe, rfl, halike⟩
  · exact (hm.quiet rfl rfl Action.noConfusion Action.noConfusion fun _ => hs).alike ha
  · have hprobe : (admitted.conclude s.clock ⟨true⟩
        ((Ruling.verdict SimulatedError.invalidRequest.verdict).assess SimulatedError.invalidRequest :
          Assessment SimulatedError Unit)).Alike { s.circuit with state := .halfOpen } := by
      obtain ⟨j, rfl⟩ := halike
      obtain ⟨k, hk⟩ := hpass
      refine ⟨k, hk.trans ?_⟩
      simp [hm.unmarked]
    exact (hm.probing rfl rfl rfl Action.noConfusion Action.noConfusion hfree hripe).alike
      (ha.trans ⟨hprobe, rfl, rfl, rfl⟩)

theorem Matches.hand (hm : s.Matches settings start interval h) (hd : s.clock.dated = true) (hard : Bool)
    (ho : r.opens = true) (hc : r.closes = false) (hp : r.passes = false) (hw : r.action ≠ .wait)
    (hh : r.action = .hardTrip ↔ hard = true) :
    s.opening = .ok none ∧
      (s.onCircuit fun c => c.opening hard s.clock).Matches settings start interval (h ++ [r]) := by
  have hdate : s.opening = .ok none := by
    unfold Simulation.opening
    rw [s.clock.dated_iff.mp hd]
  exact ⟨hdate, (hm.opening hard ho hc hp hw hh).alike ⟨Circuit.opening_of_date _ hard hd, rfl, rfl, rfl⟩⟩

def Proceeds (settings : Settings) (start : Clock) (interval : Duration) (h : History) (s : Simulation)
    (action : Action) : Prop :=
  ∃ result, (s.act interval action).1 = .ok result ∧ action.Results (s.circuit.Refuses s.clock.mono) result ∧
    (s.act interval action).2.Matches settings start interval (h ++ [⟨action, result⟩])

theorem Matches.calling (hm : s.Matches settings start interval h) {action : Action} {answer : CallResult}
    {completion : Completion SimulatedError Unit}
    (hact : s.act interval action = (s.call completion).map (·.map some) id)
    (hanswer : action.answer = some answer) (hne : answer ≠ .rejected)
    (hadmitted : ¬ s.circuit.Refuses s.clock.mono → (s.call completion).1 = .ok answer ∧
      (s.call completion).2.Matches settings start interval (h ++ [⟨action, some answer⟩])) :
    s.Proceeds settings start interval h action := by
  unfold Proceeds
  rw [hact]
  by_cases href : s.circuit.Refuses s.clock.mono
  · obtain ⟨hr, hmatches⟩ := hm.refused href completion action (by simp [hanswer])
    refine ⟨some .rejected, congrArg (Except.map some) hr, ?_, hmatches⟩
    exact ⟨by simp [href, hanswer], .inl rfl⟩
  · obtain ⟨hr, hmatches⟩ := hadmitted href
    refine ⟨some answer, congrArg (Except.map some) hr, ?_, hmatches⟩
    exact ⟨by simp [href, hne], .inr hanswer.symm⟩

theorem Matches.act (hm : s.Matches settings start interval h) (hd : s.clock.dated = true) (action : Action) :
    s.Proceeds settings start interval h action := by
  cases action with
  | succeed => exact hm.calling rfl rfl CallResult.noConfusion hm.succeeding
  | fail => exact hm.calling rfl rfl CallResult.noConfusion fun href => hm.failing href hd
  | invalidRequest => exact hm.calling rfl rfl CallResult.noConfusion hm.passing
  | wait => exact ⟨none, rfl, .silent rfl, hm.waiting rfl⟩
  | trip =>
    obtain ⟨hr, hmatches⟩ := hm.hand hd false (r := ⟨.trip, none⟩) rfl rfl rfl Action.noConfusion (by simp)
    exact ⟨none, hr, .silent rfl, hmatches⟩
  | hardTrip =>
    obtain ⟨hr, hmatches⟩ := hm.hand hd true (r := ⟨.hardTrip, none⟩) rfl rfl rfl Action.noConfusion (by simp)
    exact ⟨none, hr, .silent rfl, hmatches⟩
  | reset =>
    refine ⟨none, rfl, .silent rfl, ?_⟩
    exact (hm.closing rfl rfl Action.noConfusion Action.noConfusion (.inl rfl)).alike
      ⟨Circuit.alike_emit _ _, rfl, rfl, rfl⟩

theorem Matches.cooling_iff (hm : s.Matches settings start interval h) :
    h.TrippedWithin interval (settings.resetTimeout.millis.toNat * 1000000) ↔
      s.circuit.state = .opened ∧ s.circuit.cooled s.clock.mono = false := by
  rw [hm.within, ← hm.timeout, ← Circuit.cooled_eq_false_iff]
  constructor
  · rintro ⟨hs, hcool⟩
    refine ⟨?_, hcool⟩
    cases hstate : s.circuit.state with
    | closed => exact absurd hstate hs
    | opened => rfl
    | halfOpen => exact absurd ((hm.cooled hstate).symm.trans hcool) Bool.noConfusion
  · rintro ⟨hs, hcool⟩
    exact ⟨by simp [hs], hcool⟩

theorem Matches.refuses_iff (hm : s.Matches settings start interval h) : s.circuit.Refuses s.clock.mono ↔
    h.Locked ∨ h.TrippedWithin interval (settings.resetTimeout.millis.toNat * 1000000) := by
  rw [hm.cooling_iff, ← hm.locked]
  rfl

theorem Matches.wall (hm : s.Matches settings start interval h) :
    s.clock.wall.nanos = start.wall.nanos + h.waits * interval.nanos := by
  rw [hm.clock]
  simp [Clock.advance, Clock.shift]

theorem Matches.shows (hm : s.Matches settings start interval h) :
    h.Shows settings start interval s.stats := by
  constructor
  · exact hm.name
  · exact s.circuit.millis_resetTimeout.trans hm.timeout
  · exact hm.openCount
  · exact hm.locked
  · exact hm.unmarked
  · rw [← hm.tripped]
    exact not_not.symm
  · rw [← hm.tripped]
    constructor
    · intro hs
      have hne : s.circuit.state ≠ .closed := by
        intro hc
        exact absurd (hc.symm.trans hs) State.noConfusion
      exact ⟨hne, (hm.passed hne).mp hs⟩
    · rintro ⟨hne, hp⟩
      exact (hm.passed hne).mpr hp
  · rw [← hm.tripped]
    exact Circuit.healthy_iff.trans not_not.symm
  · have hheld : s.circuit.hardTripped = true → s.circuit.state = .opened := hm.held
    rw [← hm.refuses_iff]
    refine Circuit.unavailable_iff.trans ⟨fun hs => hs.2.imp_right fun hcool => ⟨hs.1, hcool⟩, ?_⟩
    rintro (hhard | ⟨hs, hcool⟩)
    · exact ⟨hheld hhard, .inl hhard⟩
    · exact ⟨hs, .inr hcool⟩
  · intro time
    rw [← hm.wall]
    exact hm.time time

theorem Matches.step (hm : s.Matches settings start interval h) (hd : s.clock.dated = true) (number : Nat)
    (action : Action) :
    ∃ r, (s.step interval number action).1 = .ok r ∧ r.step = number ∧ r.action = action ∧
      r.Follows settings start interval h ∧
        (s.step interval number action).2.Matches settings start interval (h ++ [r.turn]) := by
  obtain ⟨result, hact, hresult, hmatches⟩ := hm.act hd action
  rw [hm.refuses_iff] at hresult
  exact ⟨_, congrArg (Except.map _) hact, rfl, rfl, ⟨hresult, hmatches.shows⟩, hmatches⟩

theorem waits_turn (h : History) (r : StepReport) (script : Script) :
    (h ++ [r.turn]).waits + script.count .wait = h.waits + (r.action :: script).count .wait := by
  have hturn : r.turn.action = r.action := rfl
  rw [History.waits_concat, List.count_cons, hturn]
  by_cases hw : r.action = .wait
  · rw [if_pos hw, if_pos (beq_iff_eq.mpr hw)]
    omega
  · rw [if_neg hw, if_neg (mt beq_iff_eq.mp hw)]
    omega

theorem Matches.dated (hm : s.Matches settings start interval h) (hearly : 0 ≤ start.wall.nanos)
    (hlate : start.wall.nanos + h.waits * interval.nanos < WallTime.calendarEnd) : s.clock.dated = true := by
  have hwall := hm.wall
  have hpositive : (0 : Int) ≤ h.waits * interval.nanos :=
    Int.mul_nonneg (Int.natCast_nonneg _) (Int.natCast_nonneg _)
  rw [s.clock.dated_iff, WallTime.fault?, if_neg (by omega), if_neg (by omega)]

theorem Matches.runFrom (hm : s.Matches settings start interval h) {script : Script} (hearly : 0 ≤ start.wall.nanos)
    (hlate : start.wall.nanos + ((h.waits + script.count .wait : Nat) : Int) * interval.nanos < WallTime.calendarEnd)
    (number : Nat) :
    ∃ reports, (s.runFrom interval number script).1 = .ok reports ∧
      h.Accounts settings start interval number script reports := by
  induction script generalizing h s number with
  | nil => exact ⟨[], rfl, History.accounts_nil⟩
  | cons action script ih =>
    -- The waits so far are some of those that the clock has room for.
    have hd : s.clock.dated = true := by
      have hle : (h.waits : Int) ≤ (h.waits + (action :: script).count .wait : Nat) :=
        Int.ofNat_le.mpr (Nat.le_add_right _ _)
      have hspent := Int.mul_le_mul_of_nonneg_right hle (Int.natCast_nonneg interval.nanos)
      exact hm.dated hearly (Int.lt_of_le_of_lt (Int.add_le_add_left hspent _) hlate)
    obtain ⟨r, hr, hnumber, rfl, hfollows, hmatches⟩ := hm.step hd number action
    rw [← waits_turn] at hlate
    obtain ⟨reports, hreports, haccounts⟩ := ih hmatches hlate (number + 1)
    refine ⟨r :: reports, ?_, History.accounts_cons.mpr ⟨hnumber, rfl, hfollows, haccounts⟩⟩
    unfold Simulation.runFrom
    generalize s.step interval number r.action = stepped at hr hreports ⊢
    obtain ⟨report, s'⟩ := stepped
    obtain rfl : report = _ := hr
    exact congrArg (Except.map (r :: ·)) hreports

end Simulation

end CircuitBreaker
