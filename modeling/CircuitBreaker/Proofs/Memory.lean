import CircuitBreaker.Proofs.Flattening
import CircuitBreaker.Proofs.Parting

namespace CircuitBreaker

namespace Circuit

variable {stale : Option WallTime} {count : UInt64} {c c' : Circuit} {now : Instant}

/-- The second circuit is the first but for what it remembers: `count` more openings, the time of the last
failure while the first has none, and the failure itself while it is closed. -/
structure Recalls (stale : Option WallTime) (count : UInt64) (c c' : Circuit) : Prop where
  name : c'.name = c.name
  timeout : c'.timeout = c.timeout
  state : c'.state = c.state
  probeInFlight : c'.probeInFlight = c.probeInFlight
  hardTripped : c'.hardTripped = c.hardTripped
  lastFailure : c.state ≠ .closed → c'.lastFailure = c.lastFailure
  lastFailureTime : c'.lastFailureTime = c.lastFailureTime.or stale
  openCount : c'.openCount = count + c.openCount

namespace Recalls

theorem emit (h : Recalls stale count c c') (e e' : Event) : Recalls stale count (c.emit e) (c'.emit e') :=
  ⟨h.name, h.timeout, h.state, h.probeInFlight, h.hardTripped, h.lastFailure, h.lastFailureTime, h.openCount⟩

theorem cooled (h : Recalls stale count c c') (hs : c.state ≠ .closed) : c'.cooled now = c.cooled now := by
  unfold Circuit.cooled
  rw [h.lastFailure hs, h.timeout]

theorem health (h : Recalls stale count c c') (now : Instant) : c'.health now = c.health now := by
  unfold Circuit.health
  rw [h.state, h.hardTripped]
  cases hs : c.state with
  | closed | halfOpen => rfl
  | opened => rw [h.cooled (by simp [hs])]

theorem mark (h : Recalls stale count c c') (probe : Bool) :
    Recalls stale count { c with probeInFlight := probe } { c' with probeInFlight := probe } :=
  ⟨h.name, h.timeout, h.state, rfl, h.hardTripped, h.lastFailure, h.lastFailureTime, h.openCount⟩

theorem latch (h : Recalls stale count c c') (hard : Bool) :
    Recalls stale count { c with hardTripped := hard } { c' with hardTripped := hard } :=
  ⟨h.name, h.timeout, h.state, h.probeInFlight, rfl, h.lastFailure, h.lastFailureTime, h.openCount⟩

theorem close (h : Recalls stale count c c') :
    Recalls stale count { c with state := .closed } { c' with state := .closed } :=
  ⟨h.name, h.timeout, rfl, h.probeInFlight, h.hardTripped, fun hs => absurd rfl hs, h.lastFailureTime, h.openCount⟩

theorem halfOpen (h : Recalls stale count c c') (hs : c.state ≠ .closed) :
    Recalls stale count { c with state := .halfOpen } { c' with state := .halfOpen } :=
  ⟨h.name, h.timeout, rfl, h.probeInFlight, h.hardTripped, fun _ => h.lastFailure hs, h.lastFailureTime,
    h.openCount⟩

theorem startCooldown (h : Recalls stale count c c') (now : Instant) :
    Recalls stale count (c.startCooldown now) (c'.startCooldown now) :=
  -- A failure that is forgotten is replaced before it is asked for.
  ⟨h.name, h.timeout, rfl, h.probeInFlight, h.hardTripped, fun _ => rfl, h.lastFailureTime, h.openCount⟩

theorem failAt (h : Recalls stale count c c') (now : Clock) :
    Recalls stale count (c.failAt now) (c'.failAt now) := by
  refine ⟨h.name, h.timeout, rfl, rfl, h.hardTripped, fun _ => rfl, rfl, ?_⟩
  change c'.openCount + 1 = count + (c.openCount + 1)
  rw [h.openCount, UInt64.add_assoc]

theorem setTimeout (h : Recalls stale count c c') (timeout : Duration) :
    Recalls stale count (c.setTimeout timeout) (c'.setTimeout timeout) :=
  ⟨h.name, rfl, h.state, h.probeInFlight, h.hardTripped, h.lastFailure, h.lastFailureTime, h.openCount⟩

theorem trip (h : Recalls stale count c c') (now : Clock) : Recalls stale count (c.trip now) (c'.trip now) := by
  unfold Circuit.trip
  split
  · exact (h.failAt now).emit _ _
  · exact h.startCooldown now.mono

theorem hardTrip (h : Recalls stale count c c') (now : Clock) :
    Recalls stale count (c.hardTrip now) (c'.hardTrip now) := by
  unfold Circuit.hardTrip
  split
  · exact ((h.failAt now).latch true).emit _ _
  · exact h.startCooldown now.mono

end Recalls

theorem likeness_recalls : Likeness (Recalls stale count) where
  name := Recalls.name
  state := Recalls.state
  probeInFlight := Recalls.probeInFlight
  hardTripped := Recalls.hardTripped
  cooled h hs _ := h.cooled hs
  emit h e := h.emit e e
  mark := Recalls.mark
  latch := Recalls.latch
  close := Recalls.close
  halfOpen := Recalls.halfOpen

theorem lockstep_recalls : Lockstep id (fun _ => True) Eq (Recalls stale count) :=
  likeness_recalls.lockstep Recalls.setTimeout Recalls.trip Recalls.hardTrip

def Stamped (c : Circuit) : Prop := c.lastFailureTime = none ↔ c.lastFailure = none

theorem Stamped.same {d : Circuit} (h : c.Stamped) (hf : d.lastFailure = c.lastFailure)
    (ht : d.lastFailureTime = c.lastFailureTime) : d.Stamped := by
  unfold Stamped
  rw [hf, ht]
  exact h

theorem admission_failure (c : Circuit) (now : Instant) : (c.admission now).2.lastFailure = c.lastFailure ∧
    (c.admission now).2.lastFailureTime = c.lastFailureTime := by
  rcases c.admission_cases now with ⟨-, j, ha⟩ | ⟨-, -, ha⟩ | ⟨-, -, -, j, ha⟩ | ⟨-, -, -, j, ha⟩
  all_goals
    rw [ha]
    exact ⟨rfl, rfl⟩

theorem releaseProbe_failure (c : Circuit) : c.releaseProbe.lastFailure = c.lastFailure ∧
    c.releaseProbe.lastFailureTime = c.lastFailureTime := by
  unfold releaseProbe
  split <;> exact ⟨rfl, rfl⟩

end Circuit

def Opening.Stamps (o : Opening) : Prop := o.circuit.lastFailure = none → o.clock.dated = true

theorem Opening.not_stamps_iff (o : Opening) :
    ¬ o.Stamps ↔ o.circuit.lastFailure = none ∧ o.clock.dated = false := by
  unfold Stamps
  simp

namespace Circuit

variable {stale : Option WallTime} {count : UInt64} {c c' : Circuit} {now : Clock}

theorem Stamped.opening (h : c.Stamped) (hard : Bool) (hnow : Opening.Stamps ⟨c, now⟩) :
    (c.opening hard now).Stamped := by
  cases hd : now.dated with
  | true =>
    have ha := c.opening_of_date hard hd
    unfold Stamped
    rw [ha.lastFailureTime, ha.lastFailure]
    simp [failAt, startCooldown]
  | false =>
    have hfailed : c.lastFailure ≠ none := by
      intro hnone
      rw [hnow hnone] at hd
      cases hd
    have htime : c.lastFailureTime ≠ none := fun hnone => hfailed (h.mp hnone)
    rw [c.opening_of_fault hard hd]
    unfold Stamped startCooldown
    simp [htime]

theorem lockstep_stamped :
    Lockstep id Opening.Stamps Eq (fun c c' => Recalls stale count c c' ∧ c.Stamped) where
  mono := by rintro _ _ rfl; rfl
  fault := by rintro _ _ _ rfl _; rfl
  shift := by rintro _ _ rfl _ _; rfl
  name h := h.1.name
  emit h e := ⟨h.1.emit e e, h.2⟩
  calm_emit h _ := h
  admission {c _} h now := by
    obtain ⟨hf, ht⟩ := c.admission_failure now
    obtain ⟨ha, hr⟩ := likeness_recalls.admission h.1 now
    exact ⟨ha, hr, h.2.same hf ht⟩
  succeed {c _} h := ⟨likeness_recalls.succeed h.1, h.2.same c.succeed_lastFailure c.succeed_lastFailureTime⟩
  releaseProbe {c _} h :=
    ⟨likeness_recalls.releaseProbe h.1, h.2.same c.releaseProbe_failure.1 c.releaseProbe_failure.2⟩
  reset h := ⟨likeness_recalls.reset h.1, h.2⟩
  setTimeout h timeout := ⟨h.1.setTimeout timeout, h.2⟩
  trip := by
    rintro c _ now _ h rfl hnow
    exact ⟨h.1.trip now, h.2.opening false hnow⟩
  hardTrip := by
    rintro c _ now _ h rfl hnow
    exact ⟨h.1.hardTrip now, h.2.opening true hnow⟩

def Unstamped (c : Circuit) : Prop := c.lastFailure ≠ none ∧ c.lastFailureTime = none

theorem lasting_unstamped : Lasting Unstamped fun now => now.dated = false where
  remark h _ _ := h
  releaseProbe {c} h := by
    unfold Unstamped
    rw [c.releaseProbe_failure.1, c.releaseProbe_failure.2]
    exact h
  admission {c} h now := by
    unfold Unstamped
    rw [(c.admission_failure now).1, (c.admission_failure now).2]
    exact h
  trip {c now} h hd := by
    rw [show c.trip now = _ from c.opening_of_fault false hd]
    exact ⟨by simp [startCooldown], h.2⟩

theorem lasting_time : Lasting (fun c => c.lastFailureTime ≠ none) fun _ => True where
  remark h _ _ := h
  releaseProbe {c} h := by
    rw [c.releaseProbe_failure.2]
    exact h
  admission {c} h now := by
    rw [(c.admission_failure now).2]
    exact h
  trip {c now} h _ := by
    unfold Circuit.trip
    split
    · simp [emit, failAt]
    · exact h

theorem parting_unstamped (hstale : stale ≠ none) :
    Parting Opening.Stamps Eq (fun c c' => Recalls stale count c c' ∧ c.Stamped)
      fun c c' => c.Unstamped ∧ c'.lastFailureTime ≠ none where
  undated h := ((Opening.not_stamps_iff _).mp h).2
  before h := h
  opened := by
    rintro c c' now _ ⟨h, hstamped⟩ rfl hnow hard
    obtain ⟨hnone, hd⟩ := (Opening.not_stamps_iff _).mp hnow
    rw [c.opening_of_fault hard hd, c'.opening_of_fault hard hd]
    refine ⟨⟨by simp [startCooldown], hstamped.mpr hnone⟩, ?_⟩
    change c'.lastFailureTime ≠ none
    rw [h.lastFailureTime, hstamped.mpr hnone]
    exact hstale
  left c' := lasting_unstamped.and_right _
  right c := lasting_time.and_left _

end Circuit

theorem Circuit.ofTimeout_resetTimeout (c : Circuit) :
    ofTimeout c.name c.resetTimeout = { name := c.name, timeout := c.timeout } := by
  rw [ofTimeout, c.millis_resetTimeout]

namespace Circuit

variable {c d : Circuit}

structure Safe (c : Circuit) : Prop where
  locked : c.hardTripped = true → c.Locked
  closed : c.state = .closed → c.probeInFlight = false

theorem Alike.safe (h : c.Alike d) (hd : d.Safe) : c.Safe where
  locked hh := h.locked (hd.locked (h.hardTripped.symm.trans hh))
  closed hs := h.probeInFlight.trans (hd.closed (h.state.symm.trans hs))

theorem Safe.admission (h : c.Safe) (now : Instant) : (c.admission now).2.Safe := by
  rcases c.admission_cases now with ⟨-, j, ha⟩ | ⟨-, -, ha⟩ | ⟨hh, -, -, j, ha⟩ | ⟨hh, -, -, j, ha⟩
  · rw [ha]
    exact Alike.safe ⟨j, rfl⟩ h
  · rw [ha]
    exact h
  all_goals
    rw [ha]
    exact ⟨fun hhard => Bool.noConfusion (hh.symm.trans hhard), fun hs => State.noConfusion hs⟩

theorem Safe.succeed (h : c.Safe) : c.succeed.Safe :=
  ⟨fun hh => (h.locked (c.succeed_hardTripped.symm.trans hh)).succeed, fun _ => c.succeed_probe⟩

theorem Safe.releaseProbe (h : c.Safe) : c.releaseProbe.Safe := by
  refine (c.passing_alike ⟨true⟩).safe ⟨fun hh => ?_, fun _ => Bool.and_false _⟩
  have hlock := h.locked hh
  exact ⟨hlock.state, hlock.hardTripped, Bool.and_false _⟩

theorem safe_reset (c : Circuit) : c.reset.Safe :=
  ⟨fun hh => Bool.noConfusion (c.reset_hardTripped.symm.trans hh), fun _ => c.reset_probe⟩

theorem Safe.setTimeout (h : c.Safe) (timeout : Duration) : (c.setTimeout timeout).Safe :=
  ⟨fun hh => (h.locked hh).setTimeout timeout, h.closed⟩

theorem Safe.trip (h : c.Safe) (now : Clock) : (c.trip now).Safe where
  locked hh := (h.locked ((c.trip_hardTripped now).symm.trans hh)).trip now
  closed hs := State.noConfusion ((c.trip_state now).symm.trans hs)

theorem Safe.hardTrip (h : c.Safe) (now : Clock) : (c.hardTrip now).Safe where
  locked hh := by
    by_cases hn : now.wall.fault? = none
    · exact c.hardTrip_locked hn
    · rw [c.hardTrip_of_fault hn] at hh
      exact (h.locked hh).hardTrip now
  closed hs := State.noConfusion ((c.hardTrip_state now).symm.trans hs)

theorem lockstep_safe : Lockstep id (fun _ => True) Eq (fun c c' => c' = c ∧ c.Safe) where
  mono := by rintro _ _ rfl; rfl
  fault := by rintro _ _ _ rfl _; rfl
  shift := by rintro _ _ rfl _ _; rfl
  name := by rintro _ _ ⟨rfl, -⟩; rfl
  emit := by rintro _ _ ⟨rfl, h⟩ e; exact ⟨rfl, (alike_emit _ e).safe h⟩
  calm_emit := fun _ _ => trivial
  admission := by rintro _ _ ⟨rfl, h⟩ now; exact ⟨rfl, rfl, h.admission now⟩
  succeed := by rintro _ _ ⟨rfl, h⟩; exact ⟨rfl, h.succeed⟩
  releaseProbe := by rintro _ _ ⟨rfl, h⟩; exact ⟨rfl, h.releaseProbe⟩
  reset := by rintro _ _ ⟨rfl, -⟩; exact ⟨rfl, safe_reset _⟩
  setTimeout := by rintro _ _ ⟨rfl, h⟩ timeout; exact ⟨rfl, h.setTimeout timeout⟩
  trip := by rintro _ _ now _ ⟨rfl, h⟩ rfl _; exact ⟨rfl, h.trip now⟩
  hardTrip := by rintro _ _ now _ ⟨rfl, h⟩ rfl _; exact ⟨rfl, h.hardTrip now⟩

end Circuit

def Moment.SameTime {ε α : Type} (m m' : Moment ε α) : Prop :=
  m.breaker.circuit.lastFailure ≠ none →
    m'.breaker.circuit.lastFailureTime = m.breaker.circuit.lastFailureTime

namespace Session

variable {ε α : Type} {s : Session ε}

def renewed (s : Session ε) (calls : List (Int × Phase)) : Session ε where
  breaker := ⟨.ofTimeout s.breaker.circuit.name s.breaker.circuit.resetTimeout, s.breaker.classifiers,
    s.breaker.installed⟩
  clock := s.clock
  calls := calls

theorem reachable_free (setup : Setup ε) (before : List (Step ε α))
    (hs : (setup.session.run before).2.breaker.circuit.state = .closed) :
    (setup.session.run before).2.breaker.circuit.hardTripped = false ∧
      (setup.session.run before).2.breaker.circuit.probeInFlight = false := by
  have hstart : setup.session.Like Eq (fun c c' => c' = c ∧ c.Safe) (fun _ => False) setup.session :=
    ⟨⟨⟨rfl, nofun, fun _ => rfl⟩, rfl, rfl⟩, rfl, fun _ _ => rfl⟩
  have hsafe := (Circuit.lockstep_safe.run_same hstart before (fun _ _ => not_false) fun _ _ => trivial).2.breaker.circuit.2
  refine ⟨?_, hsafe.closed hs⟩
  cases hh : (setup.session.run before).2.breaker.circuit.hardTripped with
  | false => rfl
  | true => cases hs.symm.trans (hsafe.locked hh).state

theorem like_of_circuit {like : Circuit → Circuit → Prop} {c : Circuit} (h : like c s.breaker.circuit)
    {calls : List (Int × Phase)} {ids : List Int} (hcalls : ∀ id ∈ ids, calls.lookup id = s.calls.lookup id) :
    Session.Like Eq like (· ∉ ids)
      { breaker := ⟨c, s.breaker.classifiers, s.breaker.installed⟩, clock := s.clock, calls } s :=
  ⟨⟨h, rfl, rfl⟩, rfl, fun id hid => (hcalls id (not_not.mp hid)).symm⟩

theorem renewed_recalls (hs : s.breaker.circuit.state = .closed) (hh : s.breaker.circuit.hardTripped = false)
    (hp : s.breaker.circuit.probeInFlight = false) {calls : List (Int × Phase)} {ids : List Int}
    (hcalls : ∀ id ∈ ids, calls.lookup id = s.calls.lookup id) :
    (s.renewed calls).Like Eq (Circuit.Recalls s.breaker.circuit.lastFailureTime s.breaker.circuit.openCount)
      (· ∉ ids) s := by
  apply like_of_circuit _ hcalls
  rw [Circuit.ofTimeout_resetTimeout]
  exact ⟨rfl, rfl, hs, hp, hh, fun hopen => absurd rfl hopen, rfl, (UInt64.add_zero _).symm⟩

theorem renewed_stamped (s : Session ε) (calls : List (Int × Phase)) :
    (s.renewed calls).breaker.circuit.Stamped := ⟨fun _ => rfl, fun _ => rfl⟩

theorem sameTime_iff {new s : Session ε} {stale : Option WallTime} {count : UInt64} {steps : List (Step ε α)}
    (hlike : new.Like Eq (Circuit.Recalls stale count) (· ∉ numbersOf steps) s)
    (hstamped : new.breaker.circuit.Stamped) :
    List.Forall₂ Moment.SameTime (trail (new.run steps).1) (trail (s.run steps).1) ↔
      stale = none ∨ ∀ o ∈ new.openingsAlong steps, o.Stamps := by
  have hside : ∀ id ∈ numbersOf steps, ¬ id ∉ numbersOf steps := fun id hid hnot => hnot hid
  have hstart : new.Like Eq (fun c c' => Circuit.Recalls stale count c c' ∧ c.Stamped) (· ∉ numbersOf steps) s :=
    ⟨⟨⟨hlike.breaker.circuit, hstamped⟩, hlike.breaker.classifiers, hlike.breaker.installed⟩, hlike.clock,
      hlike.calls⟩
  constructor
  · intro hsame
    by_contra hnot
    push Not at hnot
    obtain ⟨hstale, hopen⟩ := hnot
    -- The new breaker has no time to show for an opening that is not completed, the old one has a stale time.
    have hdiffer := (Circuit.parting_unstamped hstale).run Circuit.lockstep_stamped hstart steps hside hopen
    rw [mapWalls_id] at hdiffer
    refine hdiffer.not_forall₂ ?_ hsame
    rintro m m' hm ⟨⟨hfailed, hnone⟩, htime⟩
    exact htime ((hm hfailed).trans hnone)
  · rintro (rfl | hstamps)
    · have hrun := (Circuit.lockstep_recalls.run_same hlike steps hside fun _ _ => trivial).1
      refine hrun.imp fun m m' hm _ => ?_
      rw [hm.breaker.circuit.lastFailureTime, Option.or_none]
    · have hrun := (Circuit.lockstep_stamped.run_same hstart steps hside hstamps).1
      refine hrun.imp fun m m' hm hfailed => ?_
      obtain ⟨hrecalls, hstamped⟩ := hm.breaker.circuit
      obtain ⟨time, htime⟩ := Option.ne_none_iff_exists'.mp fun hnone => hfailed (hstamped.mp hnone)
      rw [hrecalls.lastFailureTime, htime]
      rfl

theorem closed_as_new (setup : Setup ε) (before steps : List (Step ε α)) (calls : List (Int × Phase))
    (hclosed : (setup.session.run before).2.breaker.circuit.state = .closed)
    (hcalls : ∀ id ∈ numbersOf steps, calls.lookup id = (setup.session.run before).2.calls.lookup id) :
    let s := (setup.session.run before).2
    let new := s.renewed calls
    let c := s.breaker.circuit
    List.Forall₂ (fun m m' => m.Like Eq (Circuit.Recalls c.lastFailureTime c.openCount) m' ∧
        ∀ now, m'.breaker.circuit.health now = m.breaker.circuit.health now)
      (trail (new.run steps).1) (trail (s.run steps).1) ∧
    (List.Forall₂ Moment.SameTime (trail (new.run steps).1) (trail (s.run steps).1) ↔
      c.lastFailureTime = none ∨ ∀ o ∈ new.openingsAlong steps, o.Stamps) := by
  intro s new c
  obtain ⟨hh, hp⟩ := reachable_free setup before hclosed
  have hlike := renewed_recalls (s := s) hclosed hh hp hcalls
  have hrun := (Circuit.lockstep_recalls.run_same hlike steps (fun id hid hnot => hnot hid) fun _ _ => trivial).1
  exact ⟨hrun.imp fun m m' hm => ⟨hm, hm.breaker.circuit.health⟩, sameTime_iff hlike (s.renewed_stamped calls)⟩

def tripAndReset : List (Step Unit Unit) := [.trip, .create 0, .reset]

theorem reset_as_new :
    let s := (Traffic.plain.session.run tripAndReset).2
    let new := s.renewed s.calls
    let steps : List (Step Unit Unit) := [.shift 5 5, .trip, .invoke .own [] (.value ()), .finish 0 (.value ())]
    List.Forall₂ (fun m m' => m.Like Eq (Circuit.Recalls (some ⟨0⟩) 1) m' ∧
        ∀ now, m'.breaker.circuit.health now = m.breaker.circuit.health now)
      (trail (new.run steps).1) (trail (s.run steps).1) ∧
    List.Forall₂ Moment.SameTime (trail (new.run steps).1) (trail (s.run steps).1) := by
  intro s new steps
  obtain ⟨hrecalls, hsame⟩ := closed_as_new Traffic.plain tripAndReset steps s.calls rfl fun _ _ => rfl
  refine ⟨hrecalls, hsame.mpr (.inr fun o ho _ => ?_)⟩
  rw [List.mem_singleton.mp ho]
  rfl

theorem stale_time_after_reset :
    let s := (Traffic.plain.session.run tripAndReset).2
    let steps : List (Step Unit Unit) := [.shift 0 (-1), .trip]
    s.breaker.circuit.state = .closed ∧
      ¬ List.Forall₂ Moment.SameTime (trail ((s.renewed []).run steps).1) (trail (s.run steps).1) := by
  refine ⟨rfl, fun h => ?_⟩
  obtain - | ⟨-, - | ⟨hlast, -⟩⟩ := h
  have hsame : some (⟨0⟩ : WallTime) = none := hlast (by decide)
  cases hsame

end Session

end CircuitBreaker
