import CircuitBreaker.Proofs.Trail
import CircuitBreaker.Proofs.Opening
import Mathlib.Data.List.Forall2

namespace CircuitBreaker

variable {ε α : Type}

mutual

def Step.mapWall (f : Int → Int) : Step ε α → Step ε α
  | .shift mono wall => .shift mono (f wall)
  | .invoke delivery operation result => .invoke delivery (mapWalls f operation) result
  | step => step

def mapWalls (f : Int → Int) : List (Step ε α) → List (Step ε α)
  | [] => []
  | step :: steps => step.mapWall f :: mapWalls f steps

end

mutual

theorem Step.mapWall_id : ∀ step : Step ε α, step.mapWall id = step
  | .shift .. | .trip | .hardTrip | .reset | .setTimeout _ | .install _ | .look | .create _ | .start _ | .poll _
  | .finish .. | .drop _ | .race .. => rfl
  | .invoke delivery operation result => by rw [Step.mapWall, mapWalls_id operation]

theorem mapWalls_id : ∀ steps : List (Step ε α), mapWalls id steps = steps
  | [] => rfl
  | step :: steps => by rw [mapWalls, step.mapWall_id, mapWalls_id steps]

end

structure Opening where
  circuit : Circuit
  clock : Clock

namespace Session

def opening (s : Session ε) : Opening := ⟨s.breaker.circuit, s.clock⟩

def ending (s : Session ε) : Option (Completion ε α) → List Opening
  | none => []
  | some result => if (s.breaker.assess s.clock.mono result).1.opens then [s.opening] else []

def endings (result : Completion ε α) : List Permit → Session ε → List Opening
  | [], _ => []
  | permit :: permits, s => s.ending (some result) ++ endings result permits (s.settle permit result).2

def polling (s : Session ε) (id : Int) (result : Option (Completion ε α)) : List Opening :=
  match s.calls.lookup id with
  | none => []
  | some (.running _) => s.ending result
  | some .fresh =>
    match s.acquire with
    | (none, _) => []
    | (some _, s) => s.ending result

@[simp] theorem polling_none (s : Session ε) (id : Int) : s.polling id (none : Option (Completion ε α)) = [] := by
  unfold polling
  split
  · rfl
  · rfl
  · split <;> rfl

def dropping (s : Session ε) (id : Int) : List Opening :=
  match s.calls.lookup id with
  | some (.running _) => [s.opening]
  | some .fresh | none => []

mutual

def openings (s : Session ε) : Step ε α → List Opening
  | .trip | .hardTrip => [s.opening]
  | .invoke _ operation result =>
    match s.acquire with
    | (none, _) => []
    | (some _, s) => s.openingsAlong operation ++ (s.run operation).2.ending (some result)
  | .create id | .start id | .drop id => s.dropping id
  | .finish id result => s.polling id (some result)
  | .race callers result => endings result (acquireMany callers s).1 (acquireMany callers s).2
  | .shift .. | .reset | .setTimeout _ | .install _ | .look | .poll _ => []

def openingsAlong (s : Session ε) : List (Step ε α) → List Opening
  | [] => []
  | step :: steps => s.openings step ++ (s.next step).openingsAlong steps

end

end Session

/-- A likeness of circuits that is seen in what they decide by, and that small changes to both keep. -/
structure Circuit.Likeness (like : Circuit → Circuit → Prop) : Prop where
  name : ∀ {c c'}, like c c' → c'.name = c.name
  state : ∀ {c c'}, like c c' → c'.state = c.state
  probeInFlight : ∀ {c c'}, like c c' → c'.probeInFlight = c.probeInFlight
  hardTripped : ∀ {c c'}, like c c' → c'.hardTripped = c.hardTripped
  cooled : ∀ {c c'}, like c c' → c.state ≠ .closed → ∀ now, c'.cooled now = c.cooled now
  emit : ∀ {c c'}, like c c' → ∀ e, like (c.emit e) (c'.emit e)
  mark : ∀ {c c'}, like c c' → ∀ probe, like { c with probeInFlight := probe } { c' with probeInFlight := probe }
  latch : ∀ {c c'}, like c c' → ∀ hard, like { c with hardTripped := hard } { c' with hardTripped := hard }
  close : ∀ {c c'}, like c c' → like { c with state := .closed } { c' with state := .closed }
  halfOpen : ∀ {c c'}, like c c' → c.state ≠ .closed →
    like { c with state := .halfOpen } { c' with state := .halfOpen }

namespace Circuit.Likeness

variable {like : Circuit → Circuit → Prop} {c c' : Circuit} (h : Likeness like)

include h

theorem emit_of_eq (hc : like c c') {e e' : Event} (he : e' = e) : like (c.emit e) (c'.emit e') := by
  rw [he]
  exact h.emit hc e

theorem ripen (hc : like c c') (hs : c.state ≠ .closed) (now : Instant) : like (c.ripen now) (c'.ripen now) := by
  unfold Circuit.ripen
  rw [h.state hc, h.cooled hc hs]
  split
  · exact h.emit_of_eq (h.halfOpen hc hs) (congrArg Event.halfOpening (h.name hc))
  · exact hc

theorem admitProbe (hc : like c c') : c'.admitProbe.1 = c.admitProbe.1 ∧ like c.admitProbe.2 c'.admitProbe.2 := by
  have hfree : (c'.state = .halfOpen ∧ !c'.probeInFlight) ↔ (c.state = .halfOpen ∧ !c.probeInFlight) := by
    rw [h.state hc, h.probeInFlight hc]
  unfold Circuit.admitProbe
  simp only [hfree]
  split
  · exact ⟨rfl, h.emit_of_eq (h.mark hc true) (congrArg Event.probeAdmitted (h.name hc))⟩
  · exact ⟨rfl, h.emit_of_eq hc (congrArg₂ Event.rejected (h.name hc) (h.state hc))⟩

theorem admission (hc : like c c') (now : Instant) :
    (c'.admission now).1 = (c.admission now).1 ∧ like (c.admission now).2 (c'.admission now).2 := by
  unfold Circuit.admission
  rw [h.hardTripped hc, h.state hc]
  split
  · exact ⟨rfl, h.emit_of_eq hc (congrArg Event.rejectedHard (h.name hc))⟩
  · split
    · exact ⟨rfl, hc⟩
    · rename_i hs
      exact h.admitProbe (h.ripen hc hs now)

theorem succeed (hc : like c c') : like c.succeed c'.succeed := by
  have hstays : (c'.hardTripped = true ∨ c'.state = .closed) ↔ (c.hardTripped = true ∨ c.state = .closed) := by
    rw [h.hardTripped hc, h.state hc]
  unfold Circuit.succeed
  simp only [hstays]
  split
  · exact h.mark hc false
  · exact h.emit_of_eq (h.close (h.mark hc false)) (congrArg₂ Event.closing (h.name hc) (h.state hc))

theorem releaseProbe (hc : like c c') : like c.releaseProbe c'.releaseProbe := by
  have hheld : c'.probeInFlight = true ↔ c.probeInFlight = true := by rw [h.probeInFlight hc]
  unfold Circuit.releaseProbe
  simp only [hheld]
  split
  · exact h.emit_of_eq (h.mark hc false) (congrArg Event.probeReleased (h.name hc))
  · exact hc

theorem reset (hc : like c c') : like c.reset c'.reset :=
  h.emit_of_eq (h.mark (h.latch (h.close hc) false) false) (congrArg Event.reset (h.name hc))

end Circuit.Likeness

/-- Circuits and clocks that stay alike whatever is done to both of them, if the openings of the first are
calm. Wall clocks may move differently, as `f` says. -/
structure Lockstep (f : Int → Int) (calm : Opening → Prop) (clocks : Clock → Clock → Prop)
    (like : Circuit → Circuit → Prop) : Prop where
  mono : ∀ {now now'}, clocks now now' → now'.mono = now.mono
  fault : ∀ {c now now'}, clocks now now' → calm ⟨c, now⟩ → now'.wall.fault? = now.wall.fault?
  shift : ∀ {now now'}, clocks now now' → ∀ mono wall, clocks (now.shift mono wall) (now'.shift mono (f wall))
  name : ∀ {c c'}, like c c' → c'.name = c.name
  emit : ∀ {c c'}, like c c' → ∀ e, like (c.emit e) (c'.emit e)
  calm_emit : ∀ {c now}, calm ⟨c, now⟩ → ∀ e, calm ⟨c.emit e, now⟩
  admission : ∀ {c c'}, like c c' → ∀ now, (c'.admission now).1 = (c.admission now).1 ∧
    like (c.admission now).2 (c'.admission now).2
  succeed : ∀ {c c'}, like c c' → like c.succeed c'.succeed
  releaseProbe : ∀ {c c'}, like c c' → like c.releaseProbe c'.releaseProbe
  reset : ∀ {c c'}, like c c' → like c.reset c'.reset
  setTimeout : ∀ {c c'}, like c c' → ∀ timeout, like (c.setTimeout timeout) (c'.setTimeout timeout)
  trip : ∀ {c c' now now'}, like c c' → clocks now now' → calm ⟨c, now⟩ → like (c.trip now) (c'.trip now')
  hardTrip : ∀ {c c' now now'}, like c c' → clocks now now' → calm ⟨c, now⟩ →
    like (c.hardTrip now) (c'.hardTrip now')

theorem Circuit.Likeness.lockstep {like : Circuit → Circuit → Prop} (h : Likeness like)
    (hset : ∀ {c c'}, like c c' → ∀ timeout, like (c.setTimeout timeout) (c'.setTimeout timeout))
    (htrip : ∀ {c c'}, like c c' → ∀ now, like (c.trip now) (c'.trip now))
    (hhard : ∀ {c c'}, like c c' → ∀ now, like (c.hardTrip now) (c'.hardTrip now)) :
    Lockstep id (fun _ => True) Eq like where
  mono := by rintro _ _ rfl; rfl
  fault := by rintro _ _ _ rfl _; rfl
  shift := by rintro _ _ rfl _ _; rfl
  name := h.name
  emit := h.emit
  calm_emit _ _ := trivial
  admission := h.admission
  succeed := h.succeed
  releaseProbe := h.releaseProbe
  reset := h.reset
  setTimeout := hset
  trip := by rintro _ _ now _ hc rfl _; exact htrip hc now
  hardTrip := by rintro _ _ now _ hc rfl _; exact hhard hc now

structure Breaker.Like (like : Circuit → Circuit → Prop) (b b' : Breaker ε) : Prop where
  circuit : like b.circuit b'.circuit
  classifiers : b'.classifiers = b.classifiers
  installed : b'.installed = b.installed

structure Moment.Like (clocks : Clock → Clock → Prop) (like : Circuit → Circuit → Prop) (m m' : Moment ε α) :
    Prop where
  answer : m'.answer = m.answer
  breaker : m.breaker.Like like m'.breaker
  clock : clocks m.clock m'.clock

/-- The calls in `aside` are of one of the two sessions only, or they differ. -/
structure Session.Like (clocks : Clock → Clock → Prop) (like : Circuit → Circuit → Prop) (aside : Int → Prop)
    (s s' : Session ε) : Prop where
  breaker : s.breaker.Like like s'.breaker
  clock : clocks s.clock s'.clock
  calls : ∀ id, ¬ aside id → s'.calls.lookup id = s.calls.lookup id

structure StepLike (clocks : Clock → Clock → Prop) (like : Circuit → Circuit → Prop) (aside : Int → Prop)
    (x y : Answer ε α × Session ε) : Prop where
  answer : y.1.bare = x.1.bare
  during : List.Forall₂ (Moment.Like clocks like) x.1.during y.1.during
  session : x.2.Like clocks like aside y.2

namespace Lockstep

variable {f : Int → Int} {calm : Opening → Prop} {clocks : Clock → Clock → Prop} {like : Circuit → Circuit → Prop}
  {aside : Int → Prop} {b b' : Breaker ε} {now now' : Clock} {s s' : Session ε} {id : Int}
  (h : Lockstep f calm clocks like)

include h

theorem emitAll (hb : b.Like like b') (events : List Event) : (b.emitAll events).Like like (b'.emitAll events) := by
  refine ⟨?_, hb.classifiers, hb.installed⟩
  change like (events.foldl Circuit.emit b.circuit) (events.foldl Circuit.emit b'.circuit)
  have hc := hb.circuit
  generalize b.circuit = c at hc
  generalize b'.circuit = c' at hc
  induction events generalizing c c' with
  | nil => exact hc
  | cons e es ih => exact ih _ _ (h.emit hc e)

theorem calm_emitAll {c : Circuit} (hc : calm ⟨c, now⟩) (events : List Event) :
    calm ⟨events.foldl Circuit.emit c, now⟩ := by
  induction events generalizing c with
  | nil => exact hc
  | cons e es ih => exact ih (h.calm_emit hc e)

theorem assess (hb : b.Like like b') (now : Instant) (result : Completion ε α) :
    (b'.assess now result).1 = (b.assess now result).1 ∧
      (b.assess now result).2.Like like (b'.assess now result).2 := by
  unfold Breaker.assess
  rw [hb.classifiers, hb.installed]
  obtain ⟨assessment, events, table⟩ := b.classifiers.assess b.installed now result
  have hlike : Breaker.Like like ⟨b.circuit, table, b.installed⟩ ⟨b'.circuit, table, b.installed⟩ :=
    ⟨hb.circuit, rfl, rfl⟩
  exact ⟨rfl, h.emitAll hlike events⟩

theorem acquire (hb : b.Like like b') (now : Instant) :
    (b'.acquire now).1 = (b.acquire now).1 ∧ (b.acquire now).2.Like like (b'.acquire now).2 := by
  obtain ⟨ha, hc⟩ := h.admission hb.circuit now
  rw [b.acquire_eq, b'.acquire_eq, ha]
  exact ⟨rfl, hc, hb.classifiers, hb.installed⟩

theorem abandon (hb : b.Like like b') (hn : clocks now now') (hcalm : calm ⟨b.circuit, now⟩) (permit : Permit) :
    (b.abandon now permit).Like like (b'.abandon now' permit) := by
  have hc := h.emit hb.circuit (.abandoned b.circuit.name permit.probe)
  rw [b.abandon_eq, b'.abandon_eq]
  unfold Breaker.onCircuit
  dsimp only
  rw [h.name hb.circuit]
  exact ⟨h.trip hc hn (h.calm_emit hcalm _), hb.classifiers, hb.installed⟩

theorem passThrough (hb : b.Like like b') (g : Guard) :
    (g.passThrough b).2.Like like (g.passThrough b').2 := by
  unfold Guard.passThrough Breaker.onCircuit
  refine ⟨?_, hb.classifiers, hb.installed⟩
  dsimp only
  split
  · exact h.releaseProbe hb.circuit
  · exact hb.circuit

theorem settle (hb : b.Like like b') (hn : clocks now now') (permit : Permit) (result : Completion ε α)
    (hcalm : (b.assess now.mono result).1.opens = true → calm ⟨b.circuit, now⟩) :
    (b'.settle now' permit result).1 = (b.settle now permit result).1 ∧
      (b.settle now permit result).2.Like like (b'.settle now' permit result).2 := by
  have hassessed (ho : (b.assess now.mono result).1.opens = true) :
      calm ⟨(b.assess now.mono result).2.circuit, now⟩ := h.calm_emitAll (hcalm ho) _
  obtain ⟨ha, hb⟩ := h.assess hb now.mono result
  unfold Breaker.settle
  rw [h.mono hn]
  clear hcalm
  generalize b.assess now.mono result = assessed at ha hb hassessed
  generalize b'.assess now.mono result = assessed' at ha hb
  obtain ⟨assessment, b⟩ := assessed
  obtain ⟨assessment', b'⟩ := assessed'
  obtain rfl : assessment' = assessment := ha
  cases assessment' with
  | success v => exact ⟨rfl, h.succeed hb.circuit, hb.classifiers, hb.installed⟩
  | tripping error =>
    refine ⟨?_, h.trip hb.circuit hn (hassessed rfl), hb.classifiers, hb.installed⟩
    unfold Outcome.afterOpening
    rw [h.fault hn (hassessed rfl)]
  | nonTripping error =>
    have hremarked := h.emitAll hb [.passedThrough b.circuit.name]
    refine ⟨rfl, ?_⟩
    dsimp only
    rw [h.name hb.circuit]
    exact h.passThrough hremarked { permit }
  | crash text => exact ⟨rfl, h.abandon hb hn (hassessed rfl) permit⟩

/-! The same for sessions: each lemma gives the answers and the sessions after. -/

theorem acquire_session (hs : s.Like clocks like aside s') :
    s'.acquire.1 = s.acquire.1 ∧ s.acquire.2.Like clocks like aside s'.acquire.2 := by
  obtain ⟨ha, hb⟩ := h.acquire hs.breaker s.clock.mono
  rw [s.acquire_eq, s'.acquire_eq, h.mono hs.clock]
  exact ⟨ha, hb, hs.clock, hs.calls⟩

theorem settle_session (hs : s.Like clocks like aside s') (permit : Permit) (result : Completion ε α)
    (hcalm : ∀ o ∈ s.ending (some result), calm o) :
    (s'.settle permit result).1 = (s.settle permit result).1 ∧
      (s.settle permit result).2.Like clocks like aside (s'.settle permit result).2 := by
  have hopens : (s.breaker.assess s.clock.mono result).1.opens = true → calm s.opening := by
    intro ho
    apply hcalm
    rw [Session.ending, if_pos ho]
    exact List.mem_singleton_self _
  obtain ⟨ho, hb⟩ := h.settle hs.breaker hs.clock permit result hopens
  exact ⟨ho, hb, hs.clock, hs.calls⟩

theorem abandon_session (hs : s.Like clocks like aside s') (phase : Phase)
    (hcalm : phase ≠ .fresh → calm s.opening) :
    (s.abandon phase).Like clocks like aside (s'.abandon phase) := by
  cases phase with
  | fresh => exact hs
  | running permit => exact ⟨h.abandon hs.breaker hs.clock (hcalm (by simp)) permit, hs.clock, hs.calls⟩

theorem afterOpening_session (hs : s.Like clocks like aside s') (hcalm : calm s.opening) (answer : Answer ε α) :
    s'.afterOpening answer = s.afterOpening answer := by
  unfold Session.afterOpening
  rw [h.fault hs.clock hcalm]

theorem afterAbandoning_session (hs : s.Like clocks like aside s') (phase : Phase)
    (hcalm : phase ≠ .fresh → calm s.opening) (answer : Answer ε α) :
    s'.afterAbandoning answer phase = s.afterAbandoning answer phase := by
  cases phase with
  | fresh => rfl
  | running permit => exact h.afterOpening_session hs (hcalm (by simp)) answer

omit h in
theorem like_onCircuit (hs : s.Like clocks like aside s') {k k' : Circuit → Circuit}
    (hk : like (k s.breaker.circuit) (k' s'.breaker.circuit)) :
    (s.onCircuit k).Like clocks like aside (s'.onCircuit k') :=
  ⟨⟨hk, hs.breaker.classifiers, hs.breaker.installed⟩, hs.clock, hs.calls⟩

omit h in
theorem like_hold (hs : s.Like clocks like aside s') (id : Int) (phase : Phase) :
    Session.Like clocks like aside { s with calls := Session.hold id phase s.calls }
      { s' with calls := Session.hold id phase s'.calls } := by
  refine ⟨hs.breaker, hs.clock, fun other ho => ?_⟩
  rw [Session.lookup_hold, Session.lookup_hold, hs.calls other ho]

omit h in
theorem like_forget (hs : s.Like clocks like aside s') (id : Int) :
    (s.forget id).Like clocks like aside (s'.forget id) := by
  refine ⟨hs.breaker, hs.clock, fun other ho => ?_⟩
  rw [Session.lookup_forget, Session.lookup_forget, hs.calls other ho]

omit h in
theorem calm_of_dropping {phase : Phase} (hl : s.calls.lookup id = some phase)
    (hcalm : ∀ o ∈ s.dropping id, calm o) (hphase : phase ≠ .fresh) : calm s.opening := by
  cases phase with
  | fresh => exact absurd rfl hphase
  | running permit =>
    apply hcalm
    rw [Session.dropping, hl]
    exact List.mem_singleton_self _

theorem create (hs : s.Like clocks like aside s') (hid : ¬ aside id)
    (hcalm : ∀ o ∈ s.dropping id, calm o) :
    (s'.create id : Answer ε α × Session ε).1 = (s.create id).1 ∧
      (s.create id : Answer ε α × Session ε).2.Like clocks like aside
        (s'.create id : Answer ε α × Session ε).2 := by
  unfold Session.create
  rw [hs.calls id hid]
  cases hl : s.calls.lookup id with
  | none => exact ⟨rfl, like_hold hs id .fresh⟩
  | some phase =>
    have hphase := calm_of_dropping hl hcalm
    exact ⟨h.afterAbandoning_session hs phase hphase .created,
      h.abandon_session (like_hold hs id .fresh) phase hphase⟩

theorem progress (hs : s.Like clocks like aside s') (id : Int) (permit : Permit)
    (result : Option (Completion ε α)) (hcalm : ∀ o ∈ s.ending result, calm o) :
    (s'.progress id permit result).1 = (s.progress id permit result).1 ∧
      (s.progress id permit result).2.Like clocks like aside (s'.progress id permit result).2 := by
  cases result with
  | none => exact ⟨rfl, like_hold hs id (.running permit)⟩
  | some result =>
    obtain ⟨ho, hs⟩ := h.settle_session hs permit result hcalm
    unfold Session.progress
    dsimp only
    rw [ho]
    exact ⟨rfl, like_forget hs id⟩

theorem poll (hs : s.Like clocks like aside s') (hid : ¬ aside id) (result : Option (Completion ε α))
    (hcalm : ∀ o ∈ s.polling id result, calm o) :
    (s'.poll id result).1 = (s.poll id result).1 ∧
      (s.poll id result).2.Like clocks like aside (s'.poll id result).2 := by
  unfold Session.polling at hcalm
  unfold Session.poll
  rw [hs.calls id hid]
  cases hl : s.calls.lookup id with
  | none => exact ⟨rfl, hs⟩
  | some phase =>
    rw [hl] at hcalm
    cases phase with
    | running permit => exact h.progress hs id permit result hcalm
    | fresh =>
      obtain ⟨ha, hs⟩ := h.acquire_session hs
      dsimp only at hcalm ⊢
      generalize s.acquire = acquired at ha hs hcalm
      generalize s'.acquire = acquired' at ha hs
      obtain ⟨permit, s⟩ := acquired
      obtain ⟨permit', s'⟩ := acquired'
      obtain rfl : permit' = permit := ha
      cases permit' with
      | none => exact ⟨rfl, like_forget hs id⟩
      | some permit => exact h.progress hs id permit result hcalm

theorem drop (hs : s.Like clocks like aside s') (hid : ¬ aside id)
    (hcalm : ∀ o ∈ s.dropping id, calm o) :
    (s'.drop id : Answer ε α × Session ε).1 = (s.drop id).1 ∧
      (s.drop id : Answer ε α × Session ε).2.Like clocks like aside
        (s'.drop id : Answer ε α × Session ε).2 := by
  unfold Session.drop
  rw [hs.calls id hid]
  cases hl : s.calls.lookup id with
  | none => exact ⟨rfl, hs⟩
  | some phase =>
    have hphase := calm_of_dropping hl hcalm
    exact ⟨h.afterAbandoning_session hs phase hphase .dropped,
      like_forget (h.abandon_session hs phase hphase) id⟩

theorem start (hs : s.Like clocks like aside s') (hid : ¬ aside id)
    (hcalm : ∀ o ∈ s.dropping id, calm o) :
    (s'.start id : Answer ε α × Session ε).1 = (s.start id).1 ∧
      (s.start id : Answer ε α × Session ε).2.Like clocks like aside
        (s'.start id : Answer ε α × Session ε).2 := by
  obtain ⟨ha, hs⟩ := h.create (α := α) hs hid hcalm
  unfold Session.start
  generalize (s.create id : Answer ε α × Session ε) = created at ha hs
  generalize (s'.create id : Answer ε α × Session ε) = created' at ha hs
  obtain ⟨answer, s⟩ := created
  obtain ⟨answer', s'⟩ := created'
  obtain rfl : answer' = answer := ha
  have hpoll := h.poll (α := α) hs hid none (by simp)
  cases answer' with
  | crashed text => exact ⟨rfl, hs⟩
  | _ => exact hpoll

theorem acquireMany (n : Nat) (hs : s.Like clocks like aside s') :
    (Session.acquireMany n s').1 = (Session.acquireMany n s).1 ∧
      (Session.acquireMany n s).2.Like clocks like aside (Session.acquireMany n s').2 := by
  induction n generalizing s s' with
  | zero => exact ⟨rfl, hs⟩
  | succ n ih =>
    obtain ⟨ha, hs⟩ := h.acquire_session hs
    obtain ⟨hmany, hs⟩ := ih hs
    rw [Session.acquireMany, Session.acquireMany]
    dsimp only
    rw [ha, hmany]
    exact ⟨rfl, hs⟩

theorem settleMany (hs : s.Like clocks like aside s') (result : Completion ε α) (permits : List Permit)
    (tally : Tally) (hcalm : ∀ o ∈ Session.endings result permits s, calm o) :
    (Session.settleMany result permits tally s').1 = (Session.settleMany result permits tally s).1 ∧
      (Session.settleMany result permits tally s).2.Like clocks like aside
        (Session.settleMany result permits tally s').2 := by
  induction permits generalizing s s' tally with
  | nil => exact ⟨rfl, hs⟩
  | cons permit permits ih =>
    rw [Session.endings, List.forall_mem_append] at hcalm
    obtain ⟨ho, hs⟩ := h.settle_session hs permit result hcalm.1
    rw [Session.settleMany, Session.settleMany]
    dsimp only
    rw [ho]
    exact ih hs _ hcalm.2

theorem race (hs : s.Like clocks like aside s') (callers : Nat) (result : Completion ε α)
    (hcalm : ∀ o ∈ s.openings (.race callers result), calm o) :
    (s'.race callers result).1 = (s.race callers result).1 ∧
      (s.race callers result).2.Like clocks like aside (s'.race callers result).2 := by
  rw [Session.openings] at hcalm
  obtain ⟨hmany, hs⟩ := h.acquireMany callers hs
  unfold Session.race
  dsimp only
  rw [hmany]
  exact h.settleMany hs result _ _ hcalm

omit h in
theorem next_of_stepLike {step step' : Step ε α} (hstep : StepLike clocks like aside (s.step step) (s'.step step')) :
    (s.next step).Like clocks like aside (s'.next step') :=
  ⟨hstep.session.breaker, hstep.session.clock, hstep.session.calls⟩

omit h in
theorem moments_of_stepLike {step step' : Step ε α}
    (hstep : StepLike clocks like aside (s.step step) (s'.step step')) :
    List.Forall₂ (Moment.Like clocks like) (s.moments step) (s'.moments step') := by
  refine List.rel_append hstep.during (.cons ?_ .nil)
  exact ⟨hstep.answer, hstep.session.breaker, hstep.session.clock⟩

omit h in
theorem stepLike_of_eq {x y : Answer ε α × Session ε} (hd : x.1.during = [])
    (hxy : y.1 = x.1 ∧ x.2.Like clocks like aside y.2) : StepLike clocks like aside x y := by
  refine ⟨by rw [hxy.1], ?_, hxy.2⟩
  rw [hxy.1, hd]
  exact .nil

theorem invoke (hs : s.Like clocks like aside s') (delivery : Delivery α) (operation : List (Step ε α))
    (result : Completion ε α) (hcalm : ∀ o ∈ s.openings (.invoke delivery operation result), calm o)
    (hrun : ∀ {s s' : Session ε}, s.Like clocks like aside s' → (∀ o ∈ s.openingsAlong operation, calm o) →
      List.Forall₂ (Moment.Like clocks like) (trail (s.run operation).1)
          (trail (s'.run (mapWalls f operation)).1) ∧
        (s.run operation).2.Like clocks like aside (s'.run (mapWalls f operation)).2) :
    StepLike clocks like aside (s.step (.invoke delivery operation result))
      (s'.step (.invoke delivery (mapWalls f operation) result)) := by
  rw [Session.openings] at hcalm
  rw [Session.step, Session.step]
  obtain ⟨ha, hs⟩ := h.acquire_session hs
  generalize s.acquire = acquired at ha hs hcalm
  generalize s'.acquire = acquired' at ha hs
  obtain ⟨permit, s⟩ := acquired
  obtain ⟨permit', s'⟩ := acquired'
  obtain rfl : permit' = permit := ha
  cases permit' with
  | none => exact stepLike_of_eq rfl ⟨rfl, hs⟩
  | some permit =>
    rw [List.forall_mem_append] at hcalm
    obtain ⟨htrail, hs⟩ := hrun hs hcalm.1
    obtain ⟨ho, hs⟩ := h.settle_session hs permit result hcalm.2
    refine ⟨?_, htrail, hs⟩
    dsimp only
    rw [ho]
    rfl

omit h

mutual

theorem step (h : Lockstep f calm clocks like) {s s' : Session ε} (hs : s.Like clocks like aside s') :
    ∀ step : Step ε α, (∀ id ∈ step.numbers, ¬ aside id) → (∀ o ∈ s.openings step, calm o) →
    StepLike clocks like aside (s.step step) (s'.step (step.mapWall f))
  | .shift mono wall, _, _ => stepLike_of_eq rfl ⟨rfl, hs.breaker, h.shift hs.clock mono wall, hs.calls⟩
  | .trip, _, hcalm => by
    have hc : calm s.opening := hcalm s.opening (List.mem_singleton_self _)
    refine stepLike_of_eq (Session.afterOpening_during rfl) ⟨h.afterOpening_session hs hc .done, ?_⟩
    exact like_onCircuit hs (h.trip hs.breaker.circuit hs.clock hc)
  | .hardTrip, _, hcalm => by
    have hc : calm s.opening := hcalm s.opening (List.mem_singleton_self _)
    refine stepLike_of_eq (Session.afterOpening_during rfl) ⟨h.afterOpening_session hs hc .done, ?_⟩
    exact like_onCircuit hs (h.hardTrip hs.breaker.circuit hs.clock hc)
  | .reset, _, _ => stepLike_of_eq rfl ⟨rfl, like_onCircuit hs (h.reset hs.breaker.circuit)⟩
  | .setTimeout timeout, _, _ =>
    stepLike_of_eq rfl ⟨rfl, like_onCircuit hs (h.setTimeout hs.breaker.circuit timeout)⟩
  | .install classifier, _, _ =>
    stepLike_of_eq rfl ⟨rfl, ⟨hs.breaker.circuit, hs.breaker.classifiers, rfl⟩, hs.clock, hs.calls⟩
  | .look, _, _ => stepLike_of_eq rfl ⟨rfl, hs⟩
  | .invoke delivery operation result, hnumbers, hcalm =>
    h.invoke hs delivery operation result hcalm fun hs hcalm => run h hs operation hnumbers hcalm
  | .create id, hnumbers, hcalm =>
    stepLike_of_eq (s.create_during id) (h.create hs (hnumbers id (List.mem_singleton_self _)) hcalm)
  | .start id, hnumbers, hcalm =>
    stepLike_of_eq (s.start_during id) (h.start hs (hnumbers id (List.mem_singleton_self _)) hcalm)
  | .poll id, hnumbers, _ =>
    stepLike_of_eq (s.poll_during id none) (h.poll hs (hnumbers id (List.mem_singleton_self _)) none (by simp))
  | .finish id result, hnumbers, hcalm =>
    stepLike_of_eq (s.poll_during id (some result))
      (h.poll hs (hnumbers id (List.mem_singleton_self _)) (some result) hcalm)
  | .drop id, hnumbers, hcalm =>
    stepLike_of_eq (s.drop_during id) (h.drop hs (hnumbers id (List.mem_singleton_self _)) hcalm)
  | .race callers result, _, hcalm => by
    obtain ⟨ht, hs⟩ := h.race hs callers result hcalm
    refine stepLike_of_eq rfl ⟨?_, hs⟩
    exact congrArg Answer.raced ht

theorem run (h : Lockstep f calm clocks like) {s s' : Session ε} (hs : s.Like clocks like aside s') :
    ∀ steps : List (Step ε α), (∀ id ∈ numbersOf steps, ¬ aside id) → (∀ o ∈ s.openingsAlong steps, calm o) →
    List.Forall₂ (Moment.Like clocks like) (trail (s.run steps).1) (trail (s'.run (mapWalls f steps)).1) ∧
      (s.run steps).2.Like clocks like aside (s'.run (mapWalls f steps)).2
  | [], _, _ => ⟨.nil, hs⟩
  | t :: ts, hnumbers, hcalm => by
    rw [numbersOf, List.forall_mem_append] at hnumbers
    rw [Session.openingsAlong, List.forall_mem_append] at hcalm
    have ht := step h hs t hnumbers.1 hcalm.1
    obtain ⟨htrail, hend⟩ := run h (next_of_stepLike ht) ts hnumbers.2 hcalm.2
    rw [mapWalls, Session.run_cons, Session.run_cons, Session.trail_run_cons, Session.trail_run_cons]
    exact ⟨List.rel_append (moments_of_stepLike ht) htrail, hend⟩

end

end Lockstep

section Same

variable {calm : Opening → Prop} {clocks : Clock → Clock → Prop} {like : Circuit → Circuit → Prop}
  {aside : Int → Prop} {s s' : Session ε}

/-! The same steps for both sessions. -/

theorem Lockstep.step_same (h : Lockstep id calm clocks like) (hs : s.Like clocks like aside s')
    (step : Step ε α) (hnumbers : ∀ number ∈ step.numbers, ¬ aside number) (hcalm : ∀ o ∈ s.openings step, calm o) :
    StepLike clocks like aside (s.step step) (s'.step step) := by
  have hstep := h.step hs step hnumbers hcalm
  rw [step.mapWall_id] at hstep
  exact hstep

theorem Lockstep.run_same (h : Lockstep id calm clocks like) (hs : s.Like clocks like aside s')
    (steps : List (Step ε α)) (hnumbers : ∀ number ∈ numbersOf steps, ¬ aside number)
    (hcalm : ∀ o ∈ s.openingsAlong steps, calm o) :
    List.Forall₂ (Moment.Like clocks like) (trail (s.run steps).1) (trail (s'.run steps).1) ∧
      (s.run steps).2.Like clocks like aside (s'.run steps).2 := by
  have hrun := h.run hs steps hnumbers hcalm
  rw [mapWalls_id] at hrun
  exact hrun

end Same

end CircuitBreaker
