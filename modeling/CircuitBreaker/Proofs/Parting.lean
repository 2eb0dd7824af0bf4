import CircuitBreaker.Proofs.Lockstep

namespace CircuitBreaker

variable {ε α : Type}

structure Lasting (P : Circuit → Prop) (on : Clock → Prop) : Prop where
  remark : ∀ {c}, P c → ∀ {e : Event}, e.remark = true → P (c.emit e)
  releaseProbe : ∀ {c}, P c → P c.releaseProbe
  admission : ∀ {c}, P c → ∀ now, P (c.admission now).2
  trip : ∀ {c now}, P c → on now → P (c.trip now)

def Completion.isValue : Completion ε α → Bool
  | .value _ => true
  | .failure _ | .crash _ => false

namespace Lasting

variable {P : Circuit → Prop} {on : Clock → Prop} {result : Completion ε α}

theorem remarks (h : Lasting P on) {c : Circuit} (hc : P c) {events : List Event}
    (hremarks : ∀ e ∈ events, e.remark = true) : P (events.foldl Circuit.emit c) := by
  induction events generalizing c with
  | nil => exact hc
  | cons e es ih =>
    rw [List.forall_mem_cons] at hremarks
    exact ih (h.remark hc hremarks.1) hremarks.2

theorem and_left (h : Lasting P on) (q : Prop) : Lasting (fun c => q ∧ P c) on where
  remark hc _ he := ⟨hc.1, h.remark hc.2 he⟩
  releaseProbe hc := ⟨hc.1, h.releaseProbe hc.2⟩
  admission hc now := ⟨hc.1, h.admission hc.2 now⟩
  trip hc hon := ⟨hc.1, h.trip hc.2 hon⟩

theorem and_right (h : Lasting P on) (q : Prop) : Lasting (fun c => P c ∧ q) on where
  remark hc _ he := ⟨h.remark hc.1 he, hc.2⟩
  releaseProbe hc := ⟨h.releaseProbe hc.1, hc.2⟩
  admission hc now := ⟨h.admission hc.1 now, hc.2⟩
  trip hc hon := ⟨h.trip hc.1 hon, hc.2⟩

theorem settle (h : Lasting P on) {b : Breaker ε} {now : Clock} (hb : P b.circuit) (hon : on now)
    (permit : Permit) (hv : result.isValue = false) : P (b.settle now permit result).2.circuit := by
  obtain ⟨events, hremarks, hsettle⟩ := b.settle_remarked now permit result
  have hc := h.remarks hb hremarks
  rw [hsettle]
  have hpass : ∀ error, P ((events.foldl Circuit.emit b.circuit).conclude now permit
      (.nonTripping error : Assessment ε α)) := by
    intro error
    rw [Circuit.conclude]
    split
    · exact h.releaseProbe hc
    · exact hc
  cases result with
  | value v => cases hv
  | crash text => exact h.trip hc hon
  | failure error =>
    obtain ⟨ruling, ha⟩ := b.assess_failure (α := α) now.mono error
    rw [ha]
    cases ruling with
    | verdict v =>
      cases v with
      | trip => exact h.trip hc hon
      | passThrough => exact hpass error
    | ignored => exact hpass error
    | crash text => exact h.trip hc hon

theorem settleMany (h : Lasting P on) {s : Session ε} (hb : P s.breaker.circuit) (hon : on s.clock)
    (hv : result.isValue = false) (permits : List Permit) (tally : Tally) :
    P (Session.settleMany result permits tally s).2.breaker.circuit := by
  induction permits generalizing s tally with
  | nil => exact hb
  | cons permit permits ih =>
    rw [Session.settleMany]
    exact ih (s := (s.settle permit result).2) (h.settle hb hon permit hv) hon _

theorem wait (h : Lasting P on) {s : Session ε} (hb : P s.breaker.circuit) (id : Int) :
    P (s.poll id (none : Option (Completion ε α))).2.breaker.circuit := by
  unfold Session.poll
  cases s.calls.lookup id with
  | none => exact hb
  | some phase =>
    cases phase with
    | running permit => exact hb
    | fresh =>
      have hadmit := h.admission hb s.clock.mono
      dsimp only
      rw [s.acquire_eq, s.breaker.acquire_eq]
      cases (s.breaker.circuit.admission s.clock.mono).1 <;> exact hadmit

theorem start (h : Lasting P on) {s : Session ε} {id : Int}
    (hb : P (s.create id : Answer ε α × Session ε).2.breaker.circuit) :
    P (s.start id : Answer ε α × Session ε).2.breaker.circuit := by
  unfold Session.start
  generalize (s.create id : Answer ε α × Session ε) = created at hb
  obtain ⟨answer, s'⟩ := created
  have hwait := h.wait (α := α) hb id
  cases answer with
  | crashed text => exact hb
  | _ => exact hwait

end Lasting

/-- Circuits that were alike are apart once they are opened, if the opening is not calm, and stay apart
while calls end by a failure. -/
structure Parting (calm : Opening → Prop) (clocks : Clock → Clock → Prop) (like apart : Circuit → Circuit → Prop) :
    Prop where
  undated : ∀ {o}, ¬ calm o → o.clock.dated = false
  before : ∀ {c now e}, calm ⟨c.emit e, now⟩ → calm ⟨c, now⟩
  opened : ∀ {c c' now now'}, like c c' → clocks now now' → ¬ calm ⟨c, now⟩ → ∀ hard,
    apart (c.opening hard now) (c'.opening hard now')
  left : ∀ c', Lasting (apart · c') fun now => now.dated = false
  right : ∀ c, Lasting (apart c ·) fun _ => True

def Differ (apart : Circuit → Circuit → Prop) (ms ms' : List (Moment ε α)) : Prop :=
  ∃ (k : Nat) (m m' : Moment ε α), ms[k]? = some m ∧ ms'[k]? = some m' ∧ apart m.breaker.circuit m'.breaker.circuit

section Differ

variable {apart : Circuit → Circuit → Prop} {ms ms' rest rest' : List (Moment ε α)}

theorem Differ.append (h : Differ apart ms ms') : Differ apart (ms ++ rest) (ms' ++ rest') := by
  obtain ⟨k, m, m', hm, hm', ha⟩ := h
  obtain ⟨hk, -⟩ := List.getElem?_eq_some_iff.mp hm
  obtain ⟨hk', -⟩ := List.getElem?_eq_some_iff.mp hm'
  refine ⟨k, m, m', ?_, ?_, ha⟩
  · rw [List.getElem?_append_left hk, hm]
  · rw [List.getElem?_append_left hk', hm']

theorem Differ.append_of_length (h : Differ apart rest rest') (hl : ms.length = ms'.length) :
    Differ apart (ms ++ rest) (ms' ++ rest') := by
  obtain ⟨k, m, m', hm, hm', ha⟩ := h
  refine ⟨ms.length + k, m, m', ?_, ?_, ha⟩
  · rw [List.getElem?_append_right (Nat.le_add_right _ _), Nat.add_sub_cancel_left, hm]
  · rw [hl, List.getElem?_append_right (Nat.le_add_right _ _), Nat.add_sub_cancel_left, hm']

theorem Differ.not_forall₂ (h : Differ apart ms ms') {R : Moment ε α → Moment ε α → Prop}
    (hR : ∀ m m', R m m' → ¬ apart m.breaker.circuit m'.breaker.circuit) : ¬ List.Forall₂ R ms ms' := by
  intro hall
  obtain ⟨k, m, m', hm, hm', ha⟩ := h
  obtain ⟨hk, rfl⟩ := List.getElem?_eq_some_iff.mp hm
  obtain ⟨hk', rfl⟩ := List.getElem?_eq_some_iff.mp hm'
  exact hR _ _ (hall.get hk hk') ha

theorem differ_singleton {m m' : Moment ε α} (h : apart m.breaker.circuit m'.breaker.circuit) :
    Differ apart [m] [m'] := ⟨0, m, m', rfl, rfl, h⟩

end Differ

namespace Parting

variable {f : Int → Int} {calm : Opening → Prop} {clocks : Clock → Clock → Prop}
  {like apart : Circuit → Circuit → Prop} {aside : Int → Prop} {b b' : Breaker ε} {now now' : Clock}
  {s s' : Session ε} {id : Int} (p : Parting calm clocks like apart) (h : Lockstep f calm clocks like)

include p

theorem before_all {c : Circuit} {events : List Event} (hc : calm ⟨events.foldl Circuit.emit c, now⟩) :
    calm ⟨c, now⟩ := by
  induction events generalizing c with
  | nil => exact hc
  | cons e es ih => exact p.before (ih hc)

include h

theorem abandon (hb : b.Like like b') (hn : clocks now now') (hcalm : ¬ calm ⟨b.circuit, now⟩) (permit : Permit) :
    apart (b.abandon now permit).circuit (b'.abandon now' permit).circuit := by
  have hc := h.emit hb.circuit (.abandoned b.circuit.name permit.probe)
  rw [b.abandon_eq, b'.abandon_eq]
  unfold Breaker.onCircuit
  dsimp only
  rw [h.name hb.circuit]
  exact p.opened hc hn (fun hafter => hcalm (p.before hafter)) false

theorem settle (hb : b.Like like b') (hn : clocks now now') (permit : Permit) {result : Completion ε α}
    (ho : (b.assess now.mono result).1.opens = true) (hcalm : ¬ calm ⟨b.circuit, now⟩) :
    apart (b.settle now permit result).2.circuit (b'.settle now' permit result).2.circuit := by
  have hafter : ¬ calm ⟨(b.assess now.mono result).2.circuit, now⟩ := fun hc => hcalm (p.before_all hc)
  obtain ⟨ha, hb⟩ := h.assess hb now.mono result
  unfold Breaker.settle
  rw [h.mono hn]
  clear hcalm
  generalize b.assess now.mono result = assessed at ha hb hafter ho
  generalize b'.assess now.mono result = assessed' at ha hb
  obtain ⟨assessment, b⟩ := assessed
  obtain ⟨assessment', b'⟩ := assessed'
  obtain rfl : assessment' = assessment := ha
  cases assessment' with
  | success | nonTripping => cases ho
  | tripping error => exact p.opened hb.circuit hn hafter false
  | crash text => exact p.abandon h hb hn hafter permit

theorem settle_session (hs : s.Like clocks like aside s') (permit : Permit) {result : Option (Completion ε α)}
    {o : Opening} (ho : o ∈ s.ending result) (hcalm : ¬ calm o) :
    ∃ ended, result = some ended ∧ ended.isValue = false ∧ s.clock.dated = false ∧
      apart (s.settle permit ended).2.breaker.circuit (s'.settle permit ended).2.breaker.circuit := by
  cases result with
  | none => cases ho
  | some ended =>
    rw [Session.ending] at ho
    split at ho
    · rename_i hopens
      obtain rfl := List.mem_singleton.mp ho
      refine ⟨ended, rfl, ?_, p.undated hcalm, p.settle h hs.breaker hs.clock permit hopens hcalm⟩
      cases ended with
      | value v => cases hopens
      | failure | crash => rfl
    · cases ho

theorem abandon_session (hs : s.Like clocks like aside s') {o : Opening} (ho : o ∈ s.dropping id)
    (hcalm : ¬ calm o) : ∃ permit, s.calls.lookup id = some (.running permit) ∧
      apart (s.breaker.abandon s.clock permit).circuit (s'.breaker.abandon s'.clock permit).circuit := by
  unfold Session.dropping at ho
  cases hl : s.calls.lookup id with
  | none =>
    rw [hl] at ho
    cases ho
  | some phase =>
    rw [hl] at ho
    cases phase with
    | fresh => cases ho
    | running permit =>
      obtain rfl := List.mem_singleton.mp ho
      exact ⟨permit, rfl, p.abandon h hs.breaker hs.clock hcalm permit⟩

theorem create (hs : s.Like clocks like aside s') (hid : ¬ aside id) {o : Opening} (ho : o ∈ s.dropping id)
    (hcalm : ¬ calm o) : apart (s.create id : Answer ε α × Session ε).2.breaker.circuit
      (s'.create id : Answer ε α × Session ε).2.breaker.circuit := by
  obtain ⟨permit, hl, ha⟩ := p.abandon_session h hs ho hcalm
  unfold Session.create
  rw [hs.calls id hid, hl]
  exact ha

theorem drop (hs : s.Like clocks like aside s') (hid : ¬ aside id) {o : Opening} (ho : o ∈ s.dropping id)
    (hcalm : ¬ calm o) : apart (s.drop id : Answer ε α × Session ε).2.breaker.circuit
      (s'.drop id : Answer ε α × Session ε).2.breaker.circuit := by
  obtain ⟨permit, hl, ha⟩ := p.abandon_session h hs ho hcalm
  unfold Session.drop
  rw [hs.calls id hid, hl]
  exact ha

theorem start (hs : s.Like clocks like aside s') (hid : ¬ aside id) {o : Opening} (ho : o ∈ s.dropping id)
    (hcalm : ¬ calm o) : apart (s.start id : Answer ε α × Session ε).2.breaker.circuit
      (s'.start id : Answer ε α × Session ε).2.breaker.circuit :=
  (p.right _).start ((p.left _).start (p.create h hs hid ho hcalm))

theorem progress (hs : s.Like clocks like aside s') (id : Int) (permit : Permit)
    {result : Option (Completion ε α)} {o : Opening} (ho : o ∈ s.ending result) (hcalm : ¬ calm o) :
    apart (s.progress id permit result).2.breaker.circuit (s'.progress id permit result).2.breaker.circuit := by
  obtain ⟨ended, rfl, -, -, ha⟩ := p.settle_session h hs permit ho hcalm
  exact ha

theorem poll (hs : s.Like clocks like aside s') (hid : ¬ aside id) {result : Option (Completion ε α)}
    {o : Opening} (ho : o ∈ s.polling id result) (hcalm : ¬ calm o) :
    apart (s.poll id result).2.breaker.circuit (s'.poll id result).2.breaker.circuit := by
  unfold Session.polling at ho
  unfold Session.poll
  rw [hs.calls id hid]
  cases hl : s.calls.lookup id with
  | none =>
    rw [hl] at ho
    cases ho
  | some phase =>
    rw [hl] at ho
    cases phase with
    | running permit => exact p.progress h hs id permit ho hcalm
    | fresh =>
      obtain ⟨ha, hs⟩ := h.acquire_session hs
      dsimp only at ho ⊢
      generalize s.acquire = acquired at ha hs ho
      generalize s'.acquire = acquired' at ha hs
      obtain ⟨permit, s⟩ := acquired
      obtain ⟨permit', s'⟩ := acquired'
      obtain rfl : permit' = permit := ha
      cases permit' with
      | none => cases ho
      | some permit => exact p.progress h hs id permit ho hcalm

theorem settleMany (hs : s.Like clocks like aside s') {result : Completion ε α} (permits : List Permit)
    (tally tally' : Tally) {o : Opening} (ho : o ∈ Session.endings result permits s) (hcalm : ¬ calm o) :
    apart (Session.settleMany result permits tally s).2.breaker.circuit
      (Session.settleMany result permits tally' s').2.breaker.circuit := by
  induction permits generalizing s s' tally tally' with
  | nil => cases ho
  | cons permit permits ih =>
    rw [Session.endings, List.mem_append] at ho
    rw [Session.settleMany, Session.settleMany]
    by_cases hfirst : ∀ o ∈ s.ending (some result), calm o
    · obtain ⟨-, hs⟩ := h.settle_session hs permit result hfirst
      exact ih hs _ _ (ho.resolve_left fun hmem => hcalm (hfirst o hmem))
    · -- The circuits part here, and the calls that remain end by the same failure.
      push Not at hfirst
      obtain ⟨o', ho', hcalm'⟩ := hfirst
      obtain ⟨ended, hended, hv, hd, ha⟩ := p.settle_session h hs permit ho' hcalm'
      cases hended
      have hleft := (p.left _).settleMany (s := (s.settle permit result).2) ha hd hv permits
        (tally.add (s.settle permit result).1)
      exact (p.right _).settleMany (s := (s'.settle permit result).2) hleft trivial hv permits _

theorem race (hs : s.Like clocks like aside s') (callers : Nat) {result : Completion ε α} {o : Opening}
    (ho : o ∈ s.openings (.race callers result)) (hcalm : ¬ calm o) :
    apart (s.race callers result).2.breaker.circuit (s'.race callers result).2.breaker.circuit := by
  rw [Session.openings] at ho
  obtain ⟨hmany, hs⟩ := h.acquireMany callers hs
  unfold Session.race
  dsimp only
  rw [hmany]
  exact p.settleMany h hs _ _ _ ho hcalm

omit p h in
theorem differ_of_step {step step' : Step ε α} (hd : (s.step step).1.during = [])
    (hd' : (s'.step step').1.during = [])
    (ha : apart (s.step step).2.breaker.circuit (s'.step step').2.breaker.circuit) :
    Differ apart (s.moments step) (s'.moments step') := by
  unfold Session.moments
  rw [hd, hd']
  exact differ_singleton ha

theorem invoke (hs : s.Like clocks like aside s') (delivery : Delivery α) (operation : List (Step ε α))
    (result : Completion ε α) (hnumbers : ∀ id ∈ numbersOf operation, ¬ aside id) {o : Opening}
    (ho : o ∈ s.openings (.invoke delivery operation result)) (hcalm : ¬ calm o)
    (hrun : ∀ {s s' : Session ε}, s.Like clocks like aside s' → (∃ o ∈ s.openingsAlong operation, ¬ calm o) →
      Differ apart (trail (s.run operation).1) (trail (s'.run (mapWalls f operation)).1)) :
    Differ apart (s.moments (.invoke delivery operation result))
      (s'.moments (.invoke delivery (mapWalls f operation) result)) := by
  rw [Session.openings] at ho
  unfold Session.moments
  rw [Session.step, Session.step]
  obtain ⟨ha, hs⟩ := h.acquire_session hs
  generalize s.acquire = acquired at ha hs ho
  generalize s'.acquire = acquired' at ha hs
  obtain ⟨permit, s⟩ := acquired
  obtain ⟨permit', s'⟩ := acquired'
  obtain rfl : permit' = permit := ha
  cases permit' with
  | none => cases ho
  | some permit =>
    by_cases hinner : ∀ o ∈ s.openingsAlong operation, calm o
    · obtain ⟨htrail, hs⟩ := h.run hs operation hnumbers hinner
      have hlast := (List.mem_append.mp ho).resolve_left fun hmem => hcalm (hinner o hmem)
      obtain ⟨ended, hended, -, -, ha⟩ := p.settle_session h hs permit hlast hcalm
      cases hended
      exact (differ_singleton ha).append_of_length htrail.length_eq
    · push Not at hinner
      exact (hrun hs hinner).append

omit p h

mutual

theorem step (p : Parting calm clocks like apart) (h : Lockstep f calm clocks like) {s s' : Session ε}
    (hs : s.Like clocks like aside s') : ∀ step : Step ε α, (∀ id ∈ step.numbers, ¬ aside id) →
    (∃ o ∈ s.openings step, ¬ calm o) → Differ apart (s.moments step) (s'.moments (step.mapWall f))
  | .shift .., _, ⟨_, ho, _⟩ | .reset, _, ⟨_, ho, _⟩ | .setTimeout _, _, ⟨_, ho, _⟩ | .install _, _, ⟨_, ho, _⟩
  | .look, _, ⟨_, ho, _⟩ | .poll _, _, ⟨_, ho, _⟩ => nomatch ho
  | .trip, _, ⟨o, ho, hcalm⟩ => by
    obtain rfl := List.mem_singleton.mp ho
    refine differ_of_step (Session.afterOpening_during rfl) (Session.afterOpening_during rfl) ?_
    exact p.opened hs.breaker.circuit hs.clock hcalm false
  | .hardTrip, _, ⟨o, ho, hcalm⟩ => by
    obtain rfl := List.mem_singleton.mp ho
    refine differ_of_step (Session.afterOpening_during rfl) (Session.afterOpening_during rfl) ?_
    exact p.opened hs.breaker.circuit hs.clock hcalm true
  | .invoke delivery operation result, hnumbers, ⟨_, ho, hcalm⟩ =>
    p.invoke h hs delivery operation result hnumbers ho hcalm fun hs => run p h hs operation hnumbers
  | .create id, hnumbers, ⟨_, ho, hcalm⟩ =>
    differ_of_step (s.create_during id) (s'.create_during id)
      (p.create h hs (hnumbers id (List.mem_singleton_self _)) ho hcalm)
  | .start id, hnumbers, ⟨_, ho, hcalm⟩ =>
    differ_of_step (s.start_during id) (s'.start_during id)
      (p.start h hs (hnumbers id (List.mem_singleton_self _)) ho hcalm)
  | .finish id result, hnumbers, ⟨_, ho, hcalm⟩ =>
    differ_of_step (s.poll_during id (some result)) (s'.poll_during id (some result))
      (p.poll h hs (hnumbers id (List.mem_singleton_self _)) ho hcalm)
  | .drop id, hnumbers, ⟨_, ho, hcalm⟩ =>
    differ_of_step (s.drop_during id) (s'.drop_during id)
      (p.drop h hs (hnumbers id (List.mem_singleton_self _)) ho hcalm)
  | .race callers result, _, ⟨_, ho, hcalm⟩ => differ_of_step rfl rfl (p.race h hs callers ho hcalm)

theorem run (p : Parting calm clocks like apart) (h : Lockstep f calm clocks like) {s s' : Session ε}
    (hs : s.Like clocks like aside s') : ∀ steps : List (Step ε α), (∀ id ∈ numbersOf steps, ¬ aside id) →
    (∃ o ∈ s.openingsAlong steps, ¬ calm o) →
    Differ apart (trail (s.run steps).1) (trail (s'.run (mapWalls f steps)).1)
  | [], _, ⟨_, ho, _⟩ => nomatch ho
  | t :: ts, hnumbers, ⟨o, ho, hcalm⟩ => by
    rw [numbersOf, List.forall_mem_append] at hnumbers
    rw [Session.openingsAlong, List.mem_append] at ho
    rw [mapWalls, Session.trail_run_cons, Session.trail_run_cons]
    -- Up to the first opening that is not calm the runs are in lockstep, so their moments stand side by side.
    by_cases hfirst : ∀ o ∈ s.openings t, calm o
    · have ht := h.step hs t hnumbers.1 hfirst
      have hlater := ho.resolve_left fun hmem => hcalm (hfirst o hmem)
      have hrest := run p h (Lockstep.next_of_stepLike ht) ts hnumbers.2 ⟨o, hlater, hcalm⟩
      exact hrest.append_of_length (Lockstep.moments_of_stepLike ht).length_eq
    · push Not at hfirst
      exact (step p h hs t hnumbers.1 hfirst).append

end

end Parting

end CircuitBreaker
