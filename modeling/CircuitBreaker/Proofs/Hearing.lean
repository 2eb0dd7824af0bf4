import CircuitBreaker.Proofs.Circuit
import CircuitBreaker.Proofs.Trail

namespace CircuitBreaker

variable {ε α : Type}

inductive CallEnd (ε : Type)
  | refused
  | unpolled
  | dropped
  | succeeded
  | failed (error : ε)
  | crashed

def Completion.ending : Completion ε α → CallEnd ε
  | value _ => .succeeded
  | failure error => .failed error
  | crash _ => .crashed

inductive Incident (ε : Type)
  | installed (name : Option String)
  | tripped (now : Clock)
  | ended (now : Clock) (how : CallEnd ε)

@[ext] structure Panel (ε : Type) where
  classifiers : Classifiers ε
  installed : Option String
  lastFailure : Option Instant

def Breaker.panel (b : Breaker ε) : Panel ε := ⟨b.classifiers, b.installed, b.circuit.lastFailure⟩

namespace Classifier

def hear (c : Classifier ε) (heard : Instant × ε) : Classifier ε := (c.judge heard.1 heard.2).2

def hearAll (c : Classifier ε) (heard : List (Instant × ε)) : Classifier ε := heard.foldl hear c

end Classifier

namespace Tolerance

def regards (t : Tolerance ε) (error : ε) : Bool :=
  match anyMatches error t.ignore with
  | .ok false => true
  | .ok true | .error _ => false

def recordAll (t : Tolerance ε) (heard : List (Instant × ε)) : Tolerance ε :=
  (heard.filter fun x => t.regards x.2).foldl (fun t x => t.record x.1) t

end Tolerance

namespace Panel

variable {p : Panel ε} {now : Instant} {error : ε}

def hearer? (p : Panel ε) : Option (Classifier ε) := p.installed.bind fun name => p.classifiers.lookup name

def ruling? (p : Panel ε) (now : Instant) (error : ε) : Option Ruling :=
  p.hearer?.map fun c => (c.judge now error).1

def counts (p : Panel ε) (now : Instant) (error : ε) : Bool :=
  match p.ruling? now error with
  | none | some (.verdict .trip) | some (.crash _) => true
  | some (.verdict .passThrough) | some .ignored => false

def hear (p : Panel ε) (now : Instant) (error : ε) : Panel ε :=
  match p.installed with
  | none => p
  | some name =>
    match p.classifiers.lookup name with
    | none => p
    | some c => { p with classifiers := p.classifiers.replace name (c.hear (now, error)) }

def conclude (p : Panel ε) (now : Clock) : CallEnd ε → Panel ε
  | .refused | .unpolled | .succeeded => p
  | .dropped | .crashed => { p with lastFailure := some now.mono }
  | .failed error =>
    { p.hear now.mono error with
      lastFailure := if p.counts now.mono error then some now.mono else p.lastFailure }

def after (p : Panel ε) : Incident ε → Panel ε
  | .installed name => { p with installed := name }
  | .tripped now => { p with lastFailure := some now.mono }
  | .ended now how => p.conclude now how

def replay (p : Panel ε) (incidents : List (Incident ε)) : Panel ε := incidents.foldl after p

def scan (p : Panel ε) : List (List (Incident ε)) → List (Panel ε)
  | [] => []
  | group :: groups => p.replay group :: (p.replay group).scan groups

theorem counts_iff : p.counts now error = true ↔ p.hearer? = none ∨
    ∃ c, p.hearer? = some c ∧
      ((c.judge now error).1 = .verdict .trip ∨ ∃ text, (c.judge now error).1 = .crash text) := by
  unfold counts ruling?
  cases p.hearer? with
  | none => simp
  | some c =>
    simp only [Option.map_some, reduceCtorEq, Option.some.injEq, exists_eq_left', false_or]
    match (c.judge now error).1 with
    | .verdict .trip | .verdict .passThrough | .ignored | .crash text => simp

theorem replay_append (p : Panel ε) (is js : List (Incident ε)) :
    p.replay (is ++ js) = (p.replay is).replay js := List.foldl_append

theorem scan_append (p : Panel ε) (gs hs : List (List (Incident ε))) :
    p.scan (gs ++ hs) = p.scan gs ++ (p.replay gs.flatten).scan hs := by
  induction gs generalizing p with
  | nil => rfl
  | cons g gs ih => rw [List.cons_append, scan, scan, ih, List.flatten_cons, replay_append, List.cons_append]

theorem scan_getElem {gs : List (List (Incident ε))} {k : Nat} {q : Panel ε} (h : (p.scan gs)[k]? = some q) :
    q = p.replay (gs.take (k + 1)).flatten := by
  induction gs generalizing p k with
  | nil => cases h
  | cons g gs ih =>
    rw [List.take_succ_cons, List.flatten_cons, replay_append]
    cases k with
    | zero =>
      cases h
      rfl
    | succ k => exact ih h

end Panel

/-- The errors that the classifier of this name hears, with the times at which it does. -/
def heardBy (name : String) (installed : Option String) : List (Incident ε) → List (Instant × ε)
  | [] => []
  | .installed other :: incidents => heardBy name other incidents
  | .ended now (.failed error) :: incidents =>
    if installed = some name then (now.mono, error) :: heardBy name installed incidents
    else heardBy name installed incidents
  | _ :: incidents => heardBy name installed incidents

theorem Classifiers.lookup_replace (table : Classifiers ε) (name other : String) (c : Classifier ε) :
    (table.replace name c).lookup other =
      if other = name then (table.lookup other).map fun _ => c else table.lookup other := by
  induction table with
  | nil => simp [replace]
  | cons entry table ih =>
    change List.lookup other ((if entry.1 = name then (name, c) else entry) :: replace name c table) = _
    by_cases hkey : entry.1 = name
    · rw [if_pos hkey, Session.lookup_cons, Session.lookup_cons, ih, hkey]
      by_cases h : other = name <;> simp [h]
    · rw [if_neg hkey, Session.lookup_cons, Session.lookup_cons, ih]
      by_cases h : other = name
      · simp [h, Ne.symm hkey]
      · simp [h]

theorem Panel.hear_installed (p : Panel ε) (now : Instant) (error : ε) :
    (p.hear now error).installed = p.installed := by
  unfold hear
  split
  · rfl
  · split <;> rfl

theorem Panel.lookup_hear (p : Panel ε) (name : String) (now : Instant) (error : ε) :
    (p.hear now error).classifiers.lookup name = (p.classifiers.lookup name).map fun c =>
      if p.installed = some name then c.hear (now, error) else c := by
  unfold hear
  cases hi : p.installed with
  | none => simp
  | some other =>
    dsimp only
    cases hc : p.classifiers.lookup other with
    | none =>
      by_cases h : other = name
      · rw [← h, hc]
        rfl
      · simp [h]
    | some c =>
      rw [Classifiers.lookup_replace]
      by_cases h : other = name
      · simp [← h, hc]
      · simp [h, Ne.symm h]

theorem Panel.lookup_replay (p : Panel ε) (incidents : List (Incident ε)) (name : String) :
    (p.replay incidents).classifiers.lookup name =
      (p.classifiers.lookup name).map (·.hearAll (heardBy name p.installed incidents)) := by
  induction incidents generalizing p with
  | nil => simp [replay, heardBy, Classifier.hearAll]
  | cons incident incidents ih =>
    change ((p.after incident).replay incidents).classifiers.lookup name = _
    rw [ih]
    match incident with
    | .installed other => rfl
    | .tripped now | .ended now .refused | .ended now .unpolled | .ended now .dropped
    | .ended now .succeeded | .ended now .crashed => rfl
    | .ended now (.failed error) =>
      -- Hearing an error does not change who is installed, so the rest is heard by the same classifiers.
      change ((p.hear now.mono error).classifiers.lookup name).map
        (·.hearAll (heardBy name (p.hear now.mono error).installed incidents)) = _
      rw [lookup_hear, hear_installed, heardBy, Option.map_map]
      by_cases h : p.installed = some name <;> simp [h, Classifier.hearAll, Function.comp_def]

theorem Classifier.hearAll_stateful (judge : List (Instant × ε) → Except String Verdict)
    (asked heard : List (Instant × ε)) : (stateful judge asked).hearAll heard = stateful judge (asked ++ heard) := by
  induction heard generalizing asked with
  | nil => rw [List.append_nil]; rfl
  | cons x heard ih => rw [List.append_cons, ← ih]; rfl

theorem Tolerance.hear_eq (t : Tolerance ε) (hlimit : 0 < t.limit) (hwindow : 0 < t.window.nanos)
    (now : Instant) (error : ε) : (Classifier.tolerant t).hear (now, error) =
      .tolerant (if t.regards error then t.record now else t) := by
  have hdisabled : t.disabled = false := by
    simp [disabled]
    omega
  change Classifier.tolerant (t.judge now error).2 = _
  unfold judge regards
  cases anyMatches error t.ignore with
  | error text => rfl
  | ok found =>
    cases found with
    | true => rfl
    | false => simp [count, hdisabled]

theorem Tolerance.hearAll_eq (t : Tolerance ε) (hlimit : 0 < t.limit) (hwindow : 0 < t.window.nanos)
    (heard : List (Instant × ε)) : (Classifier.tolerant t).hearAll heard = .tolerant (t.recordAll heard) := by
  induction heard generalizing t with
  | nil => rfl
  | cons x heard ih =>
    change ((Classifier.tolerant t).hear x).hearAll heard = _
    rw [t.hear_eq hlimit hwindow]
    by_cases hr : t.regards x.2 = true
    · rw [if_pos hr, ih (t.record x.1) hlimit hwindow, recordAll, recordAll, List.filter_cons, if_pos hr]
      rfl
    · rw [if_neg hr, ih t hlimit hwindow, recordAll, recordAll, List.filter_cons, if_neg hr]

namespace Breaker

theorem acquire_panel (b : Breaker ε) (now : Instant) : (b.acquire now).2.panel = b.panel := by
  rcases b.acquire_cases now with ⟨_, j, ha⟩ | ⟨_, _, ha⟩ | ⟨_, _, _, j, ha⟩ | ⟨_, _, _, j, ha⟩
  · rw [ha]
    rfl
  · rw [ha]
  · rw [ha]
    rfl
  · rw [ha]
    rfl

theorem trip_panel (b : Breaker ε) (now : Clock) :
    (b.onCircuit (·.trip now)).panel = b.panel.after (.tripped now) :=
  Panel.ext rfl rfl (b.circuit.trip_lastFailure now)

theorem hardTrip_panel (b : Breaker ε) (now : Clock) :
    (b.onCircuit (·.hardTrip now)).panel = b.panel.after (.tripped now) :=
  Panel.ext rfl rfl (b.circuit.hardTrip_lastFailure now)

theorem abandon_panel (b : Breaker ε) (now : Clock) (permit : Permit) :
    (b.abandon now permit).panel = b.panel.after (.ended now .dropped) :=
  Panel.ext rfl rfl ((b.abandon_alike now permit).lastFailure.trans (b.circuit.trip_lastFailure now))

theorem consult_eq (b : Breaker ε) (now : Instant) (error : ε) :
    b.classifiers.consult b.installed now error =
      ((b.panel.ruling? now error).getD (.verdict .trip), (b.panel.hear now error).classifiers) := by
  unfold Classifiers.consult Panel.ruling? Panel.hearer? Panel.hear panel
  dsimp only
  cases b.installed with
  | none => rfl
  | some name => cases hc : b.classifiers.lookup name <;> simp [hc, Classifier.hear]

theorem assess_failure_eq (b : Breaker ε) (now : Instant) (error : ε) :
    (b.assess now (.failure error : Completion ε α)).1 =
      ((b.panel.ruling? now error).getD (.verdict .trip)).assess error :=
  congrArg (fun x : Ruling × Classifiers ε => x.1.assess error) (b.consult_eq now error)

theorem settle_failure_alike (b : Breaker ε) (now : Clock) (permit : Permit) (error : ε) :
    (b.settle now permit (.failure error : Completion ε α)).2.circuit.Alike
      (if b.panel.counts now.mono error then b.circuit.trip now
        else { b.circuit with probeInFlight := b.circuit.probeInFlight && !permit.probe }) := by
  have halike := b.settle_alike now permit (.failure error : Completion ε α)
  have hpass := b.circuit.passing_alike permit
  rw [b.assess_failure_eq] at halike
  unfold Panel.counts
  match hr : b.panel.ruling? now.mono error with
  | none | some (.verdict .trip) | some (.crash text) =>
    rw [hr] at halike
    exact halike
  | some (.verdict .passThrough) | some .ignored =>
    rw [hr] at halike
    exact halike.trans hpass

theorem settle_panel (b : Breaker ε) (now : Clock) (permit : Permit) (result : Completion ε α) :
    (b.settle now permit result).2.panel = b.panel.after (.ended now result.ending) := by
  have hclassifiers := b.settle_classifiers now permit result
  have hinstalled := b.settle_installed now permit result
  have hfailure := (b.settle_alike now permit result).lastFailure
  cases result with
  | value v => exact Panel.ext hclassifiers hinstalled (hfailure.trans b.circuit.succeed_lastFailure)
  | crash text => exact Panel.ext hclassifiers hinstalled (hfailure.trans (b.circuit.trip_lastFailure now))
  | failure error =>
    have hheard : (b.assess now.mono (.failure error : Completion ε α)).2.classifiers =
        (b.panel.hear now.mono error).classifiers := congrArg Prod.snd (b.consult_eq now.mono error)
    have hcounted := (b.settle_failure_alike (α := α) now permit error).lastFailure
    refine Panel.ext (hclassifiers.trans hheard) (hinstalled.trans (b.panel.hear_installed now.mono error).symm) ?_
    refine hcounted.trans ?_
    change _ = if b.panel.counts now.mono error then some now.mono else b.circuit.lastFailure
    split
    · exact b.circuit.trip_lastFailure now
    · rfl

end Breaker

namespace Session

def polled (s : Session ε) (id : Int) (result : Option (Completion ε α)) : List (Incident ε) :=
  let ended := (result.map fun r => Incident.ended s.clock r.ending).toList
  match s.calls.lookup id with
  | none => []
  | some (.running _) => ended
  | some .fresh => if (s.breaker.acquire s.clock.mono).1.isSome then ended else [.ended s.clock .refused]

def dropped (s : Session ε) (id : Int) : List (Incident ε) :=
  match s.calls.lookup id with
  | none => []
  | some .fresh => [.ended s.clock .unpolled]
  | some (.running _) => [.ended s.clock .dropped]

def started (s : Session ε) (id : Int) : List (Incident ε) :=
  match (s.create id : Answer ε α × Session ε) with
  | (.crashed _, _) => s.dropped id
  | (_, s') => s.dropped id ++ s'.polled id (none : Option (Completion ε α))

def raced (s : Session ε) (callers : Nat) (result : Completion ε α) : List (Incident ε) :=
  let admitted := (acquireMany callers s).1.length
  List.replicate (callers - admitted) (.ended s.clock .refused) ++
    List.replicate admitted (.ended s.clock result.ending)

mutual

/-- The incidents before each moment of the step and after the moment before. -/
def chronicle (s : Session ε) : Step ε α → List (List (Incident ε))
  | .trip | .hardTrip => [[.tripped s.clock]]
  | .install name => [[.installed name]]
  | .shift .. | .reset | .setTimeout _ | .look => [[]]
  | .invoke _ operation result =>
    match s.acquire with
    | (none, _) => [[.ended s.clock .refused]]
    | (some _, s) => s.chronicles operation ++ [[.ended (s.run operation).2.clock result.ending]]
  | .create id | .drop id => [s.dropped id]
  | .start id => [s.started (α := α) id]
  | .poll id => [s.polled id (none : Option (Completion ε α))]
  | .finish id result => [s.polled id (some result)]
  | .race callers result => [s.raced callers result]

def chronicles (s : Session ε) : List (Step ε α) → List (List (Incident ε))
  | [] => []
  | step :: steps => s.chronicle step ++ (s.next step).chronicles steps

end

theorem acquire_panel (s : Session ε) : s.acquire.2.breaker.panel = s.breaker.panel :=
  s.breaker.acquire_panel s.clock.mono

theorem abandon_panel (s : Session ε) (phase : Phase) : (s.abandon phase).breaker.panel =
    s.breaker.panel.after (.ended s.clock (match phase with | .fresh => .unpolled | .running _ => .dropped)) := by
  cases phase with
  | fresh => rfl
  | running permit => exact s.breaker.abandon_panel s.clock permit

theorem create_panel (s : Session ε) (id : Int) : (s.create id : Answer ε α × Session ε).2.breaker.panel =
    s.breaker.panel.replay (s.dropped id) := by
  unfold create dropped
  cases s.calls.lookup id with
  | none => rfl
  | some phase =>
    refine (abandon_panel _ phase).trans ?_
    cases phase <;> rfl

theorem drop_panel (s : Session ε) (id : Int) : (s.drop id : Answer ε α × Session ε).2.breaker.panel =
    s.breaker.panel.replay (s.dropped id) := by
  unfold drop dropped
  cases s.calls.lookup id with
  | none => rfl
  | some phase =>
    refine (s.abandon_panel phase).trans ?_
    cases phase <;> rfl

theorem progress_panel (s : Session ε) (id : Int) (permit : Permit) (result : Option (Completion ε α)) :
    (s.progress id permit result).2.breaker.panel =
      s.breaker.panel.replay (result.map fun r => Incident.ended s.clock r.ending).toList := by
  cases result with
  | none => rfl
  | some result => exact s.breaker.settle_panel s.clock permit result

theorem poll_panel (s : Session ε) (id : Int) (result : Option (Completion ε α)) :
    (s.poll id result).2.breaker.panel = s.breaker.panel.replay (s.polled id result) := by
  unfold poll polled
  cases s.calls.lookup id with
  | none => rfl
  | some phase =>
    cases phase with
    | running permit => exact s.progress_panel id permit result
    | fresh =>
      have hpanel := s.acquire_panel
      have hclock : s.acquire.2.clock = s.clock := rfl
      have hanswer : (s.breaker.acquire s.clock.mono).1 = s.acquire.1 := rfl
      dsimp only
      rw [hanswer]
      generalize s.acquire = acquired at hpanel hclock
      obtain ⟨answer, s'⟩ := acquired
      cases answer with
      | none => exact hpanel
      | some permit =>
        refine (s'.progress_panel id permit result).trans ?_
        rw [hpanel, hclock]
        rfl

theorem start_panel (s : Session ε) (id : Int) : (s.start id : Answer ε α × Session ε).2.breaker.panel =
    s.breaker.panel.replay (s.started (α := α) id) := by
  have hcreate := create_panel (α := α) s id
  unfold start started
  generalize (s.create id : Answer ε α × Session ε) = created at hcreate
  obtain ⟨answer, s'⟩ := created
  cases answer with
  | crashed text => exact hcreate
  | _ =>
    refine (s'.poll_panel id none).trans ?_
    rw [hcreate, ← Panel.replay_append]

theorem acquireMany_panel (n : Nat) (s : Session ε) : (acquireMany n s).2.breaker.panel = s.breaker.panel := by
  induction n generalizing s with
  | zero => rfl
  | succ n ih => exact (ih s.acquire.2).trans s.acquire_panel

theorem settleMany_panel (result : Completion ε α) (permits : List Permit) (tally : Tally) (s : Session ε) :
    (settleMany result permits tally s).2.breaker.panel =
      s.breaker.panel.replay (List.replicate permits.length (.ended s.clock result.ending)) := by
  induction permits generalizing tally s with
  | nil => rfl
  | cons permit permits ih =>
    refine (ih _ (s.settle permit result).2).trans ?_
    rw [show (s.settle permit result).2.breaker.panel = _ from s.breaker.settle_panel s.clock permit result]
    rfl

theorem replay_refused (p : Panel ε) (now : Clock) (n : Nat) :
    p.replay (List.replicate n (.ended now .refused)) = p := by
  induction n with
  | zero => rfl
  | succ n ih => exact ih

theorem race_panel (s : Session ε) (callers : Nat) (result : Completion ε α) :
    (s.race callers result).2.breaker.panel = s.breaker.panel.replay (s.raced callers result) := by
  refine (settleMany_panel result (acquireMany callers s).1 _ (acquireMany callers s).2).trans ?_
  rw [acquireMany_panel, acquireMany_clock, raced, Panel.replay_append, replay_refused]

def Chronicled (s : Session ε) (step : Step ε α) : Prop :=
  (s.moments step).map (·.breaker.panel) = s.breaker.panel.scan (s.chronicle step) ∧
    (s.step step).2.breaker.panel = s.breaker.panel.replay (s.chronicle step).flatten

theorem chronicled_of_quiet {s : Session ε} {step : Step ε α} {incidents : List (Incident ε)}
    (hc : s.chronicle step = [incidents])
    (hd : (s.step step).1.during = []) (hp : (s.step step).2.breaker.panel = s.breaker.panel.replay incidents) :
    s.Chronicled step := by
  unfold Chronicled moments
  rw [hc, hd, List.flatten_singleton]
  exact ⟨congrArg (fun panel => [panel]) hp, hp⟩

mutual

theorem step_chronicled (s : Session ε) : ∀ step : Step ε α, s.Chronicled step
  | .shift .. | .reset | .setTimeout _ | .install _ | .look => chronicled_of_quiet rfl rfl rfl
  | .trip => chronicled_of_quiet rfl (afterOpening_during rfl) (s.breaker.trip_panel s.clock)
  | .hardTrip => chronicled_of_quiet rfl (afterOpening_during rfl) (s.breaker.hardTrip_panel s.clock)
  | .create id => chronicled_of_quiet rfl (s.create_during id) (s.create_panel id)
  | .start id => chronicled_of_quiet rfl (s.start_during id) (s.start_panel id)
  | .poll id => chronicled_of_quiet rfl (s.poll_during id none) (s.poll_panel id none)
  | .finish id result => chronicled_of_quiet rfl (s.poll_during id (some result)) (s.poll_panel id (some result))
  | .drop id => chronicled_of_quiet rfl (s.drop_during id) (s.drop_panel id)
  | .race callers result => chronicled_of_quiet rfl rfl (s.race_panel callers result)
  | .invoke delivery operation result => by
    have hpanel := s.acquire_panel
    unfold Chronicled moments
    rw [step, chronicle]
    generalize s.acquire = acquired at hpanel
    obtain ⟨answer, s'⟩ := acquired
    cases answer with
    | none => exact ⟨congrArg (fun panel => [panel]) hpanel, hpanel⟩
    | some permit =>
      obtain ⟨htrail, hrun⟩ := run_chronicled s' operation
      have hsettle := (s'.run operation).2.breaker.settle_panel (s'.run operation).2.clock permit result
      rw [hpanel] at htrail hrun
      rw [hrun] at hsettle
      dsimp only
      rw [List.map_append, Panel.scan_append, List.flatten_append, Panel.replay_append, ← htrail]
      exact ⟨congrArg (fun panel => (trail (s'.run operation).1).map (·.breaker.panel) ++ [panel]) hsettle, hsettle⟩

theorem run_chronicled (s : Session ε) : ∀ steps : List (Step ε α),
    (trail (s.run steps).1).map (·.breaker.panel) = s.breaker.panel.scan (s.chronicles steps) ∧
      (s.run steps).2.breaker.panel = s.breaker.panel.replay (s.chronicles steps).flatten
  | [] => ⟨rfl, rfl⟩
  | step :: steps => by
    obtain ⟨hmoments, hstep⟩ := step_chronicled s step
    obtain ⟨htrail, hrun⟩ := run_chronicled (s.next step) steps
    have hnext : (s.next step).breaker.panel = s.breaker.panel.replay (s.chronicle step).flatten := hstep
    rw [hnext] at htrail hrun
    rw [trail_run_cons, run_cons, List.map_append, chronicles, hmoments, htrail, hrun, Panel.scan_append,
      List.flatten_append, Panel.replay_append]
    exact ⟨rfl, rfl⟩

end

structure Hears (s : Session ε) (steps : List (Step ε α)) : Prop where
  shown : (trail (s.run steps).1).map (·.breaker.panel) = s.breaker.panel.scan (s.chronicles steps)
  heard : ∀ (k : Nat) (moment : Moment ε α), (trail (s.run steps).1)[k]? = some moment → ∀ name,
    moment.breaker.classifiers.lookup name = (s.breaker.classifiers.lookup name).map
      (·.hearAll (heardBy name s.breaker.installed ((s.chronicles steps).take (k + 1)).flatten))
  asked : ∀ (k : Nat) (moment : Moment ε α), (trail (s.run steps).1)[k]? = some moment → ∀ name judge before,
    s.breaker.classifiers.lookup name = some (.stateful judge before) →
      moment.breaker.classifiers.lookup name = some (.stateful judge
        (before ++ heardBy name s.breaker.installed ((s.chronicles steps).take (k + 1)).flatten))
  recorded : ∀ (k : Nat) (moment : Moment ε α), (trail (s.run steps).1)[k]? = some moment → ∀ name t,
    s.breaker.classifiers.lookup name = some (.tolerant t) → 0 < t.limit → 0 < t.window.nanos →
      moment.breaker.classifiers.lookup name = some (.tolerant
        (t.recordAll (heardBy name s.breaker.installed ((s.chronicles steps).take (k + 1)).flatten)))

structure Heeded (α : Type) (b : Breaker ε) (now : Clock) (permit : Permit) (error : ε) : Prop where
  counts : b.panel.counts now.mono error = true ↔ b.panel.hearer? = none ∨ ∃ c, b.panel.hearer? = some c ∧
    ((c.judge now.mono error).1 = .verdict .trip ∨ ∃ text, (c.judge now.mono error).1 = .crash text)
  opened : b.panel.counts now.mono error = true →
    (b.settle now permit (.failure error : Completion ε α)).2.circuit.Alike (b.circuit.trip now)
  passed : b.panel.counts now.mono error = false →
    (b.settle now permit (.failure error : Completion ε α)).2.circuit.Alike
      { b.circuit with probeInFlight := b.circuit.probeInFlight && !permit.probe }

theorem classifiers_hear (s : Session ε) (steps : List (Step ε α)) :
    s.Hears steps ∧ ∀ (b : Breaker ε) (now : Clock) (permit : Permit) (error : ε), Heeded α b now permit error := by
  constructor
  · have hshown := (run_chronicled s steps).1
    have hheard (k : Nat) (moment : Moment ε α) (hk : (trail (s.run steps).1)[k]? = some moment) (name : String) :
        moment.breaker.classifiers.lookup name = (s.breaker.classifiers.lookup name).map
          (·.hearAll (heardBy name s.breaker.installed ((s.chronicles steps).take (k + 1)).flatten)) := by
      have hpanel : (s.breaker.panel.scan (s.chronicles steps))[k]? = some moment.breaker.panel := by
        rw [← hshown, List.getElem?_map, hk, Option.map_some]
      have hlookup := s.breaker.panel.lookup_replay ((s.chronicles steps).take (k + 1)).flatten name
      rw [← Panel.scan_getElem hpanel] at hlookup
      exact hlookup
    refine ⟨hshown, hheard, fun k moment hk name judge before hc => ?_, fun k moment hk name t ht hlimit hwindow => ?_⟩
    · rw [hheard k moment hk, hc, Option.map_some, Classifier.hearAll_stateful]
    · rw [hheard k moment hk, ht, Option.map_some, t.hearAll_eq hlimit hwindow]
  · intro b now permit error
    have halike := b.settle_failure_alike (α := α) now permit error
    refine ⟨Panel.counts_iff, fun hc => ?_, fun hc => ?_⟩
    · rw [if_pos hc] at halike
      exact halike
    · rw [if_neg (by simp [hc])] at halike
      exact halike

def judgedBy (c : Classifier Unit) : Session Unit :=
  { breaker := ⟨.ofTimeout "default" (.ofMillis 100), [("judge", c)], some "judge"⟩, clock := ⟨⟨0⟩, ⟨0⟩⟩ }

theorem hears_across_swap :
    let t : Tolerance Unit := { limit := 1, window := .ofMillis 5000 }
    let s := judgedBy (.tolerant t)
    let steps : List (Step Unit Unit) := [.invoke .own [] (.failure ()), .invoke .own [.install none] (.failure ()),
      .reset, .shift 1000000000 1000000000, .invoke .own [.install (some "judge")] (.failure ())]
    ∃ moment, (trail (s.run steps).1)[6]? = some moment ∧ moment.breaker.classifiers.lookup "judge" =
      some (.tolerant { t with recent := [⟨0⟩, ⟨1000000000⟩] }) := by
  intro t s steps
  have hmoment : (trail (s.run steps).1)[6]?.isSome = true := by decide +kernel
  obtain ⟨moment, hmoment⟩ := Option.isSome_iff_exists.mp hmoment
  have hheard : heardBy "judge" (some "judge") ((s.chronicles steps).take 7).flatten =
      [(⟨0⟩, ()), (⟨1000000000⟩, ())] := by
    decide +kernel
  have hrecorded := (classifiers_hear s steps).1.recorded 6 moment hmoment "judge" t (by rfl) (by decide) (by decide)
  refine ⟨moment, hmoment, ?_⟩
  exact (hheard ▸ hrecorded :)

theorem crashing_classifier_opens :
    let c : Classifier Unit := .rule fun _ => .error "classifier panic"
    let s := judgedBy c
    s.breaker.panel.hearer? = some c ∧ (c.judge s.clock.mono ()).1 = .crash "classifier panic" ∧
      (s.step (.invoke .own [] (.failure ()) : Step Unit Unit)).2.breaker.circuit.state = .opened := by
  intro c s
  exact ⟨rfl, rfl, rfl⟩

end Session

end CircuitBreaker
