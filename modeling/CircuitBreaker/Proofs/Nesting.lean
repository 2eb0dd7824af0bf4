import CircuitBreaker.Proofs.Flattening
import CircuitBreaker.Proofs.Lockstep

namespace CircuitBreaker

variable {ε α : Type}

def Answer.isPending : Answer ε α → Bool
  | .pending => true
  | .done | .created | .dropped | .noSuchCall | .crashed _ | .settled .. | .raced _ => false

def Outcome.replaced (v : Option α) : Outcome ε (Option α) → Outcome ε (Option α)
  | .value _ => .value v
  | .rejected => .rejected
  | .failure error => .failure error
  | .crash text => .crash text

def Outcome.deliver : Delivery α → Outcome ε (Option α) → Outcome ε (Option α)
  | .own, o => o
  | .nothing, o => o.replaced none
  | .fixed v, o => o.replaced (some v)

def Answer.deliver (delivery : Delivery α) : Answer ε α → Answer ε α
  | .settled outcome ran reports => .settled (outcome.deliver delivery) ran reports
  | answer => answer

theorem Answer.deliver_own (answer : Answer ε α) : answer.deliver .own = answer := by
  cases answer <;> rfl

theorem Outcome.deliver_map_some (o : Outcome ε α) (delivery : Delivery α) :
    (o.map some).deliver delivery = o.map delivery.value := by
  cases delivery <;> cases o <;> rfl

def Step.isInvoke : Step ε α → Bool
  | .invoke .. => true
  | _ => false

namespace Session

def Beside (aside : Int → Prop) (s s' : Session ε) : Prop := s.Like Eq Eq aside s'

variable {s s' u : Session ε} {aside : Int → Prop} {n base number : Int} {permit : Permit}

theorem lockstep_eq : Lockstep id (fun _ => True) Eq Eq where
  mono := by rintro _ _ rfl; rfl
  fault := by rintro _ _ _ rfl _; rfl
  shift := by rintro _ _ rfl _ _; rfl
  name := by rintro _ _ rfl; rfl
  emit := by rintro _ _ rfl _; rfl
  calm_emit := fun _ _ => trivial
  admission := by rintro _ _ rfl _; exact ⟨rfl, rfl⟩
  succeed := by rintro _ _ rfl; rfl
  releaseProbe := by rintro _ _ rfl; rfl
  reset := by rintro _ _ rfl; rfl
  setTimeout := by rintro _ _ rfl _; rfl
  trip := by rintro _ _ _ _ rfl rfl _; rfl
  hardTrip := by rintro _ _ _ _ rfl rfl _; rfl

theorem beside_of_eq (hb : s'.breaker = s.breaker) (hn : s'.clock = s.clock)
    (hc : ∀ number, ¬ aside number → s'.calls.lookup number = s.calls.lookup number) : s.Beside aside s' :=
  ⟨⟨by rw [hb], by rw [hb], by rw [hb]⟩, hn.symm, hc⟩

theorem Beside.breaker_eq (h : s.Beside aside s') : s'.breaker = s.breaker := by
  obtain ⟨⟨hc, ht, hi⟩, -, -⟩ := h
  obtain ⟨⟨c, table, installed⟩, now, calls, reported⟩ := s
  obtain ⟨⟨c', table', installed'⟩, now', calls', reported'⟩ := s'
  cases hc
  cases ht
  cases hi
  rfl

theorem moment_eq_of_like {m m' : Moment ε α} (h : m.Like Eq Eq m') : m = m' := by
  obtain ⟨ha, ⟨hc, ht, hi⟩, hn⟩ := h
  obtain ⟨a, ⟨c, table, installed⟩, now⟩ := m
  obtain ⟨a', ⟨c', table', installed'⟩, now'⟩ := m'
  cases ha
  cases hc
  cases ht
  cases hi
  cases hn
  rfl

theorem moments_eq_of_like {ms ms' : List (Moment ε α)} (h : List.Forall₂ (Moment.Like Eq Eq) ms ms') :
    ms = ms' := by
  induction h with
  | nil => rfl
  | cons hm _ ih => rw [moment_eq_of_like hm, ih]

theorem Beside.step (h : s.Beside aside s') {step : Step ε α} (hn : ∀ number ∈ step.numbers, ¬ aside number) :
    s.moments step = s'.moments step ∧ (s.step step).2.Beside aside (s'.step step).2 := by
  have hlike := lockstep_eq.step_same h step hn fun _ _ => trivial
  exact ⟨moments_eq_of_like (Lockstep.moments_of_stepLike hlike), hlike.session⟩

theorem Beside.run (h : s.Beside aside s') {steps : List (Step ε α)}
    (hn : ∀ number ∈ numbersOf steps, ¬ aside number) :
    trail (s.run steps).1 = trail (s'.run steps).1 ∧ (s.run steps).2.Beside aside (s'.run steps).2 := by
  have hlike := lockstep_eq.run_same h steps hn fun _ _ => trivial
  exact ⟨moments_eq_of_like hlike.1, hlike.2⟩

theorem Beside.settle (h : s.Beside aside s') (permit : Permit) (result : Completion ε α) :
    (s'.settle permit result).1 = (s.settle permit result).1 ∧
      (s.settle permit result).2.Beside aside (s'.settle permit result).2 :=
  lockstep_eq.settle_session h permit result fun _ _ => trivial

def callBeside (s : Session ε) (number : Int) (operation : List (Step ε α)) (result : Completion ε α) :
    Answer ε α × List (Report ε (Answer ε α)) × Session ε :=
  match (s.start number : Answer ε α × Session ε) with
  | (.pending, s) =>
    let (during, s) := s.run operation
    let (answer, s) := s.poll number (some result)
    (answer, during, s)
  | (answer, s) => (answer, [], s)

theorem invoke_as_call (hfree : s.calls.lookup number = none) {operation : List (Step ε α)}
    (hother : number ∉ numbersOf operation) (result : Completion ε α) :
    ∃ (outcome : Outcome ε (Option α)) (ran : Bool) (during : List (Report ε (Answer ε α))) (after : Session ε),
      ran = (s.breaker.acquire s.clock.mono).1.isSome ∧
      (∀ delivery, s.step (.invoke delivery operation result) =
        (.settled (outcome.deliver delivery) ran during, after)) ∧
      (s.callBeside number operation result).1 = .settled outcome ran [] ∧
      trail during = trail (s.callBeside number operation result).2.1 ∧
      after.Beside (fun _ => False) (s.callBeside number operation result).2.2 := by
  unfold callBeside
  cases ha : s.acquire.1 with
  | none =>
    obtain ⟨calls, hstart, hcalls⟩ := start_refused (α := α) hfree ha
    rw [hstart]
    refine ⟨.rejected, false, [], s.acquire.2, (congrArg Option.isSome ha).symm, fun delivery => ?_, rfl, rfl, ?_⟩
    · rw [invoke_refused ha]
      cases delivery <;> rfl
    · exact beside_of_eq rfl rfl fun other _ => hcalls other
  | some permit =>
    obtain ⟨calls, hstart, hcalls⟩ := start_admitted (α := α) hfree ha
    rw [hstart]
    dsimp only
    have hbeside : s.acquire.2.Beside (· = number) { s.acquire.2 with calls } :=
      beside_of_eq rfl rfl fun other ho => (hcalls other).trans (if_neg ho)
    obtain ⟨htrail, hrun⟩ := hbeside.run fun other ho (he : other = number) => hother (he ▸ ho)
    have hl : (({ s.acquire.2 with calls } : Session ε).run operation).2.calls.lookup number =
        some (.running permit) := by
      rw [lookup_run _ number operation hother]
      exact (hcalls number).trans (if_pos rfl)
    have hnone : (s.acquire.2.run operation).2.calls.lookup number = none :=
      (lookup_run _ number operation hother).trans hfree
    obtain ⟨houtcome, hsettle⟩ := hrun.settle permit result
    rw [finish_running hl, houtcome]
    let ended := (s.acquire.2.run operation).2.settle permit result
    refine ⟨ended.1.map some, true, _, ended.2, (congrArg Option.isSome ha).symm, fun delivery => ?_, rfl, htrail, ?_⟩
    · rw [Outcome.deliver_map_some]
      exact invoke_admitted ha delivery operation result
    · refine beside_of_eq hsettle.breaker_eq hsettle.clock.symm fun other _ => ?_
      rw [lookup_forget]
      by_cases ho : other = number
      · rw [if_pos ho, ho]
        exact hnone.symm
      · rw [if_neg ho]
        exact hsettle.calls other ho

mutual

/-- The step without nesting: an invoked call gets the number `n`, is started, and is finished once its
operation has taken its steps, which it does only if it is admitted. -/
def flatten (n : Int) (s : Session ε) : Step ε α → List (Delivery α × Step ε α)
  | .invoke delivery operation result =>
    match s.acquire with
    | (none, _) => [(delivery, .start n)]
    | (some _, s) => (.own, .start n) :: (s.flattenAlong (n - 1) operation ++ [(delivery, .finish n result)])
  | step => [(.own, step)]

def flattenAlong (n : Int) (s : Session ε) : List (Step ε α) → List (Delivery α × Step ε α)
  | [] => []
  | step :: steps => s.flatten n step ++ (s.next step).flattenAlong n steps

end

def runFlat (s : Session ε) (flat : List (Delivery α × Step ε α)) : Session ε := (s.run (flat.map Prod.snd)).2

def settledTrail (s : Session ε) (steps : List (Step ε α)) : List (Moment ε α) :=
  (trail (s.run steps).1).filter (!·.answer.isPending)

def flatTrail (s : Session ε) (flat : List (Delivery α × Step ε α)) : List (Moment ε α) :=
  (trail (flat.zipWith (fun x report => { report with answer := report.answer.deliver x.1 })
    (s.run (flat.map Prod.snd)).1)).filter (!·.answer.isPending)

theorem runFlat_cons (s : Session ε) (x : Delivery α × Step ε α) (flat : List (Delivery α × Step ε α)) :
    s.runFlat (x :: flat) = (s.next x.2).runFlat flat := s.run_cons x.2 (flat.map Prod.snd)

theorem runFlat_append (s : Session ε) (flat rest : List (Delivery α × Step ε α)) :
    s.runFlat (flat ++ rest) = (s.runFlat flat).runFlat rest := by
  induction flat generalizing s with
  | nil => rfl
  | cons x flat ih => rw [List.cons_append, runFlat_cons, runFlat_cons, ih]

theorem settledTrail_cons (s : Session ε) (step : Step ε α) (steps : List (Step ε α)) :
    s.settledTrail (step :: steps) =
      (s.moments step).filter (!·.answer.isPending) ++ (s.next step).settledTrail steps := by
  rw [settledTrail, trail_run_cons, List.filter_append]
  rfl

theorem flatTrail_cons (s : Session ε) (x : Delivery α × Step ε α) (flat : List (Delivery α × Step ε α)) :
    s.flatTrail (x :: flat) = (((s.step x.2).1.deliver x.1).during ++
        [Moment.mk ((s.step x.2).1.deliver x.1).bare (s.step x.2).2.breaker (s.step x.2).2.clock]).filter
          (!·.answer.isPending) ++ (s.next x.2).flatTrail flat := by
  rw [flatTrail, flatTrail, List.map_cons, run, ← List.filter_append, List.append_assoc]
  rfl

theorem flatTrail_pending {x : Delivery α × Step ε α} (h : s.step x.2 = (.pending, u))
    (flat : List (Delivery α × Step ε α)) : s.flatTrail (x :: flat) = (s.next x.2).flatTrail flat := by
  rw [flatTrail_cons, h]
  rfl

theorem flatTrail_settled {x : Delivery α × Step ε α} {outcome : Outcome ε (Option α)} {ran : Bool}
    (h : s.step x.2 = (.settled outcome ran [], u)) (flat : List (Delivery α × Step ε α)) :
    s.flatTrail (x :: flat) = ⟨.settled (outcome.deliver x.1) ran [], u.breaker, u.clock⟩ ::
      (s.next x.2).flatTrail flat := by
  rw [flatTrail_cons, h]
  rfl

theorem flatTrail_append (s : Session ε) (flat rest : List (Delivery α × Step ε α)) :
    s.flatTrail (flat ++ rest) = s.flatTrail flat ++ (s.runFlat flat).flatTrail rest := by
  induction flat generalizing s with
  | nil => rfl
  | cons x flat ih => rw [List.cons_append, flatTrail_cons, flatTrail_cons, runFlat_cons, ih, List.append_assoc]

theorem flatten_of_not_invoke {step : Step ε α} (h : step.isInvoke = false) : s.flatten n step = [(.own, step)] := by
  cases step with
  | invoke => cases h
  | _ => rfl

mutual

theorem flatten_flat (n : Int) (s : Session ε) : ∀ step : Step ε α, ∀ x ∈ s.flatten n step, x.2.isInvoke = false
  | .invoke delivery operation result, x, hx => by
    rw [flatten] at hx
    split at hx
    · rw [List.mem_singleton.mp hx]
      rfl
    · rcases List.mem_cons.mp hx with rfl | hx
      · rfl
      · rcases List.mem_append.mp hx with hx | hx
        · exact flattenAlong_flat (n - 1) _ operation x hx
        · rw [List.mem_singleton.mp hx]
          rfl
  | .shift .., x, hx | .trip, x, hx | .hardTrip, x, hx | .reset, x, hx | .setTimeout _, x, hx | .install _, x, hx
  | .look, x, hx | .create _, x, hx | .start _, x, hx | .poll _, x, hx | .finish .., x, hx | .drop _, x, hx
  | .race .., x, hx => by
    rw [flatten, List.mem_singleton] at hx
    · rw [hx]
      rfl
    · simp

theorem flattenAlong_flat (n : Int) (s : Session ε) : ∀ steps : List (Step ε α),
    ∀ x ∈ s.flattenAlong n steps, x.2.isInvoke = false
  | [], x, hx => nomatch hx
  | step :: steps, x, hx => by
    rw [flattenAlong] at hx
    rcases List.mem_append.mp hx with hx | hx
    · exact flatten_flat n s step x hx
    · exact flattenAlong_flat n (s.next step) steps x hx

end

/-- The flat run from `s'` shows the moments, ends beside `u`, and leaves the numbers up to `base` as they were. -/
structure Follows (base : Int) (s' : Session ε) (moments : List (Moment ε α)) (u : Session ε)
    (flat : List (Delivery α × Step ε α)) : Prop where
  trail : s'.flatTrail flat = moments
  session : u.Beside (· ≤ base) (s'.runFlat flat)
  kept : ∀ number ≤ base, (s'.runFlat flat).calls.lookup number = s'.calls.lookup number

theorem follows_step (h : s.Beside (· ≤ base) s') {step : Step ε α} (hi : step.isInvoke = false)
    (hn : ∀ number ∈ step.numbers, base < number) :
    Follows base s' ((s.moments step).filter (!·.answer.isPending)) (s.next step) (s.flatten n step) := by
  obtain ⟨hmoments, hs⟩ := h.step fun number hnumber => Int.not_le.mpr (hn number hnumber)
  rw [flatten_of_not_invoke hi]
  refine ⟨?_, ⟨hs.breaker, hs.clock, hs.calls⟩, fun number hle => ?_⟩
  · rw [flatTrail_cons, Answer.deliver_own, hmoments]
    exact List.append_nil _
  · exact lookup_step s' number step fun hnumber => absurd hle (Int.not_le.mpr (hn number hnumber))

theorem follows_refused (h : s.Beside (· ≤ base) s') (hfree : s'.calls.lookup n = none)
    (hp : s.acquire.1 = none) (delivery : Delivery α) (operation : List (Step ε α)) (result : Completion ε α) :
    Follows base s' ((s.moments (.invoke delivery operation result)).filter (!·.answer.isPending))
      (s.next (.invoke delivery operation result)) [(delivery, .start n)] := by
  obtain ⟨ha, hacquire⟩ := lockstep_eq.acquire_session h
  obtain ⟨calls, hstart, hcalls⟩ := start_refused (α := α) hfree (ha.trans hp)
  have hstep : s'.step (.start n : Step ε α) = _ := hstart
  have hnext : s'.next (.start n : Step ε α) = (({ s'.acquire.2 with calls } : Session ε).report () []).2 := by
    rw [next, hstep]
    rfl
  unfold moments next
  rw [invoke_refused hp]
  refine ⟨?_, ?_, fun number _ => ?_⟩
  · rw [flatTrail_settled hstep, hacquire.clock, ← Beside.breaker_eq hacquire]
    cases delivery <;> rfl
  · rw [runFlat_cons, hnext]
    exact ⟨hacquire.breaker, hacquire.clock, fun number hnot =>
      (hcalls number).trans (hacquire.calls number hnot)⟩
  · rw [runFlat_cons, hnext]
    exact hcalls number

theorem follows_admitted (h : s.Beside (· ≤ base) s') (hle : n ≤ base)
    (hfree : ∀ number ≤ n, s'.calls.lookup number = none) (hp : s.acquire.1 = some permit)
    (delivery : Delivery α) (operation : List (Step ε α)) (result : Completion ε α)
    {flat : List (Delivery α × Step ε α)}
    (hrun : ∀ {s'' : Session ε}, s.acquire.2.Beside (· ≤ base) s'' →
      (∀ number ≤ n - 1, s''.calls.lookup number = none) →
      Follows base s'' (s.acquire.2.settledTrail operation) (s.acquire.2.run operation).2 flat) :
    Follows base s' ((s.moments (.invoke delivery operation result)).filter (!·.answer.isPending))
      (s.next (.invoke delivery operation result)) ((.own, .start n) :: (flat ++ [(delivery, .finish n result)])) := by
  obtain ⟨ha, hacquire⟩ := lockstep_eq.acquire_session h
  obtain ⟨calls, hstart, hcalls⟩ := start_admitted (α := α) (hfree n (Int.le_refl n)) (ha.trans hp)
  have hstep : s'.step (.start n : Step ε α) = _ := hstart
  have hnext : s'.next (.start n : Step ε α) = (({ s'.acquire.2 with calls } : Session ε).report () []).2 := by
    rw [next, hstep]
    rfl
  -- The number is the call's own while the operation takes its steps, and free again once it is finished.
  let v := s'.next (.start n : Step ε α)
  have hv : s.acquire.2.Beside (· ≤ base) v := by
    rw [show v = _ from hnext]
    refine ⟨hacquire.breaker, hacquire.clock, fun number hnot => ?_⟩
    have hne : number ≠ n := fun he => hnot (he ▸ hle)
    exact ((hcalls number).trans (if_neg hne)).trans (hacquire.calls number hnot)
  have hvcalls (number : Int) : v.calls.lookup number =
      if number = n then some (.running permit) else s'.calls.lookup number := by
    rw [show v = _ from hnext]
    exact hcalls number
  have hflat := hrun hv fun number hnumber => by
    rw [hvcalls, if_neg (by omega)]
    exact hfree number (by omega)
  have hl : (v.runFlat flat).calls.lookup n = some (.running permit) := by
    rw [hflat.kept n hle, hvcalls, if_pos rfl]
  obtain ⟨houtcome, hsettle⟩ := hflat.session.settle permit result
  have hfinish : (v.runFlat flat).step (.finish n result) = _ := finish_running hl result
  have hlast : (v.runFlat flat).next (.finish n result) =
      ((((v.runFlat flat).settle permit result).2.forget n).report () []).2 := by
    rw [next, hfinish]
    rfl
  unfold moments next
  rw [invoke_admitted hp]
  refine ⟨?_, ?_, fun number hnumber => ?_⟩
  · rw [flatTrail_pending hstep, flatTrail_append, hflat.trail, flatTrail_settled hfinish, houtcome,
      Outcome.deliver_map_some, List.filter_append, hsettle.clock, ← hsettle.breaker_eq]
    rfl
  · rw [runFlat_cons, runFlat_append, runFlat_cons, hlast]
    refine ⟨hsettle.breaker, hsettle.clock, fun number hnot => ?_⟩
    have hne : number ≠ n := fun he => hnot (he ▸ hle)
    exact ((lookup_forget _ n number).trans (if_neg hne)).trans (hsettle.calls number hnot)
  · rw [runFlat_cons, runFlat_append, runFlat_cons, hlast]
    refine (lookup_forget _ n number).trans ?_
    by_cases hne : number = n
    · rw [if_pos hne, hne]
      exact (hfree n (Int.le_refl n)).symm
    · rw [if_neg hne]
      exact (hflat.kept number hnumber).trans ((hvcalls number).trans (if_neg hne))

mutual

theorem flatten_follows {s s' : Session ε} {base n : Int} (h : s.Beside (· ≤ base) s') (hle : n ≤ base)
    (hfree : ∀ number ≤ n, s'.calls.lookup number = none) : ∀ step : Step ε α,
    (∀ number ∈ step.numbers, base < number) →
    Follows base s' ((s.moments step).filter (!·.answer.isPending)) (s.next step) (s.flatten n step)
  | .invoke delivery operation result, hn => by
    rw [flatten]
    cases hp : s.acquire.1 with
    | none =>
      have hacquire : s.acquire = (none, s.acquire.2) := by rw [← hp]
      rw [hacquire]
      exact follows_refused h (hfree n (Int.le_refl n)) hp delivery operation result
    | some permit =>
      have hacquire : s.acquire = (some permit, s.acquire.2) := by rw [← hp]
      rw [hacquire]
      exact follows_admitted h hle hfree hp delivery operation result fun hs hfree =>
        flattenAlong_follows hs (by omega) hfree operation hn
  | .shift .., hn | .trip, hn | .hardTrip, hn | .reset, hn | .setTimeout _, hn | .install _, hn | .look, hn
  | .create _, hn | .start _, hn | .poll _, hn | .finish .., hn | .drop _, hn | .race .., hn =>
    follows_step h rfl hn

theorem flattenAlong_follows {s s' : Session ε} {base n : Int} (h : s.Beside (· ≤ base) s') (hle : n ≤ base)
    (hfree : ∀ number ≤ n, s'.calls.lookup number = none) : ∀ steps : List (Step ε α),
    (∀ number ∈ numbersOf steps, base < number) →
    Follows base s' (s.settledTrail steps) (s.run steps).2 (s.flattenAlong n steps)
  | [], _ => ⟨rfl, h, fun _ _ => rfl⟩
  | step :: steps, hn => by
    rw [numbersOf, List.forall_mem_append] at hn
    have hstep := flatten_follows h hle hfree step hn.1
    have hrest := flattenAlong_follows hstep.session hle
      (fun number hnumber => (hstep.kept number (by omega)).trans (hfree number hnumber)) steps hn.2
    rw [flattenAlong, settledTrail_cons, run_cons]
    refine ⟨?_, ?_, fun number hnumber => ?_⟩
    · rw [flatTrail_append, hstep.trail, hrest.trail]
    · rw [runFlat_append]
      exact hrest.session
    · rw [runFlat_append]
      exact (hrest.kept number hnumber).trans (hstep.kept number hnumber)

end

theorem nested_calls_flatten (s : Session ε) :
    (∀ number (operation : List (Step ε α)), s.calls.lookup number = none → number ∉ numbersOf operation →
      ∀ result : Completion ε α,
        ∃ (outcome : Outcome ε (Option α)) (ran : Bool) (during : List (Report ε (Answer ε α))) (after : Session ε),
          ran = (s.breaker.acquire s.clock.mono).1.isSome ∧
          s.step (.invoke .own operation result) = (.settled outcome ran during, after) ∧
          s.step (.invoke .nothing operation result) = (.settled (outcome.replaced none) ran during, after) ∧
          (∀ v, s.step (.invoke (.fixed v) operation result) =
            (.settled (outcome.replaced (some v)) ran during, after)) ∧
          (s.callBeside number operation result).1 = .settled outcome ran [] ∧
          trail during = trail (s.callBeside number operation result).2.1 ∧
          after.Beside (fun _ => False) (s.callBeside number operation result).2.2) ∧
      ∀ n (steps : List (Step ε α)), (∀ number ∈ numbersOf steps, n < number) →
        (∀ number ≤ n, s.calls.lookup number = none) →
        (∀ x ∈ s.flattenAlong n steps, x.2.isInvoke = false) ∧
          s.flatTrail (s.flattenAlong n steps) = s.settledTrail steps ∧
          (s.run steps).2.Beside (fun _ => False) (s.runFlat (s.flattenAlong n steps)) := by
  constructor
  · intro number operation hfree hother result
    obtain ⟨outcome, ran, during, after, hran, hforms, hrest⟩ := invoke_as_call hfree hother result
    exact ⟨outcome, ran, during, after, hran, hforms .own, hforms .nothing, fun v => hforms (.fixed v), hrest⟩
  · intro n steps hn hfree
    have hsame : s.Beside (· ≤ n) s := beside_of_eq rfl rfl fun _ _ => rfl
    have hflat := flattenAlong_follows hsame (Int.le_refl n) hfree steps hn
    refine ⟨flattenAlong_flat n s steps, hflat.trail, ?_⟩
    refine ⟨hflat.session.breaker, hflat.session.clock, fun number _ => ?_⟩
    by_cases hle : number ≤ n
    · have hrun := lookup_run s number steps fun hnumber => absurd hle (Int.not_le.mpr (hn number hnumber))
      exact (hflat.kept number hle).trans hrun.symm
    · exact hflat.session.calls number hle

def tripInside : List (Step Unit Unit) := [.trip, .invoke .own [] (.value ()), .create 1]

theorem trip_inside_flattens :
    let s := Traffic.plain.session
    let flat := s.flattenAlong (-1) [.invoke .nothing tripInside (.value ())]
    flat = [(.own, .start (-1)), (.own, .trip), (.own, .start (-2)), (.own, .create 1),
        (.nothing, .finish (-1) (.value ()))] ∧
      s.flatTrail flat = s.settledTrail [.invoke .nothing tripInside (.value ())] ∧
      ∃ (outcome : Outcome Unit (Option Unit)) (ran : Bool) (during : List (Report Unit (Answer Unit Unit))),
        (s.step (.invoke .nothing tripInside (.value ()))).1 = .settled (outcome.replaced none) ran during ∧
          (s.callBeside 0 tripInside (.value ())).1 = .settled outcome ran [] := by
  intro s flat
  obtain ⟨outcome, ran, during, after, -, -, hinvoke, -, hcall, -⟩ :=
    (nested_calls_flatten s).1 0 tripInside rfl (by decide) (.value ())
  have hflat := (nested_calls_flatten s).2 (-1) [.invoke .nothing tripInside (.value ())] (by decide)
    (fun _ _ => rfl)
  exact ⟨rfl, hflat.2.1, outcome, ran, during, congrArg Prod.fst hinvoke, hcall⟩

end Session

end CircuitBreaker
