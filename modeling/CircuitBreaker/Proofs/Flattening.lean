import CircuitBreaker.Proofs.Trail
import CircuitBreaker.Proofs.Traffic

namespace CircuitBreaker

def Move.control {ε α : Type} : Move ε α → Option (Step ε α)
  | enter | settle .. | abandon _ => none
  | trip => some .trip
  | hardTrip => some .hardTrip
  | reset => some .reset
  | setTimeout timeout => some (.setTimeout timeout)
  | install classifier => some (.install classifier)
  | shift mono wall => some (.shift mono wall)

def Setup.session {ε : Type} (s : Setup ε) : Session ε :=
  { breaker := ⟨.ofTimeout s.name s.timeout, s.classifiers, s.installed⟩, clock := s.clock }

namespace Session

variable {ε α : Type}

def Spares (s : Session ε) (result : Completion ε α) : Prop :=
  (s.breaker.assess s.clock.mono result).1.aborts s.clock = false

def SparesPoll (s : Session ε) (id : Int) (result : Completion ε α) : Prop :=
  match s.calls.lookup id with
  | none => True
  | some .fresh => s.acquire.1.isSome = true → s.acquire.2.Spares result
  | some (.running _) => s.Spares result

def SparesMany (result : Completion ε α) : List Permit → Session ε → Prop
  | [], _ => True
  | permit :: permits, s => s.Spares result ∧ SparesMany result permits (s.settle permit result).2

mutual

/-- The process outlives the step. -/
def Outlives (s : Session ε) : Step ε α → Prop
  | .invoke _ operation result =>
    s.acquire.1.isSome = true → s.acquire.2.OutlivesAll operation ∧ (s.acquire.2.run operation).2.Spares result
  | .finish id result => s.SparesPoll id result
  | .race callers result => SparesMany result (acquireMany callers s).1 (acquireMany callers s).2
  | .shift .. | .trip | .hardTrip | .reset | .setTimeout _ | .install _ | .look | .create _ | .start _ | .poll _
  | .drop _ => True

def OutlivesAll (s : Session ε) : List (Step ε α) → Prop
  | [] => True
  | step :: steps => s.Outlives step ∧ (s.next step).OutlivesAll steps

end

end Session

namespace Traffic

variable {ε α : Type} {t u : Traffic ε} {s s' : Session ε} {numbered : Int → Option Call} {call : Call}
  {frames frames' : List Call}

/-- The session is in the situation `t`. A call in flight has a number in the session, or it is one of the
frames: the calls whose operations take the steps. -/
structure Mirrors (t : Traffic ε) (s : Session ε) (numbered : Int → Option Call) (frames : List Call) :
    Prop where
  breaker : s.breaker = t.breaker
  clock : s.clock = t.clock
  tidy : t.Tidy
  running : ∀ id permit, s.calls.lookup id = some (.running permit) ↔
    (numbered id).map Call.permit = some permit
  calls : ∀ call, call ∈ t.calls ↔ call ∈ frames ∨ ∃ id, numbered id = some call
  single : ∀ id other call, numbered id = some call → numbered other = some call → id = other
  apart : ∀ id call, numbered id = some call → call ∉ frames
  distinct : frames.Nodup

theorem mirrors_start (s : Setup ε) : (start s).Mirrors s.session (fun _ => none) [] := by
  constructor <;> simp [start, Setup.session]
  exact tidy_start s

theorem Mirrors.relist (h : t.Mirrors s numbered frames) (hb : s'.breaker = s.breaker) (hc : s'.clock = s.clock)
    (hl : ∀ id, s'.calls.lookup id = s.calls.lookup id) : t.Mirrors s' numbered frames :=
  { h with
    breaker := hb.trans h.breaker
    clock := hc.trans h.clock
    running := fun id permit => by rw [hl]; exact h.running id permit }

theorem Mirrors.report {A : Type} (h : t.Mirrors s numbered frames) (answer : A) (events : List Event) :
    t.Mirrors (s.report answer events).2 numbered frames :=
  h.relist rfl rfl fun _ => rfl

theorem Mirrors.reframe (h : t.Mirrors s numbered frames) (hf : frames.Perm frames') :
    t.Mirrors s numbered frames' :=
  { h with
    calls := fun call => by rw [← hf.mem_iff]; exact h.calls call
    apart := fun id call hid => by rw [← hf.mem_iff]; exact h.apart id call hid
    distinct := hf.nodup_iff.mp h.distinct }

theorem Mirrors.control (h : t.Mirrors s numbered frames) {m : Move ε α} {step : Step ε α}
    (hm : m.control = some step) : (t.move m).Mirrors (s.step step).2 numbered frames := by
  obtain ⟨b, now, calls, reported⟩ := s
  obtain rfl : b = t.breaker := h.breaker
  obtain rfl : now = t.clock := h.clock
  have htidy := h.tidy.move m
  cases m with
  | enter | settle | abandon => cases hm
  | trip | hardTrip | reset | setTimeout | install | shift =>
    cases hm
    exact { h with breaker := rfl, clock := rfl, tidy := htidy }

theorem Mirrors.acquire (h : t.Mirrors s numbered frames) :
    (∃ s', s.acquire = (none, s') ∧ t.enter.Mirrors s' numbered frames) ∨
      ∃ call s', s.acquire = (some call.permit, s') ∧ t.enter.Mirrors s' numbered (call :: frames) := by
  have htidy : t.enter.Tidy := h.tidy.move (.enter : Move ε Unit)
  have hs : s.acquire = ((t.breaker.acquire t.clock.mono).1,
      { s with breaker := (t.breaker.acquire t.clock.mono).2 }) := by
    rw [← h.breaker, ← h.clock]
    rfl
  unfold enter at htidy ⊢
  rw [hs]
  generalize t.breaker.acquire t.clock.mono = acquired at htidy ⊢
  obtain ⟨answer, b⟩ := acquired
  cases answer with
  | none => exact .inl ⟨_, rfl, { h with breaker := rfl, tidy := htidy }⟩
  | some permit =>
    let call : Call := ⟨t.admitted, permit, (t.put b).periods⟩
    have hnew : call ∉ t.calls := fun hmem => absurd (h.tidy.admitted call hmem) (Nat.lt_irrefl _)
    refine .inr ⟨call, _, rfl,
      { h with breaker := rfl, tidy := htidy, calls := ?_, apart := ?_, distinct := ?_ }⟩
    · intro other
      change other ∈ call :: t.calls ↔ _
      rw [List.mem_cons, h.calls other, List.mem_cons, or_assoc]
    · intro id other hid hmem
      rcases List.mem_cons.mp hmem with rfl | hmem
      · exact hnew ((h.calls call).mpr (.inr ⟨id, hid⟩))
      · exact h.apart id other hid hmem
    · exact List.nodup_cons.mpr ⟨fun hmem => hnew ((h.calls call).mpr (.inl hmem)), h.distinct⟩

theorem Mirrors.unframe (h : t.Mirrors s numbered (call :: frames)) (hu : u.Tidy)
    (hcalls : u.calls = (t.forget call.id).calls) (hb : s'.breaker = u.breaker) (hc : s'.clock = u.clock)
    (hs : s'.calls = s.calls) : u.Mirrors s' numbered frames where
  breaker := hb
  clock := hc
  tidy := hu
  running := by rw [hs]; exact h.running
  calls := by
    intro other
    have hmem : call ∈ t.calls := (h.calls call).mpr (.inl List.mem_cons_self)
    have hfresh : call ∉ frames := (List.nodup_cons.mp h.distinct).1
    rw [hcalls, forget, List.mem_filter, h.calls other, List.mem_cons]
    constructor
    · rintro ⟨(rfl | hframe) | hid, hne⟩
      · simp at hne
      · exact .inl hframe
      · exact .inr hid
    · intro hother
      have hne : other ≠ call := by
        rintro rfl
        rcases hother with hframe | ⟨id, hid⟩
        · exact hfresh hframe
        · exact h.apart id other hid List.mem_cons_self
      have hin : other ∈ t.calls := (h.calls other).mpr (hother.imp_left (List.mem_cons_of_mem call))
      refine ⟨hother.imp_left .inr, ?_⟩
      simpa using fun hid => hne (List.inj_on_of_nodup_map h.tidy.distinct hin hmem hid)
  single := h.single
  apart := fun id other hid hmem => h.apart id other hid (List.mem_cons_of_mem call hmem)
  distinct := (List.nodup_cons.mp h.distinct).2

theorem Mirrors.ending (h : t.Mirrors s numbered frames) (hc : call ∈ t.calls) {result : Completion ε α}
    (hs : s.Spares result) : t.ending call.id result = some call := by
  rw [Session.Spares, h.breaker, h.clock] at hs
  exact h.tidy.ending hc hs

theorem Mirrors.settle (h : t.Mirrors s numbered (call :: frames)) {result : Completion ε α} (hs : s.Spares result) :
    (t.settle call.id result).Mirrors (s.settle call.permit result).2 numbered frames := by
  have hfind := h.ending ((h.calls call).mpr (.inl List.mem_cons_self)) hs
  refine h.unframe (h.tidy.move (.settle call.id result)) (by rw [settle_eq hfind]) ?_ ?_ rfl
  · rw [settle_eq hfind, ← h.breaker, ← h.clock]
    rfl
  · rw [settle_eq hfind]
    exact h.clock

theorem Mirrors.abandon (h : t.Mirrors s numbered (call :: frames)) :
    (t.abandon call.id).Mirrors (s.abandon (.running call.permit)) numbered frames := by
  have hfind := h.tidy.find ((h.calls call).mpr (.inl List.mem_cons_self))
  refine h.unframe (h.tidy.move (.abandon call.id : Move ε Unit)) (by rw [abandon_eq hfind]) ?_ ?_ rfl
  · rw [abandon_eq hfind, ← h.breaker, ← h.clock]
    rfl
  · rw [abandon_eq hfind]
    exact h.clock

theorem Mirrors.unnumber (h : t.Mirrors s numbered frames) {id : Int} {calls : List (Int × Phase)}
    (hother : ∀ other, other ≠ id → calls.lookup other = s.calls.lookup other)
    (hid : ∀ permit, calls.lookup id ≠ some (.running permit)) :
    t.Mirrors { s with calls } (fun other => if other = id then none else numbered other)
      ((numbered id).toList ++ frames) where
  breaker := h.breaker
  clock := h.clock
  tidy := h.tidy
  running := by
    intro other permit
    by_cases ho : other = id
    · subst ho
      simp [hid permit]
    · simp only [hother other ho, if_neg ho]
      exact h.running other permit
  calls := by
    intro call
    rw [h.calls call, List.mem_append, Option.mem_toList, or_assoc, or_left_comm]
    refine or_congr Iff.rfl ⟨?_, ?_⟩
    · rintro ⟨other, ho⟩
      by_cases hne : other = id
      · exact .inl (hne ▸ ho)
      · exact .inr ⟨other, by rw [if_neg hne, ho]⟩
    · rintro (hcall | ⟨other, ho⟩)
      · exact ⟨id, hcall⟩
      · split at ho
        · cases ho
        · exact ⟨other, ho⟩
  single := by
    intro one other call hone hother
    split at hone
    · cases hone
    split at hother
    · cases hother
    exact h.single one other call hone hother
  apart := by
    intro other call ho
    split at ho
    · cases ho
    rename_i hne
    rw [List.mem_append, Option.mem_toList, not_or]
    exact ⟨fun hcall => hne (h.single other id call ho hcall), h.apart other call ho⟩
  distinct := by
    cases hn : numbered id with
    | none => exact h.distinct
    | some call => exact List.nodup_cons.mpr ⟨h.apart id call hn, h.distinct⟩

theorem Mirrors.number (h : t.Mirrors s numbered (call :: frames)) {id : Int} (hfree : numbered id = none) :
    t.Mirrors { s with calls := Session.hold id (.running call.permit) s.calls }
      (fun other => if other = id then some call else numbered other) frames where
  breaker := h.breaker
  clock := h.clock
  tidy := h.tidy
  running := by
    intro other permit
    simp only [Session.lookup_hold]
    by_cases ho : other = id
    · simp [ho]
    · simp only [if_neg ho]
      exact h.running other permit
  calls := by
    intro other
    rw [h.calls other, List.mem_cons, or_assoc, or_left_comm]
    refine or_congr Iff.rfl ⟨?_, ?_⟩
    · rintro (rfl | ⟨number, hn⟩)
      · exact ⟨id, if_pos rfl⟩
      · refine ⟨number, ?_⟩
        rw [if_neg, hn]
        rintro rfl
        rw [hfree] at hn
        cases hn
    · rintro ⟨number, hn⟩
      split at hn
      · cases hn
        exact .inl rfl
      · exact .inr ⟨number, hn⟩
  single := by
    intro one other found hone hother
    have hframe (number : Int) : numbered number ≠ some call :=
      fun hn => h.apart number call hn List.mem_cons_self
    split at hone <;> split at hother
    · rename_i ho ho'
      exact ho.trans ho'.symm
    · cases hone
      exact absurd hother (hframe other)
    · cases hother
      exact absurd hone (hframe one)
    · exact h.single one other found hone hother
  apart := by
    intro number found hn hmem
    split at hn
    · cases hn
      exact (List.nodup_cons.mp h.distinct).1 hmem
    · exact h.apart number found hn (List.mem_cons_of_mem call hmem)
  distinct := (List.nodup_cons.mp h.distinct).2

theorem Mirrors.running_numbered (h : t.Mirrors s numbered frames) {id : Int} {permit : Permit}
    (hl : s.calls.lookup id = some (.running permit)) :
    ∃ call, numbered id = some call ∧ call.permit = permit := by
  have hn := (h.running id permit).mp hl
  rwa [Option.map_eq_some_iff] at hn

theorem Mirrors.unnumbered (h : t.Mirrors s numbered frames) {id : Int}
    (hl : ∀ permit, s.calls.lookup id ≠ some (.running permit)) : numbered id = none := by
  cases hn : numbered id with
  | none => rfl
  | some call =>
    have hcall : (numbered id).map Call.permit = some call.permit := by rw [hn]; rfl
    exact absurd ((h.running id call.permit).mpr hcall) (hl call.permit)

theorem Mirrors.forget (h : t.Mirrors s numbered frames) (id : Int) :
    t.Mirrors (s.forget id) (fun other => if other = id then none else numbered other)
      ((numbered id).toList ++ frames) := by
  refine h.unnumber (fun other ho => ?_) (fun permit => ?_)
  · exact (s.lookup_forget id other).trans (if_neg ho)
  · have hnone : (s.forget id).calls.lookup id = none := (s.lookup_forget id id).trans (if_pos rfl)
    exact fun hl => nomatch hnone.symm.trans hl

theorem Mirrors.renew (h : t.Mirrors s numbered frames) (id : Int) :
    t.Mirrors { s with calls := Session.hold id .fresh s.calls }
      (fun other => if other = id then none else numbered other) ((numbered id).toList ++ frames) := by
  refine h.unnumber (fun other ho => ?_) (fun permit => ?_)
  · rw [Session.lookup_hold, if_neg ho]
  · rw [Session.lookup_hold]
    simp

def Follows (α : Type) (t : Traffic ε) (s : Session ε) (frames : List Call) : Prop :=
  ∃ (ms : List (Move ε α)) (numbered : Int → Option Call), (t.run ms).Mirrors s numbered frames

theorem Mirrors.follows (h : t.Mirrors s numbered frames) : Follows α t s frames := ⟨[], numbered, h⟩

theorem follows_of_move (m : Move ε α) (h : Follows α (t.move m) s frames) :
    Follows α t s frames := by
  obtain ⟨ms, numbered, h⟩ := h
  exact ⟨m :: ms, numbered, h⟩

theorem Follows.andThen (h : Follows α t s frames)
    (hnext : ∀ u numbered, Mirrors u s numbered frames → Follows α u s' frames') :
    Follows α t s' frames' := by
  obtain ⟨ms, numbered, h⟩ := h
  obtain ⟨ns, numbered', h'⟩ := hnext _ _ h
  exact ⟨ms ++ ns, numbered', by rw [run_append]; exact h'⟩

theorem Mirrors.create (h : t.Mirrors s numbered frames) (id : Int) :
    Follows α t (s.create id : Answer ε α × Session ε).2 frames := by
  have hfresh := h.renew id
  unfold Session.create
  cases hl : s.calls.lookup id with
  | none =>
    rw [h.unnumbered (by simp [hl])] at hfresh
    exact hfresh.follows
  | some phase =>
    cases phase with
    | fresh =>
      rw [h.unnumbered (by simp [hl])] at hfresh
      exact hfresh.follows
    | running permit =>
      obtain ⟨call, hn, rfl⟩ := h.running_numbered hl
      rw [hn] at hfresh
      exact follows_of_move (.abandon call.id) hfresh.abandon.follows

theorem Mirrors.progress (h : t.Mirrors s numbered (call :: frames)) {id : Int} (hfree : numbered id = none)
    {result : Option (Completion ε α)} (hs : ∀ r ∈ result, s.Spares r) :
    Follows α t (s.progress id call.permit result).2 frames := by
  cases result with
  | none => exact (h.number hfree).follows
  | some result =>
    have hend := (h.settle (hs result rfl)).forget id
    rw [hfree] at hend
    exact follows_of_move (.settle call.id result) hend.follows

theorem Mirrors.finish (h : t.Mirrors s numbered frames) {id : Int} (hn : numbered id = some call)
    {result : Completion ε α} (hs : s.Spares result) :
    (t.settle call.id result).Mirrors (s.poll id (some result)).2
      (fun other => if other = id then none else numbered other) frames := by
  have hl : s.calls.lookup id = some (.running call.permit) := (h.running id call.permit).mpr (by rw [hn]; rfl)
  have hframe := h.forget id
  rw [hn] at hframe
  unfold Session.poll
  rw [hl]
  exact hframe.settle hs

theorem Mirrors.quit (h : t.Mirrors s numbered frames) {id : Int} (hn : numbered id = some call) :
    (t.abandon call.id).Mirrors (s.drop id : Answer ε α × Session ε).2
      (fun other => if other = id then none else numbered other) frames := by
  have hl : s.calls.lookup id = some (.running call.permit) := (h.running id call.permit).mpr (by rw [hn]; rfl)
  have hframe := h.forget id
  rw [hn] at hframe
  unfold Session.drop
  rw [hl]
  exact hframe.abandon

theorem Mirrors.firstPoll (h : t.Mirrors s numbered frames) {id : Int} (hl : s.calls.lookup id = some .fresh)
    (result : Option (Completion ε α)) :
    (∃ numbered', t.enter.Mirrors (s.poll id result).2 numbered' frames) ∨
      ∃ call s', s.acquire = (some call.permit, s') ∧ t.enter.Mirrors s' numbered (call :: frames) ∧
        (s.poll id result).2 = (s'.progress id call.permit result).2 := by
  unfold Session.poll
  rw [hl]
  dsimp only
  rcases h.acquire with ⟨s', ha, hm⟩ | ⟨call, s', ha, hm⟩
  · rw [ha]
    have hend := hm.forget id
    rw [h.unnumbered (by simp [hl])] at hend
    exact .inl ⟨_, hend⟩
  · rw [ha]
    exact .inr ⟨call, s', rfl, hm, rfl⟩

theorem Mirrors.poll (h : t.Mirrors s numbered frames) {id : Int} {result : Option (Completion ε α)}
    (hs : ∀ r ∈ result, s.SparesPoll id r) : Follows α t (s.poll id result).2 frames := by
  unfold Session.SparesPoll at hs
  cases hl : s.calls.lookup id with
  | none =>
    unfold Session.poll
    rw [hl]
    exact h.follows
  | some phase =>
    cases phase with
    | running permit =>
      cases result with
      | some result =>
        obtain ⟨call, hn, -⟩ := h.running_numbered hl
        have hspares : s.Spares result := by simpa [hl] using hs
        exact follows_of_move (.settle call.id result) (h.finish hn hspares).follows
      | none =>
        unfold Session.poll
        rw [hl]
        have hsame (other : Int) :
            (Session.hold id (.running permit) s.calls).lookup other = s.calls.lookup other := by
          rw [Session.lookup_hold]
          by_cases ho : other = id
          · rw [if_pos ho, ho, hl]
          · rw [if_neg ho]
        exact Mirrors.follows (h.relist rfl rfl hsame)
    | fresh =>
      apply follows_of_move .enter
      rcases h.firstPoll hl result with ⟨numbered', hm⟩ | ⟨call, s', ha, hm, hpoll⟩
      · exact hm.follows
      · rw [hpoll]
        apply hm.progress (h.unnumbered (by simp [hl]))
        simpa [hl, ha] using hs

theorem Mirrors.drop (h : t.Mirrors s numbered frames) (id : Int) :
    Follows α t (s.drop id : Answer ε α × Session ε).2 frames := by
  cases hl : s.calls.lookup id with
  | none =>
    unfold Session.drop
    rw [hl]
    exact h.follows
  | some phase =>
    cases phase with
    | fresh =>
      have hforget := h.forget id
      rw [h.unnumbered (by simp [hl])] at hforget
      unfold Session.drop
      rw [hl]
      exact hforget.follows
    | running permit =>
      obtain ⟨call, hn, -⟩ := h.running_numbered hl
      exact follows_of_move (.abandon call.id) (h.quit hn).follows

theorem Mirrors.start (h : t.Mirrors s numbered frames) (id : Int) :
    Follows α t (s.start id : Answer ε α × Session ε).2 frames := by
  have hcreate := h.create (α := α) id
  unfold Session.start
  generalize (s.create id : Answer ε α × Session ε) = created at hcreate
  obtain ⟨answer, s'⟩ := created
  cases answer with
  | crashed text => exact hcreate
  | _ => exact hcreate.andThen fun _ _ hu => hu.poll (by simp)

theorem Mirrors.acquireMany (h : t.Mirrors s numbered frames) (n : Nat) :
    ∃ calls, (Session.acquireMany n s).1 = calls.map Call.permit ∧
      Follows α t (Session.acquireMany n s).2 (calls ++ frames) := by
  induction n generalizing t s frames with
  | zero => exact ⟨[], rfl, h.follows⟩
  | succ n ih =>
    unfold Session.acquireMany
    rcases h.acquire with ⟨s', ha, hm⟩ | ⟨call, s', ha, hm⟩
    · obtain ⟨calls, hcalls, hf⟩ := ih hm
      rw [ha]
      exact ⟨calls, hcalls, follows_of_move .enter hf⟩
    · obtain ⟨calls, hcalls, hf⟩ := ih hm
      rw [ha]
      refine ⟨call :: calls, ?_, follows_of_move .enter (hf.andThen fun _ _ hu => ?_)⟩
      · exact congrArg (call.permit :: ·) hcalls
      · exact (hu.reframe List.perm_middle).follows

theorem Mirrors.settleMany {calls : List Call} (h : t.Mirrors s numbered (calls ++ frames))
    {result : Completion ε α} (hs : Session.SparesMany result (calls.map Call.permit) s) (tally : Tally) :
    Follows α t (Session.settleMany result (calls.map Call.permit) tally s).2 frames := by
  induction calls generalizing t s tally with
  | nil => exact h.follows
  | cons call calls ih => exact follows_of_move (.settle call.id result) (ih (h.settle hs.1) hs.2 _)

theorem Mirrors.race (h : t.Mirrors s numbered frames) {callers : Nat} {result : Completion ε α}
    (hs : Session.SparesMany result (Session.acquireMany callers s).1 (Session.acquireMany callers s).2) :
    Follows α t (s.race callers result).2 frames := by
  obtain ⟨calls, hcalls, hf⟩ := h.acquireMany (α := α) callers
  unfold Session.race
  dsimp only
  rw [hcalls] at hs ⊢
  exact hf.andThen fun _ _ hu => hu.settleMany hs _

mutual

theorem step_followed {t : Traffic ε} {s : Session ε} {numbered : Int → Option Call} {frames : List Call}
    (h : t.Mirrors s numbered frames) : ∀ step : Step ε α, s.Outlives step → Follows α t (s.step step).2 frames
  | .shift mono wall, _ => follows_of_move (.shift mono wall) (h.control rfl).follows
  | .trip, _ => follows_of_move .trip (h.control rfl).follows
  | .hardTrip, _ => follows_of_move .hardTrip (h.control rfl).follows
  | .reset, _ => follows_of_move .reset (h.control rfl).follows
  | .setTimeout timeout, _ => follows_of_move (.setTimeout timeout) (h.control rfl).follows
  | .install classifier, _ => follows_of_move (.install classifier) (h.control rfl).follows
  | .look, _ => h.follows
  | .invoke delivery operation result, hs => by
    rw [Session.Outlives] at hs
    rw [Session.step]
    apply follows_of_move .enter
    change Follows α t.enter _ frames
    rcases h.acquire with ⟨s', ha, hm⟩ | ⟨call, s', ha, hm⟩
    · rw [ha]
      exact hm.follows
    · rw [ha] at hs ⊢
      -- The call is the topmost frame until its operation has ended.
      obtain ⟨hoperation, hspares⟩ := hs rfl
      exact (run_followed hm operation hoperation).andThen fun _ _ hu =>
        follows_of_move (.settle call.id result) (hu.settle hspares).follows
  | .create id, _ => h.create id
  | .start id, _ => h.start id
  | .poll id, _ => h.poll (by simp)
  | .finish id result, hs => h.poll fun r hr => Option.some.inj hr ▸ hs
  | .drop id, _ => h.drop id
  | .race callers result, hs => h.race hs

theorem run_followed {t : Traffic ε} {s : Session ε} {numbered : Int → Option Call} {frames : List Call}
    (h : t.Mirrors s numbered frames) : ∀ steps : List (Step ε α), s.OutlivesAll steps →
      Follows α t (s.run steps).2 frames
  | [], _ => h.follows
  | step :: steps, hs => by
    rw [Session.OutlivesAll] at hs
    rw [Session.run]
    refine (step_followed h step hs.1).andThen fun u _ hu => ?_
    exact run_followed (hu.report (s.step step).1 _) steps hs.2

end

theorem Mirrors.played (h : t.Mirrors s numbered []) (m : Move ε α) :
    ∃ (step : Step ε α) (numbered' : Int → Option Call), s.Outlives step ∧
      (t.move m).Mirrors (s.step step).2 numbered' [] := by
  have hnumber {id : Nat} {call : Call} (hf : t.find id = some call) :
      call.id = id ∧ ∃ number, numbered number = some call := by
    obtain ⟨hc, hid⟩ := find_eq hf
    exact ⟨hid, ((h.calls call).mp hc).resolve_left (by simp)⟩
  cases m with
  | enter =>
    obtain ⟨id, hid⟩ := s.exists_free_number
    have hfree : numbered id = none := h.unnumbered (by simp [hid])
    have hfresh := h.renew id
    rw [hfree] at hfresh
    refine ⟨.start id, ?_⟩
    rw [Session.step, Session.start, Session.create, hid]
    dsimp only
    have hl : (Session.hold id .fresh s.calls).lookup id = some .fresh := by
      rw [Session.lookup_hold, if_pos rfl]
    rcases hfresh.firstPoll hl none with ⟨numbered', hm⟩ | ⟨call, s', -, hm, hpoll⟩
    · exact ⟨numbered', trivial, hm⟩
    · rw [hpoll]
      exact ⟨_, trivial, hm.number (if_pos rfl)⟩
  | settle id result =>
    cases hf : t.ending id result with
    | none =>
      refine ⟨.look, numbered, trivial, ?_⟩
      rw [move, Traffic.settle, hf]
      exact h
    | some call =>
      obtain ⟨ha, hfind⟩ := ending_eq_some_iff.mp hf
      obtain ⟨rfl, number, hn⟩ := hnumber hfind
      have hspares : s.Spares result := by rwa [Session.Spares, h.breaker, h.clock]
      have hl : s.calls.lookup number = some (.running call.permit) :=
        (h.running number call.permit).mpr (by rw [hn]; rfl)
      refine ⟨.finish number result, _, ?_, h.finish hn hspares⟩
      rw [Session.Outlives, Session.SparesPoll, hl]
      exact hspares
  | abandon id =>
    cases hf : t.find id with
    | none =>
      refine ⟨.look, numbered, trivial, ?_⟩
      rw [move, Traffic.abandon, hf]
      exact h
    | some call =>
      obtain ⟨rfl, number, hn⟩ := hnumber hf
      exact ⟨.drop number, _, trivial, h.quit hn⟩
  | trip => exact ⟨.trip, numbered, trivial, h.control rfl⟩
  | hardTrip => exact ⟨.hardTrip, numbered, trivial, h.control rfl⟩
  | reset => exact ⟨.reset, numbered, trivial, h.control rfl⟩
  | setTimeout timeout => exact ⟨.setTimeout timeout, numbered, trivial, h.control rfl⟩
  | install classifier => exact ⟨.install classifier, numbered, trivial, h.control rfl⟩
  | shift mono wall => exact ⟨.shift mono wall, numbered, trivial, h.control rfl⟩

theorem run_played (h : t.Mirrors s numbered []) (ms : List (Move ε α)) :
    ∃ (steps : List (Step ε α)) (numbered' : Int → Option Call), s.OutlivesAll steps ∧
      (t.run ms).Mirrors (s.run steps).2 numbered' [] := by
  induction ms generalizing t s numbered with
  | nil => exact ⟨[], numbered, trivial, h⟩
  | cons m ms ih =>
    obtain ⟨step, numbered', houtlives, hstep⟩ := h.played m
    obtain ⟨steps, numbered'', hrest, hrun⟩ := ih (hstep.report (s.step step).1 [])
    refine ⟨step :: steps, numbered'', ?_, by rw [Session.run]; exact hrun⟩
    rw [Session.OutlivesAll]
    exact ⟨houtlives, hrest⟩

theorem session_states_iff (s : Setup ε) (b : Breaker ε) (now : Clock) :
    (∃ steps : List (Step ε α), s.session.OutlivesAll steps ∧
        (s.session.run steps).2.breaker = b ∧ (s.session.run steps).2.clock = now) ↔
      ∃ ms : List (Move ε α), ((start s).run ms).breaker = b ∧ ((start s).run ms).clock = now := by
  constructor
  · rintro ⟨steps, hsteps, rfl, rfl⟩
    obtain ⟨ms, _, h⟩ := run_followed (mirrors_start s) steps hsteps
    exact ⟨ms, h.breaker.symm, h.clock.symm⟩
  · rintro ⟨ms, rfl, rfl⟩
    obtain ⟨steps, _, hsteps, h⟩ := run_played (mirrors_start s) ms
    exact ⟨steps, hsteps, h.breaker, h.clock⟩

end Traffic

end CircuitBreaker
