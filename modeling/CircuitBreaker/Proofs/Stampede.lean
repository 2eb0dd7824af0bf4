import CircuitBreaker.Proofs.Lockstep

namespace CircuitBreaker

def Tally.ran (t : Tally) : Nat := t.values + t.failures + t.crashes

def Circuit.Blocks (c : Circuit) (now : Instant) : Prop :=
  c.Refuses now ∨ c.state ≠ .closed ∧ c.probeInFlight = true

namespace Session

variable {ε α : Type} {s : Session ε} {n : Nat} {result : Completion ε α}

def circuit (s : Session ε) : Circuit := s.breaker.circuit

def Blocked (s : Session ε) : Prop := s.circuit.Blocks s.clock.mono

theorem blocked_of_not_ready (hs : s.circuit.state ≠ .closed) (hready : ¬ (s.circuit.hardTripped = false ∧
    s.circuit.probeInFlight = false ∧ s.circuit.Ripe s.clock.mono)) : s.Blocked := by
  by_cases hh : s.circuit.hardTripped = true
  · exact .inl (.inl hh)
  by_cases hp : s.circuit.probeInFlight = true
  · exact .inr ⟨hs, hp⟩
  refine .inl (.inr ?_)
  have hripe : ¬ s.circuit.Ripe s.clock.mono := fun hr => hready ⟨by simpa using hh, by simpa using hp, hr⟩
  cases hstate : s.circuit.state with
  | closed => exact absurd hstate hs
  | halfOpen => exact absurd (.inl hstate) hripe
  | opened => exact ⟨rfl, Bool.eq_false_iff.mpr fun hc => hripe (.inr ⟨hstate, hc⟩)⟩

theorem Blocked.acquire (h : s.Blocked) : s.acquire.1 = none ∧ s.acquire.2.Blocked := by
  rw [s.acquire_eq]
  rcases s.breaker.acquire_cases s.clock.mono with
    ⟨_, j, ha⟩ | ⟨hh, hs, _⟩ | ⟨_, _, hp, j, ha⟩ | ⟨hh, hr, hp, _⟩
  · rw [ha]
    exact ⟨rfl, h⟩
  · rcases h with (hhard | ⟨hopened, -⟩) | ⟨hne, -⟩
    · exact absurd (hhard.symm.trans hh) Bool.noConfusion
    · exact absurd (hopened.symm.trans hs) State.noConfusion
    · exact absurd hs hne
  · rw [ha]
    exact ⟨rfl, .inr ⟨State.noConfusion, hp⟩⟩
  · rcases h with (hhard | ⟨hopened, hcool⟩) | ⟨-, hmark⟩
    · exact absurd (hhard.symm.trans hh) Bool.noConfusion
    · exact absurd hr (Circuit.not_ripe_of_cooling hopened hcool)
    · exact absurd (hmark.symm.trans hp) Bool.noConfusion

theorem acquire_ready (hh : s.circuit.hardTripped = false) (hp : s.circuit.probeInFlight = false)
    (hr : s.circuit.Ripe s.clock.mono) : s.acquire.1 = some ⟨true⟩ ∧ s.acquire.2.Blocked := by
  have hprobe : (s.breaker.acquire s.clock.mono).1 = some ⟨true⟩ :=
    (s.breaker.acquire_probe_iff s.clock.mono).mpr ⟨hh, hr, hp⟩
  refine ⟨hprobe, ?_⟩
  rw [s.acquire_eq]
  rcases s.breaker.acquire_cases s.clock.mono with
    ⟨_, j, ha⟩ | ⟨_, _, ha⟩ | ⟨_, _, _, j, ha⟩ | ⟨_, _, _, j, ha⟩
  all_goals rw [ha] at hprobe ⊢
  · cases hprobe
  · cases hprobe
  · cases hprobe
  · exact .inr ⟨State.noConfusion, rfl⟩

theorem acquire_closed (hh : s.circuit.hardTripped = false) (hs : s.circuit.state = .closed) :
    s.acquire = (some ⟨false⟩, s) := by
  have hadmission : s.circuit.admission s.clock.mono = (.pass, s.circuit) := by
    rw [Circuit.admission, if_neg (by simp [hh]), if_pos hs]
  unfold circuit at hadmission
  rw [s.acquire_eq, s.breaker.acquire_eq, hadmission]

structure Waits (s s' : Session ε) : Prop where
  hardTripped : s'.circuit.hardTripped = s.circuit.hardTripped
  openCount : s'.circuit.openCount = s.circuit.openCount

theorem waits_acquire (s : Session ε) : s.Waits s.acquire.2 := by
  rw [s.acquire_eq]
  rcases s.breaker.acquire_cases s.clock.mono with
    ⟨_, j, ha⟩ | ⟨_, _, ha⟩ | ⟨_, _, _, j, ha⟩ | ⟨_, _, _, j, ha⟩
  all_goals
    rw [ha]
    exact ⟨rfl, rfl⟩

theorem waits_acquireMany (n : Nat) (s : Session ε) : s.Waits (acquireMany n s).2 := by
  induction n generalizing s with
  | zero => exact ⟨rfl, rfl⟩
  | succ n ih =>
    have hfirst := s.waits_acquire
    have hrest := ih s.acquire.2
    exact ⟨hrest.hardTripped.trans hfirst.hardTripped, hrest.openCount.trans hfirst.openCount⟩

theorem acquireMany_succ (n : Nat) (s : Session ε) :
    (acquireMany (n + 1) s).1 = s.acquire.1.toList ++ (acquireMany n s.acquire.2).1 := rfl

theorem Blocked.acquireMany (h : s.Blocked) (n : Nat) : (acquireMany n s).1 = [] := by
  induction n generalizing s with
  | zero => rfl
  | succ n ih =>
    obtain ⟨hnone, hblocked⟩ := h.acquire
    rw [acquireMany_succ, hnone, ih hblocked]
    rfl

structure Admits (s : Session ε) (n : Nat) : Prop where
  closed : s.circuit.state = .closed → (acquireMany n s).1 = List.replicate n ⟨false⟩
  ready : s.circuit.hardTripped = false → s.circuit.probeInFlight = false → s.circuit.Ripe s.clock.mono →
    (acquireMany n s).1 = (List.replicate n ⟨true⟩).take 1
  otherwise : s.circuit.state ≠ .closed → ¬ (s.circuit.hardTripped = false ∧ s.circuit.probeInFlight = false ∧
    s.circuit.Ripe s.clock.mono) → (acquireMany n s).1 = []

theorem acquireMany_closed (hh : s.circuit.hardTripped = false) (hs : s.circuit.state = .closed) (n : Nat) :
    (acquireMany n s).1 = List.replicate n ⟨false⟩ := by
  induction n with
  | zero => rfl
  | succ n ih =>
    rw [acquireMany_succ, acquire_closed hh hs, List.replicate_succ, ih]
    rfl

theorem acquireMany_ready (hh : s.circuit.hardTripped = false) (hp : s.circuit.probeInFlight = false)
    (hr : s.circuit.Ripe s.clock.mono) (n : Nat) :
    (acquireMany n s).1 = (List.replicate n ⟨true⟩).take 1 := by
  cases n with
  | zero => rfl
  | succ n =>
    obtain ⟨hprobe, hblocked⟩ := acquire_ready hh hp hr
    rw [acquireMany_succ, hprobe, hblocked.acquireMany n]
    rfl

theorem admits (hlock : s.circuit.hardTripped = true → s.circuit.Locked) (n : Nat) : s.Admits n where
  closed hs := by
    refine acquireMany_closed (Bool.eq_false_iff.mpr fun hh => ?_) hs n
    exact absurd ((hlock hh).state.symm.trans hs) State.noConfusion
  ready hh hp hr := acquireMany_ready hh hp hr n
  otherwise hs hready := (blocked_of_not_ready hs hready).acquireMany n

/-! One after another, the calls that got through settle with the same result. -/

theorem settle_opens (permit : Permit) (ho : (s.breaker.assess s.clock.mono result).1.opens = true) :
    (s.settle permit result).2.circuit.Alike (s.circuit.trip s.clock) ∧
      s.ending (some result) = [s.opening] := by
  have ha := s.breaker.settle_alike s.clock permit result
  rw [Traffic.conclude_opens ho] at ha
  exact ⟨ha, if_pos ho⟩

theorem settle_passes (permit : Permit) (ho : (s.breaker.assess s.clock.mono result).1.opens = false)
    (hv : ∀ v, result ≠ .value v) :
    (s.settle permit result).2.circuit.Alike
        { s.circuit with probeInFlight := s.circuit.probeInFlight && !permit.probe } ∧
      s.ending (some result) = [] := by
  have ha := s.breaker.settle_alike s.clock permit result
  constructor
  · cases result with
    | value v => exact absurd rfl (hv v)
    | crash text => cases ho
    | failure error =>
      obtain ⟨ruling, hruling⟩ := s.breaker.assess_failure (α := α) s.clock.mono error
      rw [hruling] at ho ha
      match ruling with
      | .verdict .trip | .crash text => cases ho
      | .verdict .passThrough | .ignored => exact ha.trans (s.circuit.passing_alike permit)
  · rw [ending, if_neg (by simp [ho])]

theorem settle_succeeds (permit : Permit) (v : α) :
    (s.settle permit (.value v : Completion ε α)).2.circuit.Alike s.circuit.succeed ∧
      s.ending (some (.value v : Completion ε α)) = [] :=
  ⟨s.breaker.settle_alike s.clock permit (.value v), rfl⟩

theorem settleMany_cons (permit : Permit) (permits : List Permit) (tally : Tally) (s : Session ε) :
    settleMany result (permit :: permits) tally s = settleMany result permits
      (tally.add (s.settle permit result).1) (s.settle permit result).2 := rfl

theorem settleMany_succeeds (hh : s.circuit.hardTripped = false) (v : α) (permits : List Permit)
    (hne : permits ≠ []) (tally : Tally) :
    (settleMany (.value v : Completion ε α) permits tally s).2.circuit.state = .closed := by
  induction permits generalizing s tally with
  | nil => exact absurd rfl hne
  | cons permit permits ih =>
    obtain ⟨halike, -⟩ := settle_succeeds (s := s) permit v
    rw [settleMany_cons]
    cases permits with
    | nil =>
      change (s.settle permit (.value v : Completion ε α)).2.circuit.state = .closed
      rw [halike.state, Circuit.succeed_state, if_neg (by simp [hh])]
    | cons => exact ih (halike.hardTripped.trans ((Circuit.succeed_hardTripped _).trans hh)) (List.cons_ne_nil _ _) _

theorem settle_openCount (permit : Permit) (result : Completion ε α) (s : Session ε) :
    (s.settle permit result).2.circuit.openCount =
      s.circuit.openCount + if s.clock.dated then .ofNat (s.ending (some result)).length else 0 := by
  by_cases ho : (s.breaker.assess s.clock.mono result).1.opens = true
  · obtain ⟨halike, hending⟩ := settle_opens permit ho
    rw [halike.openCount, hending]
    cases hd : s.clock.dated with
    | true => exact (Circuit.opening_of_date s.circuit false hd).openCount
    | false =>
      rw [show s.circuit.trip s.clock = _ from Circuit.opening_of_fault s.circuit false hd]
      simp [Circuit.startCooldown]
  · have hending : s.ending (some result) = [] := if_neg ho
    have hsame : (s.settle permit result).2.circuit.openCount = s.circuit.openCount := by
      by_cases hv : ∃ v, result = .value v
      · obtain ⟨v, rfl⟩ := hv
        exact (settle_succeeds permit v).1.openCount.trans (Circuit.succeed_openCount _)
      · exact (settle_passes permit (by simpa using ho) (not_exists.mp hv)).1.openCount
    rw [hsame, hending]
    simp

theorem settleMany_openCount (result : Completion ε α) (permits : List Permit) (tally : Tally) (s : Session ε) :
    (settleMany result permits tally s).2.circuit.openCount =
      s.circuit.openCount + if s.clock.dated then .ofNat (endings result permits s).length else 0 := by
  induction permits generalizing tally s with
  | nil => simp [settleMany, endings]
  | cons permit permits ih =>
    have hclock : (s.settle permit result).2.clock = s.clock := rfl
    rw [settleMany_cons, ih, settle_openCount, endings, List.length_append, hclock]
    cases s.clock.dated <;> simp [UInt64.add_assoc]

theorem settleMany_quiet (permits : List Permit) (tally : Tally) (s : Session ε) (hv : ∀ v, result ≠ .value v)
    (hquiet : endings result permits s = []) :
    (settleMany result permits tally s).2.circuit.Alike { s.circuit with
      probeInFlight := s.circuit.probeInFlight && !permits.any Permit.probe } := by
  induction permits generalizing tally s with
  | nil => exact ⟨s.circuit.journal, by simp [settleMany]⟩
  | cons permit permits ih =>
    obtain ⟨hfirst, hrest⟩ := List.append_eq_nil_iff.mp hquiet
    have ho : (s.breaker.assess s.clock.mono result).1.opens = false := by
      by_contra ho
      obtain ⟨-, hending⟩ := settle_opens permit (Bool.of_not_eq_false ho)
      exact absurd (hending.symm.trans hfirst) (List.cons_ne_nil _ _)
    obtain ⟨halike, -⟩ := settle_passes permit ho hv
    rw [settleMany_cons]
    obtain ⟨j, hj⟩ := ih (tally.add (s.settle permit result).1) _ hrest
    obtain ⟨k, hk⟩ := halike
    rw [hj, hk]
    exact ⟨j, by simp [Bool.and_assoc]⟩

theorem settleMany_opened (permits : List Permit) (tally : Tally) (s : Session ε)
    (hopened : endings result permits s ≠ []) :
    (settleMany result permits tally s).2.circuit.state = .opened := by
  induction permits generalizing tally s with
  | nil => exact absurd rfl hopened
  | cons permit permits ih =>
    rw [settleMany_cons]
    by_cases hrest : endings result permits (s.settle permit result).2 = []
    · -- The first call is the last to open the circuit, and those after it pass.
      have ho : (s.breaker.assess s.clock.mono result).1.opens = true := by
        by_contra ho
        exact hopened (List.append_eq_nil_iff.mpr ⟨if_neg ho, hrest⟩)
      have hv (v : α) : result ≠ .value v := by
        rintro rfl
        cases ho
      obtain ⟨halike, -⟩ := settle_opens permit ho
      exact (settleMany_quiet permits _ _ hv hrest).state.trans (halike.state.trans (Circuit.trip_state _ _))
    · exact ih _ _ hrest

theorem tally_settle (tally : Tally) (permit : Permit) (result : Completion ε α) (s : Session ε) :
    (tally.add (s.settle permit result).1).ran = tally.ran + 1 ∧
      (tally.add (s.settle permit result).1).rejections = tally.rejections := by
  have hs : (s.settle permit result).1 = (s.breaker.assess s.clock.mono result).1.outcome s.clock :=
    s.breaker.settle_outcome s.clock permit result
  rw [hs]
  cases (s.breaker.assess s.clock.mono result).1 with
  | tripping error =>
    unfold Assessment.outcome Outcome.afterOpening
    dsimp only
    split <;> simp only [Tally.add, Tally.ran, and_true] <;> omega
  | success | nonTripping | crash =>
    simp only [Assessment.outcome, Tally.add, Tally.ran, and_true]
    omega

theorem settleMany_tally (result : Completion ε α) (permits : List Permit) (tally : Tally) (s : Session ε) :
    (settleMany result permits tally s).1.ran = tally.ran + permits.length ∧
      (settleMany result permits tally s).1.rejections = tally.rejections := by
  induction permits generalizing tally s with
  | nil => exact ⟨rfl, rfl⟩
  | cons permit permits ih =>
    obtain ⟨hran, hrejections⟩ := tally_settle tally permit result s
    obtain ⟨hran', hrejections'⟩ := ih (tally.add (s.settle permit result).1) (s.settle permit result).2
    rw [settleMany_cons, List.length_cons]
    exact ⟨by omega, by omega⟩

structure Served (s : Session ε) (n : Nat) (result : Completion ε α) : Prop where
  ran : (s.race n result).1.ran = (acquireMany n s).1.length
  refused : (s.race n result).1.rejections = n - (acquireMany n s).1.length

structure Settles (s : Session ε) (n : Nat) (result : Completion ε α) : Prop where
  success : ∀ v, result = .value v → (acquireMany n s).1 ≠ [] → (s.race n result).2.circuit.state = .closed
  counted : (s.race n result).2.circuit.openCount =
    s.circuit.openCount + .ofNat (s.openings (.race n result)).length
  opened : s.openings (.race n result) ≠ [] → (s.race n result).2.circuit.state = .opened
  quiet : (∀ v, result ≠ .value v) → s.openings (.race n result) = [] →
    (s.race n result).2.circuit.Alike { (acquireMany n s).2.circuit with
      probeInFlight := (acquireMany n s).2.circuit.probeInFlight && !(acquireMany n s).1.any Permit.probe }

theorem served (s : Session ε) (n : Nat) (result : Completion ε α) : s.Served n result := by
  obtain ⟨hran, hrejections⟩ := settleMany_tally result (acquireMany n s).1
    { rejections := n - (acquireMany n s).1.length } (acquireMany n s).2
  refine ⟨hran.trans ?_, hrejections⟩
  simp [Tally.ran]

theorem race_openCount (s : Session ε) (n : Nat) (result : Completion ε α) :
    (s.race n result).2.circuit.openCount = s.circuit.openCount +
      if s.clock.dated then .ofNat (s.openings (.race n result)).length else 0 := by
  have hwaits := waits_acquireMany n s
  have hcount := settleMany_openCount result (acquireMany n s).1
    { rejections := n - (acquireMany n s).1.length } (acquireMany n s).2
  rw [hwaits.openCount, acquireMany_clock] at hcount
  rw [openings]
  exact hcount

theorem settles_iff (s : Session ε) (n : Nat) (result : Completion ε α) :
    s.Settles n result ↔ s.clock.dated = true ∨ UInt64.ofNat (s.openings (.race n result)).length = 0 := by
  have hcount := s.race_openCount n result
  constructor
  · intro h
    cases hd : s.clock.dated with
    | true => exact .inl rfl
    | false =>
      rw [hd, h.counted] at hcount
      exact .inr (by simpa using hcount)
  · intro h
    have hran : (acquireMany n s).1 ≠ [] → (acquireMany n s).2.circuit.hardTripped = false := by
      intro hne
      rw [(waits_acquireMany n s).hardTripped]
      refine Bool.eq_false_iff.mpr fun hh => hne ?_
      exact Blocked.acquireMany (.inl (.inl hh)) n
    constructor
    · rintro v rfl hne
      exact settleMany_succeeds (hran hne) v _ hne _
    · rw [hcount]
      rcases h with hd | hzero
      · rw [if_pos hd]
      · rw [hzero]
        simp
    · intro hopened
      rw [openings] at hopened
      exact settleMany_opened _ _ _ hopened
    · intro hv hquiet
      rw [openings] at hquiet
      exact settleMany_quiet _ _ _ hv hquiet

theorem stampede_iff {β : Type} (setup : Setup ε) (ms : List (Move ε β)) (calls : List (Int × Phase))
    (reported n : Nat) (result : Completion ε α) :
    let t := (Traffic.start setup).run ms
    let s : Session ε := ⟨t.breaker, t.clock, calls, reported⟩
    s.Admits n ∧ s.Served n result ∧
      (s.Settles n result ↔ s.clock.dated = true ∨ UInt64.ofNat (s.openings (.race n result)).length = 0) := by
  intro t s
  have hlock : s.circuit.hardTripped = true → s.circuit.Locked := (Traffic.run_sound setup ms).locked
  exact ⟨admits hlock n, s.served n result, s.settles_iff n result⟩

theorem undated_stampede :
    let t := (Traffic.start Traffic.plain).run [(.shift 0 (-1) : Move Unit Unit)]
    let s : Session Unit := ⟨t.breaker, t.clock, [], 0⟩
    let result : Completion Unit Unit := .failure ()
    ¬ s.Settles 2 result ∧ (s.openings (.race 2 result)).length = 2 ∧
      (s.race 2 result).2.circuit.openCount = 0 := by
  intro t s result
  have hopenings : (s.openings (.race 2 result)).length = 2 := rfl
  have hcount : (s.race 2 result).2.circuit.openCount = 0 := rfl
  refine ⟨fun h => ?_, hopenings, hcount⟩
  have hcounted := h.counted
  rw [hopenings, hcount] at hcounted
  exact absurd hcounted (by decide)

end Session

end CircuitBreaker
