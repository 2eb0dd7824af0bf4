import CircuitBreaker.Breaker

namespace CircuitBreaker

def Event.remark : Event → Bool
  | abandoned .. | passedThrough _ | ignored => true
  | _ => false

def Assessment.outcome {ε α : Type} (now : Clock) : Assessment ε α → Outcome ε α
  | success v => .value v
  | tripping error => (Outcome.failure error).afterOpening now
  | nonTripping error => .failure error
  | crash text => .crash text

namespace Circuit

theorem millis_resetTimeout (c : Circuit) : c.resetTimeout.millis = c.timeout := Duration.millis_ofMillis c.timeout

def Alike (c d : Circuit) : Prop := ∃ journal, c = { d with journal }

theorem alike_refl (c : Circuit) : c.Alike c := ⟨c.journal, rfl⟩

theorem Alike.trans {a b c : Circuit} (hab : a.Alike b) (hbc : b.Alike c) : a.Alike c := by
  obtain ⟨j, rfl⟩ := hab
  obtain ⟨k, rfl⟩ := hbc
  exact ⟨j, rfl⟩

theorem Alike.state {c d : Circuit} (h : c.Alike d) : c.state = d.state := by
  obtain ⟨j, rfl⟩ := h; rfl

theorem Alike.hardTripped {c d : Circuit} (h : c.Alike d) : c.hardTripped = d.hardTripped := by
  obtain ⟨j, rfl⟩ := h; rfl

theorem Alike.probeInFlight {c d : Circuit} (h : c.Alike d) : c.probeInFlight = d.probeInFlight := by
  obtain ⟨j, rfl⟩ := h; rfl

theorem Alike.lastFailure {c d : Circuit} (h : c.Alike d) : c.lastFailure = d.lastFailure := by
  obtain ⟨j, rfl⟩ := h; rfl

theorem Alike.lastFailureTime {c d : Circuit} (h : c.Alike d) : c.lastFailureTime = d.lastFailureTime := by
  obtain ⟨j, rfl⟩ := h; rfl

theorem Alike.timeout {c d : Circuit} (h : c.Alike d) : c.timeout = d.timeout := by
  obtain ⟨j, rfl⟩ := h; rfl

theorem Alike.openCount {c d : Circuit} (h : c.Alike d) : c.openCount = d.openCount := by
  obtain ⟨j, rfl⟩ := h; rfl

theorem alike_emit (c : Circuit) (e : Event) : (c.emit e).Alike c := ⟨e :: c.journal, rfl⟩

theorem alike_emitAll (c : Circuit) (events : List Event) : (events.foldl emit c).Alike c := by
  induction events generalizing c with
  | nil => exact alike_refl c
  | cons e es ih => exact (ih (c.emit e)).trans (alike_emit c e)

theorem Alike.succeed {c d : Circuit} (h : c.Alike d) : c.succeed.Alike d.succeed := by
  obtain ⟨j, rfl⟩ := h
  unfold Circuit.succeed
  dsimp only
  split
  · exact ⟨j, rfl⟩
  · exact ⟨_ :: j, rfl⟩

theorem Alike.trip {c d : Circuit} (h : c.Alike d) (now : Clock) : (c.trip now).Alike (d.trip now) := by
  obtain ⟨j, rfl⟩ := h
  unfold Circuit.trip
  cases now.wall.fault? with
  | none => exact ⟨_ :: j, rfl⟩
  | some fault => exact ⟨j, rfl⟩

theorem Alike.releaseProbe {c d : Circuit} (h : c.Alike d) : c.releaseProbe.Alike d.releaseProbe := by
  obtain ⟨j, rfl⟩ := h
  unfold Circuit.releaseProbe
  dsimp only
  split
  · exact ⟨_ :: j, rfl⟩
  · exact ⟨j, rfl⟩

def conclude {ε α : Type} (c : Circuit) (now : Clock) (permit : Permit) : Assessment ε α → Circuit
  | .success _ => c.succeed
  | .tripping _ | .crash _ => c.trip now
  | .nonTripping _ => if permit.probe then c.releaseProbe else c

theorem Alike.conclude {ε α : Type} {c d : Circuit} (h : c.Alike d) (now : Clock) (permit : Permit)
    (a : Assessment ε α) : (c.conclude now permit a).Alike (d.conclude now permit a) := by
  cases a with
  | success v => exact h.succeed
  | tripping | crash => exact h.trip now
  | nonTripping error =>
    change (if permit.probe then c.releaseProbe else c).Alike (if permit.probe then d.releaseProbe else d)
    split
    · exact h.releaseProbe
    · exact h

@[simp] theorem trip_state (c : Circuit) (now : Clock) : (c.trip now).state = .opened := by
  unfold trip; split <;> rfl

@[simp] theorem hardTrip_state (c : Circuit) (now : Clock) : (c.hardTrip now).state = .opened := by
  unfold hardTrip; split <;> rfl

@[simp] theorem trip_hardTripped (c : Circuit) (now : Clock) :
    (c.trip now).hardTripped = c.hardTripped := by
  unfold trip; split <;> rfl

@[simp] theorem trip_lastFailure (c : Circuit) (now : Clock) :
    (c.trip now).lastFailure = some now.mono := by
  unfold trip; split <;> rfl

@[simp] theorem trip_timeout (c : Circuit) (now : Clock) : (c.trip now).timeout = c.timeout := by
  unfold trip; split <;> rfl

@[simp] theorem hardTrip_timeout (c : Circuit) (now : Clock) : (c.hardTrip now).timeout = c.timeout := by
  unfold hardTrip; split <;> rfl

@[simp] theorem hardTrip_lastFailure (c : Circuit) (now : Clock) :
    (c.hardTrip now).lastFailure = some now.mono := by
  unfold hardTrip; split <;> rfl

theorem probe_of_trip {c : Circuit} {now : Clock} (h : (c.trip now).probeInFlight = true) :
    c.probeInFlight = true := by
  unfold trip at h; split at h
  · cases h
  · exact h

theorem probe_of_hardTrip {c : Circuit} {now : Clock} (h : (c.hardTrip now).probeInFlight = true) :
    c.probeInFlight = true := by
  unfold hardTrip at h; split at h
  · cases h
  · exact h

@[simp] theorem succeed_state (c : Circuit) :
    c.succeed.state = if c.hardTripped then c.state else .closed := by
  unfold succeed
  dsimp only
  by_cases hh : c.hardTripped = true
  · simp [hh]
  · by_cases hs : c.state = .closed <;> simp [hh, hs, emit]

@[simp] theorem succeed_probe (c : Circuit) : c.succeed.probeInFlight = false := by
  unfold succeed; dsimp only; split <;> rfl

@[simp] theorem succeed_hardTripped (c : Circuit) : c.succeed.hardTripped = c.hardTripped := by
  unfold succeed; dsimp only; split <;> rfl

@[simp] theorem succeed_timeout (c : Circuit) : c.succeed.timeout = c.timeout := by
  unfold succeed; dsimp only; split <;> rfl

@[simp] theorem succeed_lastFailure (c : Circuit) : c.succeed.lastFailure = c.lastFailure := by
  unfold succeed; dsimp only; split <;> rfl

@[simp] theorem succeed_lastFailureTime (c : Circuit) : c.succeed.lastFailureTime = c.lastFailureTime := by
  unfold succeed; dsimp only; split <;> rfl

@[simp] theorem succeed_openCount (c : Circuit) : c.succeed.openCount = c.openCount := by
  unfold succeed; dsimp only; split <;> rfl

theorem passing_alike (c : Circuit) (permit : Permit) :
    (if permit.probe then c.releaseProbe else c).Alike
      { c with probeInFlight := c.probeInFlight && !permit.probe } := by
  cases permit.probe with
  | false => exact ⟨c.journal, by simp⟩
  | true =>
    simp only [if_true, Bool.not_true, Bool.and_false]
    unfold releaseProbe
    by_cases hp : c.probeInFlight = true
    · rw [if_pos hp]
      exact ⟨_ :: c.journal, rfl⟩
    · rw [if_neg hp]
      have hp' : c.probeInFlight = false := by simpa using hp
      exact ⟨c.journal, by rw [← hp']⟩

@[simp] theorem reset_state (c : Circuit) : c.reset.state = .closed := rfl

@[simp] theorem reset_hardTripped (c : Circuit) : c.reset.hardTripped = false := rfl

@[simp] theorem reset_probe (c : Circuit) : c.reset.probeInFlight = false := rfl

structure Locked (c : Circuit) : Prop where
  state : c.state = .opened
  hardTripped : c.hardTripped = true
  probeInFlight : c.probeInFlight = false

theorem Alike.locked {c d : Circuit} (h : c.Alike d) (hd : d.Locked) : c.Locked :=
  ⟨h.state.trans hd.state, h.hardTripped.trans hd.hardTripped, h.probeInFlight.trans hd.probeInFlight⟩

theorem Locked.trip {c : Circuit} (h : c.Locked) (now : Clock) : (c.trip now).Locked := by
  refine ⟨c.trip_state now, (c.trip_hardTripped now).trans h.hardTripped, ?_⟩
  unfold Circuit.trip
  split
  · rfl
  · exact h.probeInFlight

theorem Locked.succeed {c : Circuit} (h : c.Locked) : c.succeed.Locked := by
  refine ⟨?_, c.succeed_hardTripped.trans h.hardTripped, c.succeed_probe⟩
  rw [succeed_state, if_pos h.hardTripped]
  exact h.state

theorem Locked.setTimeout {c : Circuit} (h : c.Locked) (timeout : Duration) : (c.setTimeout timeout).Locked :=
  ⟨h.state, h.hardTripped, h.probeInFlight⟩

theorem hardTrip_locked (c : Circuit) {now : Clock} (h : now.wall.fault? = none) : (c.hardTrip now).Locked := by
  unfold hardTrip
  rw [h]
  exact ⟨rfl, rfl, rfl⟩

theorem trip_of_date (c : Circuit) {now : Clock} (h : now.wall.fault? = none) :
    c.trip now = (c.failAt now).emit (.opening c.name (c.openCount + 1)) := by
  unfold trip
  rw [h]

theorem hardTrip_of_date (c : Circuit) {now : Clock} (h : now.wall.fault? = none) :
    c.hardTrip now = { c.failAt now with hardTripped := true }.emit (.hardTripped c.name (c.openCount + 1)) := by
  unfold hardTrip
  rw [h]

theorem trip_of_fault (c : Circuit) {now : Clock} (h : now.wall.fault? ≠ none) :
    c.trip now = c.startCooldown now.mono := by
  unfold trip
  split
  · rename_i hn
    exact absurd hn h
  · rfl

theorem hardTrip_of_fault (c : Circuit) {now : Clock} (h : now.wall.fault? ≠ none) :
    c.hardTrip now = c.startCooldown now.mono := by
  unfold hardTrip
  split
  · rename_i hn
    exact absurd hn h
  · rfl

theorem Locked.hardTrip {c : Circuit} (h : c.Locked) (now : Clock) : (c.hardTrip now).Locked := by
  by_cases hn : now.wall.fault? = none
  · exact c.hardTrip_locked hn
  · rw [c.hardTrip_of_fault hn]
    exact ⟨rfl, h.hardTripped, h.probeInFlight⟩

structure Grounded (c : Circuit) : Prop where
  closed : c.state = .closed → c.probeInFlight = false
  tripped : c.state ≠ .closed → c.lastFailure ≠ none

theorem Alike.grounded {c d : Circuit} (h : c.Alike d) (hd : d.Grounded) : c.Grounded where
  closed hs := h.probeInFlight.trans (hd.closed (h.state.symm.trans hs))
  tripped hs := by
    rw [h.lastFailure]
    exact hd.tripped fun hc => hs (h.state.trans hc)

theorem grounded_trip (c : Circuit) (now : Clock) : (c.trip now).Grounded := by
  constructor <;> simp

theorem grounded_hardTrip (c : Circuit) (now : Clock) : (c.hardTrip now).Grounded := by
  constructor <;> simp

theorem grounded_reset (c : Circuit) : c.reset.Grounded := by
  constructor <;> simp

theorem Grounded.succeed {c : Circuit} (h : c.Grounded) : c.succeed.Grounded := by
  refine ⟨fun _ => c.succeed_probe, fun hs => ?_⟩
  rw [succeed_state] at hs
  rw [succeed_lastFailure]
  split at hs
  · exact h.tripped hs
  · exact absurd rfl hs

theorem halfOpen_of_conclude {ε α : Type} {c : Circuit} {now : Clock} {permit : Permit}
    {a : Assessment ε α} (h : (c.conclude now permit a).state = .halfOpen) : c.state = .halfOpen := by
  cases a with
  | success v =>
    rw [conclude, succeed_state] at h
    split at h
    · exact h
    · cases h
  | tripping error => simp [conclude] at h
  | nonTripping error =>
    exact (c.passing_alike permit).state.symm.trans h
  | crash text => simp [conclude] at h

def Refuses (c : Circuit) (now : Instant) : Prop :=
  c.hardTripped = true ∨ c.state = .opened ∧ c.cooled now = false

theorem cooled_eq_false_iff {c : Circuit} {now : Instant} : c.cooled now = false ↔
    ∃ failed, c.lastFailure = some failed ∧ now.since failed < c.timeout.toNat * 1000000 := by
  unfold cooled
  cases c.lastFailure <;> simp

theorem cooled_of_le {c : Circuit} {now later : Instant} (hc : c.cooled now = true)
    (hle : now.nanos ≤ later.nanos) : c.cooled later = true := by
  cases hcool : c.cooled later with
  | true => rfl
  | false =>
    obtain ⟨failed, hfailed, hlt⟩ := cooled_eq_false_iff.mp hcool
    have hwas : c.cooled now = false := by
      refine cooled_eq_false_iff.mpr ⟨failed, hfailed, Nat.lt_of_le_of_lt ?_ hlt⟩
      unfold Instant.since
      omega
    exact hwas.symm.trans hc

def Ripe (c : Circuit) (now : Instant) : Prop :=
  c.state = .halfOpen ∨ c.state = .opened ∧ c.cooled now = true

theorem not_ripe_of_cooling {c : Circuit} {now : Instant} (hs : c.state = .opened)
    (hc : c.cooled now = false) : ¬ c.Ripe now := by
  simp [Ripe, hs, hc]

theorem Ripe.not_closed {c : Circuit} {now : Instant} (h : c.Ripe now) : c.state ≠ .closed := by
  rcases h with hs | ⟨hs, -⟩ <;> simp [hs]

theorem ripen_of_ripe {c : Circuit} {now : Instant} (h : c.Ripe now) :
    ∃ journal, c.ripen now = { c with state := .halfOpen, journal } := by
  unfold ripen
  rcases h with hs | ⟨hs, hc⟩
  · refine ⟨c.journal, ?_⟩
    rw [if_neg (by simp [hs]), ← hs]
  · exact ⟨_ :: c.journal, by rw [if_pos ⟨hs, hc⟩]; rfl⟩

theorem admission_cases (c : Circuit) (now : Instant) :
    (c.hardTripped = true ∨ c.state = .opened ∧ c.cooled now = false) ∧
        (∃ journal, c.admission now = (.reject, { c with journal })) ∨
      c.hardTripped = false ∧ c.state = .closed ∧ c.admission now = (.pass, c) ∨
      c.hardTripped = false ∧ c.Ripe now ∧ c.probeInFlight = true ∧
        (∃ journal, c.admission now = (.reject, { c with state := .halfOpen, journal })) ∨
      c.hardTripped = false ∧ c.Ripe now ∧ c.probeInFlight = false ∧
        ∃ journal, c.admission now =
          (.probe, { c with state := .halfOpen, probeInFlight := true, journal }) := by
  unfold admission
  by_cases hh : c.hardTripped = true
  · rw [if_pos hh]
    exact .inl ⟨.inl hh, _ :: c.journal, rfl⟩
  rw [if_neg hh]
  have hh' : c.hardTripped = false := by simpa using hh
  by_cases hclosed : c.state = .closed
  · exact .inr (.inl ⟨hh', hclosed, if_pos hclosed⟩)
  rw [if_neg hclosed]
  by_cases hripe : c.Ripe now
  · obtain ⟨j, hj⟩ := ripen_of_ripe hripe
    by_cases hp : c.probeInFlight = true
    · refine .inr (.inr (.inl ⟨hh', hripe, hp, .rejected c.name .halfOpen :: j, ?_⟩))
      rw [hj, admitProbe, if_neg (by simp [hp])]
      rfl
    · refine .inr (.inr (.inr ⟨hh', hripe, by simpa using hp, .probeAdmitted c.name :: j, ?_⟩))
      rw [hj, admitProbe, if_pos (by simp [hp])]
      rfl
  · have hs : c.state = .opened := by
      cases hs : c.state with
      | closed => exact absurd hs hclosed
      | opened => rfl
      | halfOpen => exact absurd (.inl hs) hripe
    have hc : ¬ c.cooled now = true := fun hc => hripe (.inr ⟨hs, hc⟩)
    refine .inl ⟨.inr ⟨hs, by simpa using hc⟩, .rejected c.name c.state :: c.journal, ?_⟩
    rw [ripen, if_neg (fun h => hc h.2), admitProbe, if_neg (by simp [hs])]
    rfl

end Circuit

namespace Breaker

variable {ε α : Type}

theorem acquire_eq (b : Breaker ε) (now : Instant) :
    b.acquire now = ((match (b.circuit.admission now).1 with
      | .pass => some ⟨false⟩
      | .probe => some ⟨true⟩
      | .reject => none), { b with circuit := (b.circuit.admission now).2 }) := by
  unfold acquire
  obtain ⟨a, c⟩ := b.circuit.admission now
  cases a <;> rfl

theorem acquire_cases (b : Breaker ε) (now : Instant) :
    b.circuit.Refuses now ∧
        (∃ journal, b.acquire now = (none, { b with circuit := { b.circuit with journal } })) ∨
      b.circuit.hardTripped = false ∧ b.circuit.state = .closed ∧ b.acquire now = (some ⟨false⟩, b) ∨
      b.circuit.hardTripped = false ∧ b.circuit.Ripe now ∧ b.circuit.probeInFlight = true ∧
        (∃ journal, b.acquire now =
          (none, { b with circuit := { b.circuit with state := .halfOpen, journal } })) ∨
      b.circuit.hardTripped = false ∧ b.circuit.Ripe now ∧ b.circuit.probeInFlight = false ∧
        ∃ journal, b.acquire now = (some ⟨true⟩,
          { b with circuit := { b.circuit with state := .halfOpen, probeInFlight := true, journal } }) := by
  rw [acquire_eq]
  rcases b.circuit.admission_cases now with
    ⟨hc, j, ha⟩ | ⟨hh, hs, ha⟩ | ⟨hh, hr, hp, j, ha⟩ | ⟨hh, hr, hp, j, ha⟩
  all_goals rw [ha]
  · exact .inl ⟨hc, j, rfl⟩
  · exact .inr (.inl ⟨hh, hs, rfl⟩)
  · exact .inr (.inr (.inl ⟨hh, hr, hp, j, rfl⟩))
  · exact .inr (.inr (.inr ⟨hh, hr, hp, j, rfl⟩))

theorem acquire_probe_iff (b : Breaker ε) (now : Instant) : (b.acquire now).1 = some ⟨true⟩ ↔
    b.circuit.hardTripped = false ∧ b.circuit.Ripe now ∧ b.circuit.probeInFlight = false := by
  rw [acquire_eq]
  rcases b.circuit.admission_cases now with
    ⟨hc, j, ha⟩ | ⟨_, hs, ha⟩ | ⟨_, _, hp, j, ha⟩ | ⟨hh, hr, hp, j, ha⟩
  · rw [ha]
    simp only [reduceCtorEq, false_iff]
    rintro ⟨hh, hr, _⟩
    rcases hc with hd | hd
    · rw [hh] at hd
      cases hd
    · exact Circuit.not_ripe_of_cooling hd.1 hd.2 hr
  · rw [ha]
    simp [Circuit.Ripe, hs]
  · rw [ha]
    simp [hp]
  · rw [ha]
    simp [hh, hr, hp]

theorem acquire_locked {b : Breaker ε} (h : b.circuit.hardTripped = true) (now : Instant) :
    (b.acquire now).1 = none := by
  rw [acquire_eq, Circuit.admission, if_pos h]

theorem acquire_cooling {b : Breaker ε} {now : Instant} (hs : b.circuit.state = .opened)
    (hc : b.circuit.cooled now = false) : (b.acquire now).1 = none := by
  rw [acquire_eq]
  rcases b.circuit.admission_cases now with
    ⟨_, j, ha⟩ | ⟨_, hclosed, _⟩ | ⟨_, hr, _⟩ | ⟨_, hr, _⟩
  · rw [ha]
  · rw [hs] at hclosed
    cases hclosed
  · exact absurd hr (Circuit.not_ripe_of_cooling hs hc)
  · exact absurd hr (Circuit.not_ripe_of_cooling hs hc)

theorem acquire_closed {b : Breaker ε} (hh : b.circuit.hardTripped = false) (hs : b.circuit.state = .closed)
    (now : Instant) : (b.acquire now).1 = some ⟨false⟩ := by
  rw [acquire_eq, Circuit.admission, if_neg (by simp [hh]), if_pos hs]

theorem assess_failure (b : Breaker ε) (now : Instant) (error : ε) :
    ∃ ruling : Ruling, (b.assess now (.failure error : Completion ε α)).1 = ruling.assess error := ⟨_, rfl⟩

theorem assess_remarked (b : Breaker ε) (now : Instant) (result : Completion ε α) :
    ∃ remarks : List Event, (∀ e ∈ remarks, e.remark = true) ∧
      (b.assess now result).2.circuit = remarks.foldl Circuit.emit b.circuit := by
  refine ⟨(b.classifiers.assess b.installed now result).2.1, ?_, rfl⟩
  cases result with
  | value | crash => simp [Classifiers.assess]
  | failure error =>
    change ∀ e ∈ (b.classifiers.consult b.installed now error).1.events, e.remark = true
    cases (b.classifiers.consult b.installed now error).1 <;> simp [Ruling.events, Event.remark]

theorem settle_remarked (b : Breaker ε) (now : Clock) (permit : Permit) (result : Completion ε α) :
    ∃ remarks : List Event, (∀ e ∈ remarks, e.remark = true) ∧
      (b.settle now permit result).2.circuit =
        (remarks.foldl Circuit.emit b.circuit).conclude now permit (b.assess now.mono result).1 := by
  obtain ⟨remarks, hremarks, ha⟩ := b.assess_remarked now.mono result
  have hlast (e : Event) (he : e.remark = true) : ∀ e' ∈ remarks ++ [e], e'.remark = true := by
    intro e' he'
    rcases List.mem_append.mp he' with he' | he'
    · exact hremarks e' he'
    · rw [List.mem_singleton.mp he', he]
  unfold settle
  generalize b.assess now.mono result = assessed at ha ⊢
  obtain ⟨assessment, b'⟩ := assessed
  cases assessment with
  | success v => exact ⟨remarks, hremarks, congrArg Circuit.succeed ha⟩
  | tripping error => exact ⟨remarks, hremarks, congrArg (Circuit.trip · now) ha⟩
  | nonTripping error =>
    refine ⟨remarks ++ [.passedThrough b'.circuit.name], hlast _ rfl, ?_⟩
    rw [List.foldl_append, ← ha]
    rfl
  | crash text =>
    refine ⟨remarks ++ [.abandoned b'.circuit.name permit.probe], hlast _ rfl, ?_⟩
    rw [List.foldl_append, ← ha]
    rfl

theorem settle_alike (b : Breaker ε) (now : Clock) (permit : Permit) (result : Completion ε α) :
    (b.settle now permit result).2.circuit.Alike
      (b.circuit.conclude now permit (b.assess now.mono result).1) := by
  obtain ⟨remarks, -, hs⟩ := b.settle_remarked now permit result
  rw [hs]
  exact (Circuit.alike_emitAll b.circuit remarks).conclude now permit _

theorem settle_outcome (b : Breaker ε) (now : Clock) (permit : Permit) (result : Completion ε α) :
    (b.settle now permit result).1 = (b.assess now.mono result).1.outcome now := by
  unfold settle
  obtain ⟨assessment, b'⟩ := b.assess now.mono result
  cases assessment <;> rfl

theorem settle_classifiers (b : Breaker ε) (now : Clock) (permit : Permit) (result : Completion ε α) :
    (b.settle now permit result).2.classifiers = (b.assess now.mono result).2.classifiers := by
  unfold settle
  obtain ⟨assessment, b'⟩ := b.assess now.mono result
  cases assessment <;> rfl

theorem settle_installed (b : Breaker ε) (now : Clock) (permit : Permit) (result : Completion ε α) :
    (b.settle now permit result).2.installed = b.installed := by
  have ha : (b.assess now.mono result).2.installed = b.installed := rfl
  unfold settle
  generalize b.assess now.mono result = assessed at ha ⊢
  obtain ⟨assessment, b'⟩ := assessed
  cases assessment <;> exact ha

theorem abandon_eq (b : Breaker ε) (now : Clock) (permit : Permit) :
    b.abandon now permit = b.onCircuit fun c => (c.emit (.abandoned c.name permit.probe)).trip now := rfl

theorem abandon_alike (b : Breaker ε) (now : Clock) (permit : Permit) :
    (b.abandon now permit).circuit.Alike (b.circuit.trip now) :=
  (Circuit.alike_emit _ _).trip now

end Breaker

end CircuitBreaker
