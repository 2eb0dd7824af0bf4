import CircuitBreaker.Proofs.Opening

namespace CircuitBreaker

variable {ε α : Type}

namespace Traffic

variable {t : Traffic ε} {m : Move ε α} {ms : List (Move ε α)}

def answer (t : Traffic ε) : Move ε α → List (Option Permit)
  | .enter => [(t.breaker.acquire t.clock.mono).1]
  | .settle .. | .abandon _ | .trip | .hardTrip | .reset | .setTimeout _ | .install _ | .shift .. => []

def answers (t : Traffic ε) : List (Move ε α) → List (Option Permit)
  | [] => []
  | m :: ms => t.answer m ++ (t.move m).answers ms

def Throughout (P : Traffic ε → Move ε α → Prop) (t : Traffic ε) (ms : List (Move ε α)) : Prop :=
  ∀ p m, p ++ [m] <+: ms → P (t.run p) m

theorem throughout_nil {P : Traffic ε → Move ε α → Prop} : Throughout P t [] := by
  intro p m hp
  cases List.append_eq_nil_iff.mp (List.prefix_nil.mp hp) |>.2

theorem throughout_cons {P : Traffic ε → Move ε α → Prop} :
    Throughout P t (m :: ms) ↔ P t m ∧ Throughout P (t.move m) ms := by
  constructor
  · intro h
    refine ⟨h [] m (List.prefix_append [m] ms), fun p m' hp => ?_⟩
    exact h (m :: p) m' (List.cons_prefix_cons.mpr ⟨rfl, hp⟩)
  · rintro ⟨hm, hms⟩ (_ | ⟨first, p⟩) m' hp
    · obtain ⟨rfl, -⟩ := List.cons_prefix_cons.mp hp
      exact hm
    · obtain ⟨rfl, hrest⟩ := List.cons_prefix_cons.mp hp
      exact hms p m' hrest

theorem throughout_append {P : Traffic ε → Move ε α → Prop} {ns : List (Move ε α)} :
    Throughout P t (ms ++ ns) ↔ Throughout P t ms ∧ Throughout P (t.run ms) ns := by
  induction ms generalizing t with
  | nil => simp [throughout_nil, run]
  | cons m ms ih => rw [List.cons_append, throughout_cons, throughout_cons, ih, and_assoc, run]

theorem answers_append (t : Traffic ε) (ms ns : List (Move ε α)) :
    t.answers (ms ++ ns) = t.answers ms ++ (t.run ms).answers ns := by
  induction ms generalizing t with
  | nil => rfl
  | cons m ms ih => rw [List.cons_append, answers, answers, ih, List.append_assoc, run]

def Strains (t : Traffic ε) (m : Move ε α) : Prop :=
  m = .enter ∨ (∃ mono wall, 0 ≤ mono ∧ m = .shift mono wall) ∨ ∃ call, t.Fails m call

/-- Callers ask in any order, and all those that get through fail. Less than the timeout passes from the first
of them on. -/
structure Contention (t : Traffic ε) (ms : List (Move ε α)) : Prop where
  strains : t.Throughout Strains ms
  called : .enter ∈ ms
  settled : (t.run ms).calls = []
  brief : ∀ p later, ms = p ++ .enter :: later → .enter ∉ p →
    (t.run ms).clock.mono.nanos - (t.run p).clock.mono.nanos < t.circuit.timeout.toNat * 1000000

structure Recovering (t : Traffic ε) : Prop where
  opened : t.circuit.state = .opened
  unlocked : t.circuit.hardTripped = false
  cooled : t.circuit.cooled t.clock.mono = true
  timed : 0 < t.circuit.timeout.toNat
  idle : t.calls = []

structure ReopensOnce (t : Traffic ε) (ms : List (Move ε α)) : Prop where
  answers : ∃ later, t.answers ms = some ⟨true⟩ :: later ∧ ∀ answer ∈ later, answer = none
  openCount : (t.run ms).circuit.openCount = t.circuit.openCount + 1
  opened : (t.run ms).circuit.state = .opened
  unmarked : (t.run ms).circuit.probeInFlight = false

theorem first_asking {P : List (Move ε α) → Prop} (h : P []) :
    ∀ p later, .enter :: ms = p ++ .enter :: later → .enter ∉ p → P p := by
  rintro (_ | ⟨first, p⟩) later heq hfirst
  · exact h
  · obtain ⟨rfl, -⟩ := List.cons.inj heq
    exact absurd List.mem_cons_self hfirst

theorem not_opens_enter : ¬ t.Opens (.enter : Move ε α) := by
  rintro (h | h | ⟨call, -, h | ⟨result, h, -⟩⟩) <;> cases h

theorem not_opens_shift (mono wall : Int) : ¬ t.Opens (.shift mono wall : Move ε α) := by
  rintro (h | h | ⟨call, -, h | ⟨result, h, -⟩⟩) <;> cases h

theorem answer_fails {call : Call} (hf : t.Fails m call) : t.answer m = [] := by
  obtain ⟨-, rfl | ⟨result, rfl, -⟩⟩ := hf <;> rfl

/-! A refusal leaves only its event. -/

theorem enter_cooling (hs : t.circuit.state = .opened) (hc : t.circuit.cooled t.clock.mono = false) :
    (t.breaker.acquire t.clock.mono).1 = none ∧
      ∃ journal, t.enter = { t with breaker := { t.breaker with circuit := { t.circuit with journal } } } := by
  unfold enter
  rcases t.breaker.acquire_cases t.clock.mono with
    ⟨_, j, ha⟩ | ⟨_, hclosed, _⟩ | ⟨_, hr, _⟩ | ⟨_, hr, _⟩
  · rw [ha]
    exact ⟨rfl, j, put_eq fun h => h⟩
  · exact absurd (hs.symm.trans hclosed) State.noConfusion
  · exact absurd hr (Circuit.not_ripe_of_cooling hs hc)
  · exact absurd hr (Circuit.not_ripe_of_cooling hs hc)

theorem enter_marked (hs : t.circuit.state = .halfOpen) (hp : t.circuit.probeInFlight = true) :
    (t.breaker.acquire t.clock.mono).1 = none ∧
      ∃ journal, t.enter = { t with breaker := { t.breaker with circuit := { t.circuit with journal } } } := by
  unfold enter
  rcases t.breaker.acquire_cases t.clock.mono with
    ⟨_, j, ha⟩ | ⟨_, hclosed, _⟩ | ⟨_, _, _, j, ha⟩ | ⟨_, _, hfree, _⟩
  · rw [ha]
    exact ⟨rfl, j, put_eq fun h => h⟩
  · exact absurd (hs.symm.trans hclosed) State.noConfusion
  · rw [ha]
    refine ⟨rfl, j, (put_eq fun _ => hs).trans ?_⟩
    rw [← hs]
    rfl
  · exact absurd (hp.symm.trans hfree) Bool.noConfusion

theorem enter_ready (hh : t.circuit.hardTripped = false) (hr : t.circuit.Ripe t.clock.mono)
    (hp : t.circuit.probeInFlight = false) :
    (t.breaker.acquire t.clock.mono).1 = some ⟨true⟩ ∧ ∃ journal, t.enter = ({ t with
      breaker := { t.breaker with circuit := { t.circuit with state := .halfOpen, probeInFlight := true, journal } }
      periods := t.nextPeriod } : Traffic ε).hand ⟨true⟩ := by
  have hprobe := (t.breaker.acquire_probe_iff t.clock.mono).mpr ⟨hh, hr, hp⟩
  refine ⟨hprobe, ?_⟩
  unfold enter
  rcases t.breaker.acquire_cases t.clock.mono with
    ⟨_, j, ha⟩ | ⟨_, _, ha⟩ | ⟨_, _, _, j, ha⟩ | ⟨_, _, _, j, ha⟩
  all_goals rw [ha] at hprobe
  · cases hprobe
  · cases hprobe
  · cases hprobe
  · rw [ha]
    exact ⟨j, congrArg (hand · ⟨true⟩) (put_ripe rfl)⟩

theorem mono_le_move (ht : t.Tidy) (hm : t.Strains m) : t.clock.mono.nanos ≤ (t.move m).clock.mono.nanos := by
  obtain rfl | ⟨mono, wall, hmono, rfl⟩ | ⟨call, hf⟩ := hm
  · rw [move, enter]
    split <;> exact Int.le_refl _
  · exact Int.le_add_of_nonneg_right hmono
  · obtain ⟨b, -, -, -, hmove⟩ := fails_eq ht hf
    rw [hmove]
    exact Int.le_refl _

theorem mono_le_run (ht : t.Tidy) (hms : t.Throughout Strains ms) :
    t.clock.mono.nanos ≤ (t.run ms).clock.mono.nanos := by
  induction ms generalizing t with
  | nil => exact Int.le_refl _
  | cons m ms ih =>
    obtain ⟨hm, hms⟩ := throughout_cons.mp hms
    exact Int.le_trans (mono_le_move ht hm) (ih (ht.move m) hms)

theorem not_fails_of_idle (hidle : t.calls = []) {call : Call} : ¬ t.Fails m call := by
  rintro ⟨hc, -⟩
  rw [hidle] at hc
  cases hc

theorem cooling_run (ht : t.Tidy) (hidle : t.calls = []) (hs : t.circuit.state = .opened) {failed : Instant}
    (hfailed : t.circuit.lastFailure = some failed) (hpast : failed.nanos ≤ t.clock.mono.nanos)
    (hms : t.Throughout Strains ms)
    (hbrief : (t.run ms).clock.mono.nanos - failed.nanos < t.circuit.timeout.toNat * 1000000) :
    (t.run ms).circuit.Alike t.circuit ∧ (∀ answer ∈ t.answers ms, answer = none) ∧
      t.Throughout (fun u m => ¬ u.Opens m) ms := by
  induction ms generalizing t with
  | nil => exact ⟨Circuit.alike_refl _, by simp [answers], throughout_nil⟩
  | cons m ms ih =>
    obtain ⟨hm, hrest⟩ := throughout_cons.mp hms
    have hend := mono_le_run ht hms
    have hlater := Int.le_trans hpast (mono_le_move ht hm)
    have htidy := ht.move m
    rw [run] at hend hbrief ⊢
    rw [throughout_cons, answers]
    obtain rfl | ⟨mono, wall, hmono, rfl⟩ | ⟨call, hf⟩ := hm
    · have hcool : t.circuit.cooled t.clock.mono = false := by
        refine Circuit.cooled_eq_false_iff.mpr ⟨failed, hfailed, ?_⟩
        unfold Instant.since
        omega
      obtain ⟨hnone, j, henter⟩ := enter_cooling hs hcool
      rw [move, henter] at hrest hbrief htidy hlater ⊢
      obtain ⟨halike, hanswers, hquiet⟩ := ih htidy hidle hs hfailed hlater hrest hbrief
      refine ⟨halike.trans ⟨j, rfl⟩, ?_, not_opens_enter, hquiet⟩
      rw [answer, hnone]
      simpa using hanswers
    · obtain ⟨halike, hanswers, hquiet⟩ := ih htidy hidle hs hfailed hlater hrest hbrief
      exact ⟨halike, hanswers, not_opens_shift mono wall, hquiet⟩
    · exact absurd hf (not_fails_of_idle hidle)

structure Probing (t : Traffic ε) : Prop where
  tidy : t.Tidy
  halfOpen : t.circuit.state = .halfOpen
  marked : t.circuit.probeInFlight = true
  alone : ∃ call, t.calls = [call]

theorem probing_run (h : t.Probing) (hms : t.Throughout Strains ms) (hsettled : (t.run ms).calls = [])
    {since : Int} (hsince : since ≤ t.clock.mono.nanos)
    (hbrief : (t.run ms).clock.mono.nanos - since < t.circuit.timeout.toNat * 1000000) :
    ∃ now, (t.run ms).circuit.Alike (t.circuit.trip now) ∧ (∀ answer ∈ t.answers ms, answer = none) ∧
      (t.Throughout (fun u m => u.Opens m → u.clock.dated = true) ms ↔ now.dated = true) := by
  obtain ⟨call, hcalls⟩ := h.alone
  -- The mark holds off everybody until the call inside fails, and from then on the cooldown does.
  induction ms generalizing t with
  | nil =>
    rw [run, hcalls] at hsettled
    cases hsettled
  | cons m ms ih =>
    obtain ⟨hm, hrest⟩ := throughout_cons.mp hms
    have htidy := h.tidy.move m
    have hforward := mono_le_move h.tidy hm
    have hlater := Int.le_trans hsince hforward
    rw [run] at hsettled hbrief ⊢
    rw [throughout_cons, answers]
    obtain rfl | ⟨mono, wall, hmono, rfl⟩ | ⟨other, hf⟩ := hm
    · obtain ⟨hnone, j, henter⟩ := enter_marked h.halfOpen h.marked
      rw [move, henter] at hrest hsettled hbrief htidy hlater ⊢
      obtain ⟨now, halike, hanswers, hdated⟩ :=
        ih ⟨htidy, h.halfOpen, h.marked, call, hcalls⟩ hrest hsettled hlater hbrief hcalls
      refine ⟨now, halike.trans (Circuit.Alike.trip ⟨j, rfl⟩ now), ?_, ?_⟩
      · rw [answer, hnone]
        simpa using hanswers
      · rw [hdated]
        exact and_iff_right fun ho => absurd ho not_opens_enter
    · obtain ⟨now, halike, hanswers, hdated⟩ :=
        ih ⟨htidy, h.halfOpen, h.marked, call, hcalls⟩ hrest hsettled hlater hbrief hcalls
      refine ⟨now, halike, hanswers, ?_⟩
      rw [hdated]
      exact and_iff_right fun ho => absurd ho (not_opens_shift mono wall)
    · obtain ⟨b, remarks, -, hb, hmove⟩ := fails_eq h.tidy hf
      obtain rfl : other = call := by
        have hmem := hf.1
        rw [hcalls] at hmem
        exact List.mem_singleton.mp hmem
      have htrip : (t.move m).circuit.Alike (t.circuit.trip t.clock) := by
        rw [hmove]
        change b.circuit.Alike _
        rw [hb]
        exact (t.circuit.alike_emitAll remarks).trip t.clock
      have hidle : (t.move m).calls = [] := by
        rw [hmove]
        simp [forget, hcalls]
      have hbrief' : ((t.move m).run ms).clock.mono.nanos - t.clock.mono.nanos <
          (t.move m).circuit.timeout.toNat * 1000000 := by
        rw [htrip.timeout, Circuit.trip_timeout]
        omega
      obtain ⟨halike, hanswers, hquiet⟩ := cooling_run htidy hidle (htrip.state.trans (Circuit.trip_state _ _))
        (htrip.lastFailure.trans (Circuit.trip_lastFailure _ _)) hforward hrest hbrief'
      refine ⟨t.clock, halike.trans htrip, ?_, ?_⟩
      · rw [answer_fails hf]
        exact hanswers
      · constructor
        · exact fun hdated => hdated.1 (.inr (.inr ⟨other, hf⟩))
        · exact fun hd => ⟨fun _ => hd, fun p m' hp ho => absurd ho (hquiet p m' hp)⟩

theorem waiting_run (hidle : t.calls = []) (hms : t.Throughout Strains ms) (hnone : .enter ∉ ms) :
    (∃ clock : Clock, t.clock.mono.nanos ≤ clock.mono.nanos ∧ t.run ms = { t with clock }) ∧ t.answers ms = [] ∧
      t.Throughout (fun u m => ¬ u.Opens m) ms := by
  -- Until somebody asks, time passes and nothing else happens.
  induction ms generalizing t with
  | nil => exact ⟨⟨t.clock, Int.le_refl _, rfl⟩, rfl, throughout_nil⟩
  | cons m ms ih =>
    obtain ⟨hm, hrest⟩ := throughout_cons.mp hms
    obtain rfl | ⟨mono, wall, hmono, rfl⟩ | ⟨call, hf⟩ := hm
    · exact absurd List.mem_cons_self hnone
    · have hidle' : (t.move (.shift mono wall : Move ε α)).calls = [] := hidle
      obtain ⟨⟨clock, hle, hrun⟩, hanswers, hquiet⟩ := ih hidle' hrest (mt (List.mem_cons_of_mem _) hnone)
      refine ⟨⟨clock, Int.le_trans (Int.le_add_of_nonneg_right hmono) hle, hrun⟩, hanswers, ?_⟩
      exact throughout_cons.mpr ⟨not_opens_shift mono wall, hquiet⟩
    · exact absurd hf (not_fails_of_idle hidle)

theorem asking_run (ht : t.Tidy) (hidle : t.calls = []) (hh : t.circuit.hardTripped = false)
    (hr : t.circuit.Ripe t.clock.mono) (hp : t.circuit.probeInFlight = false)
    (hms : t.Throughout Strains (.enter :: ms)) (hsettled : (t.run (.enter :: ms)).calls = [])
    (hbrief : (t.run (.enter :: ms)).clock.mono.nanos - t.clock.mono.nanos < t.circuit.timeout.toNat * 1000000) :
    (∃ later, t.answers (.enter :: ms) = some ⟨true⟩ :: later ∧ ∀ answer ∈ later, answer = none) ∧
      ∃ now, (t.run (.enter :: ms)).circuit.Alike
          ({ t.circuit with state := .halfOpen, probeInFlight := true }.trip now) ∧
        (t.Throughout (fun u m => u.Opens m → u.clock.dated = true) (.enter :: ms) ↔ now.dated = true) := by
  obtain ⟨hprobe, j, henter⟩ := enter_ready hh hr hp
  have htidy := ht.move (.enter : Move ε α)
  obtain ⟨-, hrest⟩ := throughout_cons.mp hms
  rw [throughout_cons, answers, answer, hprobe]
  rw [run] at hsettled hbrief ⊢
  rw [move, henter] at hrest hsettled hbrief htidy ⊢
  obtain ⟨now, halike, hnone, hdated⟩ := probing_run
    ⟨htidy, rfl, rfl, ⟨t.admitted, ⟨true⟩, t.nextPeriod⟩, congrArg (_ :: ·) hidle⟩ hrest hsettled
    (Int.le_refl _) hbrief
  let asked : Circuit := { t.circuit with state := .halfOpen, probeInFlight := true }
  have hasked : { asked with journal := j }.Alike asked := ⟨j, rfl⟩
  refine ⟨⟨_, rfl, hnone⟩, now, halike.trans (hasked.trip now), ?_⟩
  rw [hdated]
  exact and_iff_right fun ho => absurd ho not_opens_enter

theorem reopens_once_iff (s : Setup ε) (before ms : List (Move ε α))
    (hrecovering : ((start s).run before).Recovering) (hcontention : ((start s).run before).Contention ms) :
    ((start s).run before).ReopensOnce ms ↔ ((start s).run before).circuit.probeInFlight = false ∧
      ((start s).run before).Throughout (fun u m => u.Opens m → u.clock.dated = true) ms := by
  have htidy := run_tidy s before
  generalize (start s).run before = t at hrecovering hcontention htidy ⊢
  obtain ⟨p, later, rfl, hfirst⟩ := List.eq_append_cons_of_mem hcontention.called
  obtain ⟨hstrains, hlater⟩ := throughout_append.mp hcontention.strains
  obtain ⟨⟨clock, hle, hwait⟩, hsilent, hquiet⟩ := waiting_run hrecovering.idle hstrains hfirst
  have hripe : t.circuit.Ripe clock.mono := .inr ⟨hrecovering.opened, Circuit.cooled_of_le hrecovering.cooled hle⟩
  have hbrief := hcontention.brief p later rfl hfirst
  have hsettled := hcontention.settled
  let u : Traffic ε := { t with clock }
  have hrun : t.run (p ++ .enter :: later) = u.run (.enter :: later) := by rw [run_append, hwait]
  have hanswers : t.answers (p ++ .enter :: later) = u.answers (.enter :: later) := by
    rw [answers_append, hsilent, hwait, List.nil_append]
  have hdating : t.Throughout (fun u m => u.Opens m → u.clock.dated = true) (p ++ .enter :: later) ↔
      u.Throughout (fun u m => u.Opens m → u.clock.dated = true) (.enter :: later) := by
    rw [throughout_append, hwait]
    exact and_iff_right fun q m hq ho => absurd ho (hquiet q m hq)
  rw [hrun] at hsettled hbrief
  rw [hwait] at hlater hbrief
  rw [hdating]
  have hu : u.Tidy := htidy.fewer (List.Sublist.refl _) rfl (Nat.le_refl _) rfl
  by_cases hp : t.circuit.probeInFlight = true
  · constructor
    · intro h
      obtain ⟨rest, hfirst, -⟩ := h.answers
      rw [hanswers] at hfirst
      have hadmitted := (u.breaker.acquire_probe_iff clock.mono).mp (List.cons.inj hfirst).1
      exact absurd (hp.symm.trans hadmitted.2.2) Bool.noConfusion
    · exact fun h => absurd (hp.symm.trans h.1) Bool.noConfusion
  · have hp' : t.circuit.probeInFlight = false := by simpa using hp
    obtain ⟨hasked, now, halike, hdated⟩ :=
      asking_run hu hrecovering.idle hrecovering.unlocked hripe hp' hlater hsettled hbrief
    rw [hdated]
    constructor
    · intro h
      refine ⟨hp', ?_⟩
      by_contra hd
      have hcount := h.openCount
      rw [hrun, halike.openCount, show Circuit.trip _ now = _ from
        Circuit.opening_of_fault _ false (Bool.eq_false_iff.mpr hd)] at hcount
      change t.circuit.openCount = t.circuit.openCount + 1 at hcount
      simp at hcount
    · rintro ⟨-, hd⟩
      have hopening := halike.trans (Circuit.opening_of_date _ false hd)
      rw [← hrun] at hopening
      exact ⟨hanswers ▸ hasked, hopening.openCount, hopening.state, hopening.probeInFlight⟩

def tripThenCool : List (Move Unit Unit) := [.trip, .shift 100000000 100000000]

theorem reopens_once_dropped :
    let t := (start plain).run tripThenCool
    let ms : List (Move Unit Unit) := [.enter, .enter, .shift 5000000 5000000, .abandon 0, .shift 90000000 0, .enter]
    t.Recovering ∧ t.Contention ms ∧ t.ReopensOnce ms := by
  intro t ms
  have hrecovering : t.Recovering := ⟨by decide, by decide, by decide, by decide, rfl⟩
  have hcontention : t.Contention ms := by
    refine ⟨?_, List.mem_cons_self, by decide, first_asking (by decide)⟩
    rw [throughout_cons, throughout_cons, throughout_cons, throughout_cons, throughout_cons, throughout_cons]
    exact ⟨.inl rfl, .inl rfl, .inr (.inl ⟨_, _, by decide, rfl⟩),
      .inr (.inr ⟨⟨0, ⟨true⟩, 1⟩, by decide, .inl rfl⟩), .inr (.inl ⟨_, _, by decide, rfl⟩), .inl rfl,
      throughout_nil⟩
  refine ⟨hrecovering, hcontention, (reopens_once_iff plain tripThenCool ms hrecovering hcontention).mpr ⟨rfl, ?_⟩⟩
  rw [throughout_cons, throughout_cons, throughout_cons, throughout_cons, throughout_cons, throughout_cons]
  exact ⟨fun _ => rfl, fun _ => rfl, fun _ => rfl, fun _ => rfl, fun _ => rfl, fun _ => rfl, throughout_nil⟩

theorem undated_probe_uncounted :
    let t := (start plain).run tripThenCool
    let ms : List (Move Unit Unit) := [.enter, .enter, .shift 0 (-100000001), .settle 0 (.failure ())]
    t.Recovering ∧ t.Contention ms ∧ ¬ t.ReopensOnce ms ∧ (t.run ms).circuit.openCount = 1 ∧
      (t.run ms).circuit.probeInFlight = true := by
  intro t ms
  have hcontention : t.Contention ms := by
    refine ⟨?_, List.mem_cons_self, by decide, first_asking (by decide)⟩
    rw [throughout_cons, throughout_cons, throughout_cons, throughout_cons]
    exact ⟨.inl rfl, .inl rfl, .inr (.inl ⟨_, _, by decide, rfl⟩),
      .inr (.inr ⟨⟨0, ⟨true⟩, 1⟩, by decide, .inr ⟨.failure (), rfl, by decide⟩⟩), throughout_nil⟩
  refine ⟨⟨by decide, by decide, by decide, by decide, rfl⟩, hcontention, fun h => ?_, by decide, by decide⟩
  exact absurd h.unmarked (by decide)

end Traffic

end CircuitBreaker
