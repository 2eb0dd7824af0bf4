import CircuitBreaker.Proofs.Circuit
import Mathlib.Data.List.Induction
import Mathlib.Data.List.Nodup

namespace CircuitBreaker

def Assessment.opens {ε α : Type} : Assessment ε α → Bool
  | success _ | nonTripping _ => false
  | tripping _ | crash _ => true

/-- An admitted call that has not ended, with the number of the half-open period that was the last to
begin when it was admitted. -/
structure Call where
  id : Nat
  permit : Permit
  period : Nat
deriving DecidableEq

inductive Move (ε α : Type)
  | enter
  | settle (id : Nat) (result : Completion ε α)
  | abandon (id : Nat)
  | trip
  | hardTrip
  | reset
  | setTimeout (timeout : Duration)
  | install (classifier : Option String)
  | shift (mono wall : Int)

/-- A breaker and its calls in flight, the newest first. Calls are numbered in the order of their
admission, and half-open periods in the order in which they begin. The openings are the readings of the
clock at them, the latest first. -/
structure Traffic (ε : Type) where
  breaker : Breaker ε
  clock : Clock
  calls : List Call := []
  admitted : Nat := 0
  periods : Nat := 0
  lastProbe : Option Nat := none
  openings : List Clock := []

structure Setup (ε : Type) where
  name : String
  timeout : Duration
  classifiers : Classifiers ε
  installed : Option String
  clock : Clock

namespace Traffic

variable {ε α : Type}

def start (s : Setup ε) : Traffic ε :=
  { breaker := ⟨.ofTimeout s.name s.timeout, s.classifiers, s.installed⟩, clock := s.clock }

def circuit (t : Traffic ε) : Circuit := t.breaker.circuit

def put (t : Traffic ε) (b : Breaker ε) : Traffic ε :=
  { t with
    breaker := b
    periods := if b.circuit.state = .halfOpen ∧ t.circuit.state ≠ .halfOpen then t.periods + 1 else t.periods }

def hand (t : Traffic ε) (permit : Permit) : Traffic ε :=
  { t with
    calls := ⟨t.admitted, permit, t.periods⟩ :: t.calls
    admitted := t.admitted + 1
    lastProbe := if permit.probe then some t.admitted else t.lastProbe }

def enter (t : Traffic ε) : Traffic ε :=
  match t.breaker.acquire t.clock.mono with
  | (none, b) => t.put b
  | (some permit, b) => (t.put b).hand permit

def find (t : Traffic ε) (id : Nat) : Option Call := t.calls.find? (·.id = id)

def forget (t : Traffic ε) (id : Nat) : Traffic ε := { t with calls := t.calls.filter (·.id ≠ id) }

def noteOpening (t : Traffic ε) : Traffic ε := { t with openings := t.clock :: t.openings }

def ending (t : Traffic ε) (id : Nat) (result : Completion ε α) : Option Call :=
  -- A result that ends the process is no step of a run.
  if (t.breaker.assess t.clock.mono result).1.aborts t.clock then none else t.find id

def settle (t : Traffic ε) (id : Nat) (result : Completion ε α) : Traffic ε :=
  match t.ending id result with
  | none => t
  | some call =>
    let t' := (t.put (t.breaker.settle t.clock call.permit result).2).forget id
    if (t.breaker.assess t.clock.mono result).1.opens then t'.noteOpening else t'

def abandon (t : Traffic ε) (id : Nat) : Traffic ε :=
  match t.find id with
  | none => t
  | some call => ((t.put (t.breaker.abandon t.clock call.permit)).forget id).noteOpening

def move (t : Traffic ε) : Move ε α → Traffic ε
  | .enter => t.enter
  | .settle id result => t.settle id result
  | .abandon id => t.abandon id
  | .trip => (t.put (t.breaker.onCircuit (·.trip t.clock))).noteOpening
  | .hardTrip => (t.put (t.breaker.onCircuit (·.hardTrip t.clock))).noteOpening
  | .reset => t.put (t.breaker.onCircuit (·.reset))
  | .setTimeout timeout => t.put (t.breaker.onCircuit (·.setTimeout timeout))
  | .install classifier => t.put (t.breaker.install classifier)
  | .shift mono wall => { t with clock := t.clock.shift mono wall }

def run (t : Traffic ε) : List (Move ε α) → Traffic ε
  | [] => t
  | m :: ms => (t.move m).run ms

theorem run_append (t : Traffic ε) (ms ns : List (Move ε α)) : t.run (ms ++ ns) = (t.run ms).run ns := by
  induction ms generalizing t with
  | nil => rfl
  | cons m ms ih => exact ih (t.move m)

theorem run_concat (t : Traffic ε) (ms : List (Move ε α)) (m : Move ε α) :
    t.run (ms ++ [m]) = (t.run ms).move m := run_append t ms [m]

theorem run_induction {P : Traffic ε → Prop} {t : Traffic ε} {ms : List (Move ε α)} (h : P t)
    (hstep : ∀ p m, p ++ [m] <+: ms → P (t.run p) → P ((t.run p).move m)) :
    ∀ p, p <+: ms → P (t.run p) := by
  intro p
  induction p using List.reverseRecOn with
  | nil => exact fun _ => h
  | append_singleton p m ih =>
    intro hp
    rw [run_concat]
    exact hstep p m hp (ih ((List.prefix_append p [m]).trans hp))

theorem put_eq {t : Traffic ε} {b : Breaker ε}
    (h : b.circuit.state = .halfOpen → t.circuit.state = .halfOpen) : t.put b = { t with breaker := b } := by
  unfold put
  rw [if_neg (fun hb => hb.2 (h hb.1))]

theorem settle_eq {t : Traffic ε} {id : Nat} {call : Call} {result : Completion ε α}
    (h : t.ending id result = some call) : t.settle id result = { t.forget id with
      breaker := (t.breaker.settle t.clock call.permit result).2
      openings := if (t.breaker.assess t.clock.mono result).1.opens then t.clock :: t.openings else t.openings } := by
  have hput : t.put (t.breaker.settle t.clock call.permit result).2 = _ := put_eq fun hs => by
    have ha := (t.breaker.settle_alike t.clock call.permit result).state
    exact Circuit.halfOpen_of_conclude (ha ▸ hs)
  unfold settle
  rw [h]
  dsimp only
  rw [hput]
  split <;> rfl

theorem abandon_eq {t : Traffic ε} {id : Nat} {call : Call} (h : t.find id = some call) :
    t.abandon id = { t.forget id with
      breaker := t.breaker.abandon t.clock call.permit
      openings := t.clock :: t.openings } := by
  have hput : t.put (t.breaker.abandon t.clock call.permit) = _ := put_eq fun hs => by
    rw [(t.breaker.abandon_alike t.clock call.permit).state, Circuit.trip_state] at hs
    cases hs
  unfold abandon
  rw [h]
  dsimp only
  rw [hput]
  rfl

theorem trip_eq (t : Traffic ε) : t.move (.trip : Move ε α) =
    { t with
      breaker := t.breaker.onCircuit (·.trip t.clock)
      openings := t.clock :: t.openings } := by
  have hput : t.put (t.breaker.onCircuit (·.trip t.clock)) = _ := put_eq fun hs => by
    have hopen : (t.circuit.trip t.clock).state = .halfOpen := hs
    rw [Circuit.trip_state] at hopen
    cases hopen
  rw [move, hput]
  rfl

theorem hardTrip_eq (t : Traffic ε) : t.move (.hardTrip : Move ε α) =
    { t with
      breaker := t.breaker.onCircuit (·.hardTrip t.clock)
      openings := t.clock :: t.openings } := by
  have hput : t.put (t.breaker.onCircuit (·.hardTrip t.clock)) = _ := put_eq fun hs => by
    have hopen : (t.circuit.hardTrip t.clock).state = .halfOpen := hs
    rw [Circuit.hardTrip_state] at hopen
    cases hopen
  rw [move, hput]
  rfl

theorem find_eq {t : Traffic ε} {id : Nat} {call : Call} (h : t.find id = some call) :
    call ∈ t.calls ∧ call.id = id :=
  ⟨List.mem_of_find?_eq_some h, by simpa using List.find?_some h⟩

theorem ending_eq_some_iff {t : Traffic ε} {id : Nat} {call : Call} {result : Completion ε α} :
    t.ending id result = some call ↔
      (t.breaker.assess t.clock.mono result).1.aborts t.clock = false ∧ t.find id = some call := by
  rw [ending, Option.ite_none_left_eq_some, Bool.not_eq_true]

def Passes (t : Traffic ε) (m : Move ε α) (call : Call) : Prop :=
  call ∈ t.calls ∧ ∃ error : ε, m = .settle call.id (.failure error) ∧
    (t.breaker.assess t.clock.mono (.failure error : Completion ε α)).1 = .nonTripping error

def nextPeriod (t : Traffic ε) : Nat := if t.circuit.state = .halfOpen then t.periods else t.periods + 1

inductive Effect (t : Traffic ε) : Move ε α → Traffic ε → Prop
  | idle {m} (b : Breaker ε) (clock : Clock) (hm : m ≠ .reset) (hb : b.circuit.Alike t.circuit) :
      Effect t m { t with breaker := b, clock := clock }
  | pass (hs : t.circuit.state = .closed) : Effect t .enter (t.hand ⟨false⟩)
  | hold (b : Breaker ε) (hh : t.circuit.hardTripped = false) (hr : t.circuit.Ripe t.clock.mono)
      (hp : t.circuit.probeInFlight = true) (hb : b.circuit.Alike { t.circuit with state := .halfOpen }) :
      Effect t .enter { t with breaker := b, periods := t.nextPeriod }
  | probe (b : Breaker ε) (hh : t.circuit.hardTripped = false) (hr : t.circuit.Ripe t.clock.mono)
      (hp : t.circuit.probeInFlight = false)
      (hb : b.circuit.Alike { t.circuit with state := .halfOpen, probeInFlight := true }) :
      Effect t .enter ({ t with breaker := b, periods := t.nextPeriod }.hand ⟨true⟩)
  | retime (b : Breaker ε) (timeout : Duration) (hb : b.circuit.Alike (t.circuit.setTimeout timeout)) :
      Effect t (.setTimeout timeout) { t with breaker := b }
  | opening {m} (b : Breaker ε) (calls : List Call) (hm : m ≠ .reset) (hc : calls.Sublist t.calls)
      (hb : b.circuit.Alike (t.circuit.trip t.clock)) :
      Effect t m { t with breaker := b, calls := calls, openings := t.clock :: t.openings }
  | latch (b : Breaker ε) (hb : b.circuit.Alike (t.circuit.hardTrip t.clock)) :
      Effect t .hardTrip { t with breaker := b, openings := t.clock :: t.openings }
  | reset (b : Breaker ε) (hb : b.circuit.Alike t.circuit.reset) : Effect t .reset { t with breaker := b }
  | success (b : Breaker ε) (call : Call) (v : α) (hc : call ∈ t.calls)
      (hb : b.circuit.Alike t.circuit.succeed) :
      Effect t (.settle call.id (.value v)) { t.forget call.id with breaker := b }
  | passing {m} (b : Breaker ε) (call : Call) (hm : t.Passes m call)
      (hb : b.circuit.Alike { t.circuit with probeInFlight := t.circuit.probeInFlight && !call.permit.probe }) :
      Effect t m { t.forget call.id with breaker := b }

theorem put_ripe {t : Traffic ε} {b : Breaker ε} (hb : b.circuit.state = .halfOpen) :
    t.put b = { t with breaker := b, periods := t.nextPeriod } := by
  unfold put nextPeriod
  by_cases hs : t.circuit.state = .halfOpen <;> simp [hs, hb]

theorem enter_effect (t : Traffic ε) : t.Effect (.enter : Move ε α) t.enter := by
  have ha := t.breaker.acquire_eq t.clock.mono
  unfold enter
  rw [ha]
  rcases t.circuit.admission_cases t.clock.mono with
    ⟨_, j, hd⟩ | ⟨_, hs, hd⟩ | ⟨hh, hr, hp, j, hd⟩ | ⟨hh, hr, hp, j, hd⟩
  all_goals
    unfold circuit at hd
    rw [hd]
    dsimp only
  · rw [put_eq (by exact fun h => h)]
    exact .idle _ t.clock (by simp) ⟨j, rfl⟩
  · rw [put_eq (by exact fun h => h)]
    exact .pass hs
  · rw [put_ripe rfl]
    exact .hold _ hh hr hp ⟨j, rfl⟩
  · rw [put_ripe rfl]
    exact .probe _ hh hr hp ⟨j, rfl⟩

theorem settle_effect (t : Traffic ε) (id : Nat) (result : Completion ε α) :
    t.Effect (.settle id result) (t.settle id result) := by
  cases hf : t.ending id result with
  | none =>
    unfold settle
    rw [hf]
    exact .idle t.breaker t.clock (by simp) (Circuit.alike_refl _)
  | some call =>
    obtain ⟨hc, rfl⟩ := find_eq (ending_eq_some_iff.mp hf).2
    have hb := t.breaker.settle_alike t.clock call.permit result
    rw [settle_eq hf]
    cases result with
    | value v => exact .success _ call v hc hb
    | crash text => exact .opening _ _ (by simp) List.filter_sublist hb
    | failure error =>
      obtain ⟨ruling, ha⟩ := t.breaker.assess_failure (α := α) t.clock.mono error
      rw [ha] at hb ⊢
      match ruling with
      | .verdict .trip | .crash text => exact .opening _ _ (by simp) List.filter_sublist hb
      | .verdict .passThrough | .ignored =>
        exact .passing _ call ⟨hc, error, rfl, ha⟩ (hb.trans (t.circuit.passing_alike call.permit))

theorem abandon_effect (t : Traffic ε) (id : Nat) : t.Effect (.abandon id : Move ε α) (t.abandon id) := by
  cases hf : t.find id with
  | none =>
    unfold abandon
    rw [hf]
    exact .idle t.breaker t.clock (by simp) (Circuit.alike_refl _)
  | some call =>
    rw [abandon_eq hf]
    exact .opening _ _ (by simp) List.filter_sublist (t.breaker.abandon_alike t.clock call.permit)

theorem move_effect (t : Traffic ε) (m : Move ε α) : t.Effect m (t.move m) := by
  cases m with
  | enter => exact t.enter_effect
  | settle id result => exact t.settle_effect id result
  | abandon id => exact t.abandon_effect id
  | trip =>
    rw [trip_eq]
    exact .opening _ t.calls (by simp) (List.Sublist.refl _) (Circuit.alike_refl _)
  | hardTrip =>
    rw [hardTrip_eq]
    exact .latch _ (Circuit.alike_refl _)
  | reset =>
    rw [move, put_eq (by intro hs; cases hs)]
    exact .reset _ (Circuit.alike_refl _)
  | setTimeout timeout =>
    rw [move, put_eq (by exact fun h => h)]
    exact .retime _ timeout (Circuit.alike_refl _)
  | install classifier =>
    rw [move, put_eq (by exact fun h => h)]
    exact .idle _ t.clock (by simp) (Circuit.alike_refl _)
  | shift mono wall => exact .idle t.breaker _ (by simp) (Circuit.alike_refl _)

structure Tidy (t : Traffic ε) : Prop where
  distinct : (t.calls.map Call.id).Nodup
  admitted : ∀ call ∈ t.calls, call.id < t.admitted
  period : ∀ call ∈ t.calls, call.period ≤ t.periods
  last : ∀ id, t.lastProbe = some id → id < t.admitted
  lastProbe : ∀ call ∈ t.calls, t.lastProbe = some call.id → call.permit.probe = true

theorem tidy_start (s : Setup ε) : (start s).Tidy := by
  constructor <;> simp [start]

theorem Tidy.fewer {t u : Traffic ε} (h : t.Tidy) (hc : u.calls.Sublist t.calls)
    (ha : u.admitted = t.admitted) (hp : t.periods ≤ u.periods) (hl : u.lastProbe = t.lastProbe) : u.Tidy where
  distinct := (hc.map Call.id).nodup h.distinct
  admitted call hcall := by rw [ha]; exact h.admitted call (hc.subset hcall)
  period call hcall := Nat.le_trans (h.period call (hc.subset hcall)) hp
  last id hid := by rw [ha]; exact h.last id (hl ▸ hid)
  lastProbe call hcall hid := h.lastProbe call (hc.subset hcall) (hl ▸ hid)

theorem Tidy.hand {t : Traffic ε} (h : t.Tidy) (permit : Permit) : (t.hand permit).Tidy where
  distinct := by
    refine List.nodup_cons.mpr ⟨fun hmem => ?_, h.distinct⟩
    obtain ⟨call, hcall, hid⟩ := List.mem_map.mp hmem
    exact absurd hid (Nat.ne_of_lt (h.admitted call hcall))
  admitted call hcall := by
    rcases List.mem_cons.mp hcall with rfl | hcall
    · exact Nat.lt_succ_self _
    · exact Nat.lt_succ_of_lt (h.admitted call hcall)
  period call hcall := by
    rcases List.mem_cons.mp hcall with rfl | hcall
    · exact Nat.le_refl _
    · exact h.period call hcall
  last id hid := by
    simp only [Traffic.hand] at hid ⊢
    split at hid
    · cases hid; exact Nat.lt_succ_self _
    · exact Nat.lt_succ_of_lt (h.last id hid)
  lastProbe call hcall hid := by
    simp only [Traffic.hand] at hcall hid
    rcases List.mem_cons.mp hcall with rfl | hcall
    · split at hid
      · assumption
      · exact absurd (h.last _ hid) (Nat.lt_irrefl _)
    · split at hid
      · exact absurd (Option.some.inj hid).symm (Nat.ne_of_lt (h.admitted call hcall))
      · exact h.lastProbe call hcall hid

theorem forget_sublist (t : Traffic ε) (id : Nat) : (t.forget id).calls.Sublist t.calls := List.filter_sublist

theorem periods_le_nextPeriod (t : Traffic ε) : t.periods ≤ t.nextPeriod := by
  unfold nextPeriod; split <;> omega

theorem Tidy.move {t : Traffic ε} (h : t.Tidy) (m : Move ε α) : (t.move m).Tidy := by
  have he := t.move_effect m
  generalize t.move m = u at he
  cases he with
  | idle | retime | latch | reset => exact h.fewer (List.Sublist.refl _) rfl (Nat.le_refl _) rfl
  | pass => exact h.hand _
  | hold => exact h.fewer (List.Sublist.refl _) rfl t.periods_le_nextPeriod rfl
  | probe b =>
    have hb : Tidy { t with breaker := b, periods := t.nextPeriod } :=
      h.fewer (List.Sublist.refl _) rfl t.periods_le_nextPeriod rfl
    exact hb.hand _
  | opening b calls hm hc => exact h.fewer hc rfl (Nat.le_refl _) rfl
  | success | passing => exact h.fewer (t.forget_sublist _) rfl (Nat.le_refl _) rfl

theorem Tidy.find {t : Traffic ε} (h : t.Tidy) {call : Call} (hc : call ∈ t.calls) :
    t.find call.id = some call := by
  cases hf : t.find call.id with
  | none => exact absurd (List.find?_eq_none.mp hf call hc) (by simp)
  | some found =>
    obtain ⟨hfound, hid⟩ := find_eq hf
    exact congrArg some (List.inj_on_of_nodup_map h.distinct hfound hc hid)

theorem Tidy.ending {t : Traffic ε} (h : t.Tidy) {call : Call} (hc : call ∈ t.calls) {result : Completion ε α}
    (ha : (t.breaker.assess t.clock.mono result).1.aborts t.clock = false) : t.ending call.id result = some call :=
  ending_eq_some_iff.mpr ⟨ha, h.find hc⟩

theorem passes_eq {t : Traffic ε} (h : t.Tidy) {m : Move ε α} {call : Call} (hm : t.Passes m call) :
    ∃ b : Breaker ε, b.circuit.Alike
        { t.circuit with probeInFlight := t.circuit.probeInFlight && !call.permit.probe } ∧
      t.move m = { t.forget call.id with breaker := b } := by
  obtain ⟨hc, error, rfl, ha⟩ := hm
  have hb := t.breaker.settle_alike t.clock call.permit (.failure error : Completion ε α)
  rw [ha] at hb
  refine ⟨_, hb.trans (t.circuit.passing_alike call.permit), ?_⟩
  rw [Traffic.move, settle_eq (h.ending hc (by rw [ha]; rfl)), ha]
  rfl

structure Sound (t : Traffic ε) : Prop where
  locked : t.circuit.hardTripped = true → t.circuit.Locked
  marked : t.circuit.probeInFlight = true → t.lastProbe ≠ none
  cooldown : t.circuit.lastFailure = t.openings.head?.map Clock.mono

theorem sound_start (s : Setup ε) : (start s).Sound := by
  constructor <;> simp [start, circuit, Circuit.ofTimeout]

theorem Sound.move {t : Traffic ε} (h : t.Sound) (m : Move ε α) : (t.move m).Sound := by
  obtain ⟨hl, hm, hc⟩ := h
  have he := t.move_effect m
  generalize t.move m = u at he
  cases he with
  | idle b clock _ hb =>
    exact ⟨fun hd => hb.locked (hl (hb.hardTripped ▸ hd)), fun hp => hm (hb.probeInFlight ▸ hp),
      hb.lastFailure.trans hc⟩
  | pass => exact ⟨hl, hm, hc⟩
  | hold b hh _ _ hb =>
    exact ⟨fun hd => absurd (hb.hardTripped.symm.trans hd) (by simp [hh]),
      fun hp => hm (hb.probeInFlight ▸ hp), hb.lastFailure.trans hc⟩
  | probe b hh _ _ hb =>
    exact ⟨fun hd => absurd (hb.hardTripped.symm.trans hd) (by simp [hh]),
      fun _ => by simp [Traffic.hand], hb.lastFailure.trans hc⟩
  | retime b timeout hb =>
    exact ⟨fun hd => hb.locked ((hl (hb.hardTripped ▸ hd)).setTimeout timeout),
      fun hp => hm (hb.probeInFlight ▸ hp), hb.lastFailure.trans hc⟩
  | opening b calls _ _ hb =>
    refine ⟨fun hd => hb.locked ((hl ?_).trip t.clock), fun hp => hm ?_,
      hb.lastFailure.trans (Circuit.trip_lastFailure _ _)⟩
    · exact (Circuit.trip_hardTripped _ _).symm.trans (hb.hardTripped.symm.trans hd)
    · exact Circuit.probe_of_trip (hb.probeInFlight.symm.trans hp)
  | latch b hb =>
    refine ⟨fun hd => hb.locked ?_, fun hp => hm ?_, hb.lastFailure.trans (Circuit.hardTrip_lastFailure _ _)⟩
    · by_cases hn : t.clock.wall.fault? = none
      · exact t.circuit.hardTrip_locked hn
      · refine (hl ?_).hardTrip t.clock
        rw [t.circuit.hardTrip_of_fault hn] at hb
        exact hb.hardTripped.symm.trans hd
    · exact Circuit.probe_of_hardTrip (hb.probeInFlight.symm.trans hp)
  | reset b hb =>
    exact ⟨fun hd => absurd (hb.hardTripped.symm.trans hd) (by simp),
      fun hp => absurd (hb.probeInFlight.symm.trans hp) (by simp), hb.lastFailure.trans hc⟩
  | success b call v _ hb =>
    refine ⟨fun hd => hb.locked (hl ?_).succeed, fun hp => ?_,
      (hb.lastFailure.trans (Circuit.succeed_lastFailure _)).trans hc⟩
    · exact (Circuit.succeed_hardTripped _).symm.trans (hb.hardTripped.symm.trans hd)
    · exact absurd (hb.probeInFlight.symm.trans hp) (by simp)
  | passing b call _ hb =>
    have hpass (hp : b.circuit.probeInFlight = true) : t.circuit.probeInFlight = true :=
      (Bool.and_eq_true_iff.mp (hb.probeInFlight.symm.trans hp)).1
    refine ⟨fun hd => hb.locked ?_, fun hp => hm (hpass hp), hb.lastFailure.trans hc⟩
    have hlock := hl (hb.hardTripped.symm.trans hd)
    exact ⟨hlock.state, hlock.hardTripped, by simp [hlock.probeInFlight]⟩

theorem run_tidy (s : Setup ε) (ms : List (Move ε α)) : ((start s).run ms).Tidy :=
  run_induction (tidy_start s) (fun _ m _ h => h.move m) ms (List.prefix_refl ms)

theorem run_sound (s : Setup ε) (ms : List (Move ε α)) : ((start s).run ms).Sound :=
  run_induction (sound_start s) (fun _ m _ h => h.move m) ms (List.prefix_refl ms)

end Traffic

end CircuitBreaker
