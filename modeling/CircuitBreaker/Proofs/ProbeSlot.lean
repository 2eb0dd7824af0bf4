import CircuitBreaker.Proofs.Traffic

namespace CircuitBreaker

namespace Traffic

variable {ε α : Type}

def probes (t : Traffic ε) : List Call :=
  if t.circuit.state = .halfOpen then
    t.calls.filter fun call => call.permit.probe && decide (call.period = t.periods)
  else []

structure SoleProbe (t : Traffic ε) : Prop where
  single : t.probes.length ≤ 1
  exclusive : t.probes ≠ [] → (t.breaker.acquire t.clock.mono).1 ≠ some ⟨true⟩

def Frees (t : Traffic ε) (m : Move ε α) : Prop :=
  ∃ call, t.Passes m call ∧ call.permit.probe = true ∧ ∃ other ∈ t.probes, other ≠ call

theorem probes_of_ne {t : Traffic ε} (h : t.circuit.state ≠ .halfOpen) : t.probes = [] := if_neg h

theorem mem_probes {t : Traffic ε} {call : Call} : call ∈ t.probes ↔
    t.circuit.state = .halfOpen ∧ call ∈ t.calls ∧ call.permit.probe = true ∧ call.period = t.periods := by
  unfold probes
  by_cases hs : t.circuit.state = .halfOpen <;> simp [hs]

theorem probes_sublist {t u : Traffic ε} (hs : u.circuit.state = t.circuit.state)
    (hc : u.calls.Sublist t.calls) (hp : u.periods = t.periods) : u.probes.Sublist t.probes := by
  unfold probes
  rw [hs, hp]
  split
  · exact hc.filter _
  · exact List.Sublist.refl _

theorem probes_ripened {t : Traffic ε} (h : t.Tidy) {b : Breaker ε} (hb : b.circuit.state = .halfOpen) :
    ({ t with breaker := b, periods := t.nextPeriod } : Traffic ε).probes = t.probes := by
  unfold probes nextPeriod
  change (if b.circuit.state = .halfOpen then _ else _) = _
  rw [if_pos hb]
  by_cases hs : t.circuit.state = .halfOpen
  · simp only [if_pos hs]
  · simp only [if_neg hs]
    apply List.filter_eq_nil_iff.mpr
    intro call hcall
    have := h.period call hcall
    simp
    omega

theorem probes_hand {t : Traffic ε} (hs : t.circuit.state = .halfOpen) :
    (t.hand ⟨true⟩).probes = ⟨t.admitted, ⟨true⟩, t.periods⟩ :: t.probes := by
  have hs' : (t.hand ⟨true⟩).circuit.state = .halfOpen := hs
  unfold probes
  rw [if_pos hs, if_pos hs']
  simp [hand]

theorem opened_or_closed_of_succeed {t : Traffic ε} (h : t.Sound) : t.circuit.succeed.state ≠ .halfOpen := by
  rw [Circuit.succeed_state]
  split
  · rename_i hh
    rw [(h.locked hh).state]
    simp
  · simp

structure Guarded (t : Traffic ε) : Prop where
  single : t.probes.length ≤ 1
  marked : t.probes ≠ [] → t.circuit.probeInFlight = true

theorem guarded_of_ne {t : Traffic ε} (h : t.circuit.state ≠ .halfOpen) : t.Guarded := by
  have hp := probes_of_ne h
  exact ⟨by simp [hp], fun hne => absurd hp hne⟩

theorem guarded_start (s : Setup ε) : (start s).Guarded :=
  guarded_of_ne (by simp [start, circuit, Circuit.ofTimeout])

theorem Guarded.fewer {t u : Traffic ε} (h : t.Guarded) (hs : u.circuit.state = t.circuit.state)
    (hc : u.calls.Sublist t.calls) (hp : u.periods = t.periods)
    (hm : u.circuit.probeInFlight = t.circuit.probeInFlight) : u.Guarded := by
  have hsub := probes_sublist hs hc hp
  refine ⟨Nat.le_trans hsub.length_le h.single, fun hne => hm.trans (h.marked ?_)⟩
  intro ht
  exact hne (List.sublist_nil.mp (ht ▸ hsub))

theorem probes_of_not_frees {t u : Traffic ε} {m : Move ε α} {call : Call} (hm : t.Passes m call)
    (hp : call.permit.probe = true) (hf : ¬ t.Frees m) (hs : u.circuit.state = t.circuit.state)
    (hc : u.calls = (t.forget call.id).calls) (hper : u.periods = t.periods) : u.probes = [] := by
  apply List.eq_nil_iff_forall_not_mem.mpr
  intro other hother
  have hmem : other ∈ t.probes := (probes_sublist hs (hc ▸ t.forget_sublist _) hper).subset hother
  have heq : other = call := by
    by_contra hne
    exact hf ⟨call, hm, hp, other, hmem, hne⟩
  have hcalls : other ∈ (t.forget call.id).calls := hc ▸ (mem_probes.mp hother).2.1
  simp [forget, heq] at hcalls

theorem Guarded.move {t : Traffic ε} {m : Move ε α} (h : t.Guarded) (ht : t.Tidy) (hs : t.Sound)
    (hf : ¬ t.Frees m) : (t.move m).Guarded := by
  have he := t.move_effect m
  generalize t.move m = u at he
  cases he with
  | idle b clock _ hb => exact h.fewer hb.state (List.Sublist.refl _) rfl hb.probeInFlight
  | pass hclosed =>
    have hclosed' : (t.hand ⟨false⟩).circuit.state = .closed := hclosed
    exact guarded_of_ne (by simp [hclosed'])
  | hold b _ _ hp hb =>
    have hprobes := probes_ripened ht hb.state
    exact ⟨hprobes ▸ h.single, fun _ => hb.probeInFlight.trans hp⟩
  | probe b _ _ hp hb =>
    have hnone : t.probes = [] := by
      by_contra hne
      rw [h.marked hne] at hp
      cases hp
    have hprobes := probes_hand (t := { t with breaker := b, periods := t.nextPeriod }) hb.state
    rw [probes_ripened ht hb.state, hnone] at hprobes
    exact ⟨by rw [hprobes]; simp, fun _ => hb.probeInFlight⟩
  | retime b timeout hb => exact h.fewer hb.state (List.Sublist.refl _) rfl hb.probeInFlight
  | opening b calls _ _ hb => exact guarded_of_ne (by rw [circuit, hb.state, Circuit.trip_state]; simp)
  | latch b hb => exact guarded_of_ne (by rw [circuit, hb.state, Circuit.hardTrip_state]; simp)
  | reset b hb => exact guarded_of_ne (by rw [circuit, hb.state, Circuit.reset_state]; simp)
  | success b call v _ hb => exact guarded_of_ne (by
      rw [circuit]
      exact hb.state ▸ opened_or_closed_of_succeed hs)
  | passing b call hm hb =>
    by_cases hp : call.permit.probe = true
    · have hnone := probes_of_not_frees (u := { t.forget call.id with breaker := b }) hm hp hf hb.state rfl rfl
      exact ⟨by simp [hnone], fun hne => absurd hnone hne⟩
    · refine h.fewer hb.state (t.forget_sublist _) rfl (hb.probeInFlight.trans ?_)
      simp [hp]

theorem Guarded.soleProbe {t : Traffic ε} (h : t.Guarded) : t.SoleProbe := by
  refine ⟨h.single, fun hne hprobe => ?_⟩
  have hp : t.circuit.probeInFlight = false := ((t.breaker.acquire_probe_iff _).mp hprobe).2.2
  rw [h.marked hne] at hp
  cases hp

theorem not_soleProbe_of_frees {t : Traffic ε} {m : Move ε α} (ht : t.Tidy) (hs : t.Sound)
    (h : t.Frees m) : ¬ (t.move m).SoleProbe := by
  -- The mark is gone though the other probe runs on, so the next admission hands out a second one.
  obtain ⟨call, hm, hp, other, hother, hne⟩ := h
  obtain ⟨b, hb, hmove⟩ := passes_eq ht hm
  rw [hmove]
  obtain ⟨hhalf, hcalls, hprobe, hper⟩ := mem_probes.mp hother
  have hstate : b.circuit.state = .halfOpen := hb.state.trans hhalf
  intro hsole
  have hkept : other ∈ (t.forget call.id).calls := by
    refine List.mem_filter.mpr ⟨hcalls, ?_⟩
    simpa using fun hid => hne (List.inj_on_of_nodup_map ht.distinct hcalls hm.1 hid)
  have hmem : other ∈ ({ t.forget call.id with breaker := b } : Traffic ε).probes :=
    mem_probes.mpr ⟨hstate, hkept, hprobe, hper⟩
  refine hsole.exclusive (List.ne_nil_of_mem hmem) ((b.acquire_probe_iff _).mpr ⟨?_, .inl hstate, ?_⟩)
  · refine hb.hardTripped.trans ?_
    by_contra hd
    have hopen := (hs.locked (by simpa using hd)).state
    rw [hhalf] at hopen
    cases hopen
  · exact hb.probeInFlight.trans (by simp [hp])

theorem sole_probe_iff (s : Setup ε) (ms : List (Move ε α)) :
    (∀ p, p <+: ms → ((start s).run p).SoleProbe) ↔
      ∀ p m, p ++ [m] <+: ms → ¬ ((start s).run p).Frees m := by
  constructor
  · intro h p m hp hf
    apply not_soleProbe_of_frees (run_tidy s p) (run_sound s p) hf
    rw [← run_concat]
    exact h (p ++ [m]) hp
  · intro h p hp
    apply Guarded.soleProbe
    refine run_induction (guarded_start s) (fun q m hq hg => ?_) p hp
    exact hg.move (run_tidy s q) (run_sound s q) (h q m hq)

def lenient : Setup Unit :=
  { name := "default"
    timeout := .ofMillis 100
    classifiers := [("lenient", .rule fun _ => .ok .passThrough)]
    installed := some "lenient"
    clock := ⟨⟨0⟩, ⟨0⟩⟩ }

def leftoverProbe : List (Move Unit Unit) :=
  [.trip, .shift 100000000 100000000, .enter, .trip, .shift 100000000 100000000, .enter]

theorem leftover_second_probe :
    ¬ ((start lenient).run (leftoverProbe ++ [.settle 0 (.failure ()), .enter])).SoleProbe := by
  intro h
  exact absurd h.single (by decide)

def holder (t : Traffic ε) : Option Nat := if t.circuit.probeInFlight then t.lastProbe else none

structure Transparent (t u : Traffic ε) (call : Call) : Prop where
  state : u.circuit.state = t.circuit.state
  lastFailure : u.circuit.lastFailure = t.circuit.lastFailure
  lastFailureTime : u.circuit.lastFailureTime = t.circuit.lastFailureTime
  hardTripped : u.circuit.hardTripped = t.circuit.hardTripped
  openCount : u.circuit.openCount = t.circuit.openCount
  mark : u.circuit.probeInFlight = if t.holder = some call.id then false else t.circuit.probeInFlight

theorem holder_none_iff {t : Traffic ε} (h : t.Sound) : t.holder = none ↔ t.circuit.probeInFlight = false := by
  unfold holder
  cases hp : t.circuit.probeInFlight with
  | false => simp
  | true => simpa using h.marked hp

theorem probe_of_holder {t : Traffic ε} (h : t.Tidy) {call : Call} (hc : call ∈ t.calls)
    (hh : t.holder = some call.id) : call.permit.probe = true := by
  unfold holder at hh
  split at hh
  · exact h.lastProbe call hc hh
  · cases hh

theorem mark_after_passing_iff {t : Traffic ε} (ht : t.Tidy) (hs : t.Sound) {call : Call}
    (hc : call ∈ t.calls) :
    (t.circuit.probeInFlight && !call.permit.probe) =
        (if t.holder = some call.id then false else t.circuit.probeInFlight) ↔
      ¬ (call.permit.probe = true ∧ ∃ other, t.holder = some other ∧ other ≠ call.id) := by
  by_cases hown : t.holder = some call.id
  · rw [if_pos hown, probe_of_holder ht hc hown]
    simp [hown]
  rw [if_neg hown]
  cases hp : call.permit.probe with
  | false => simp
  | true =>
    cases hh : t.holder with
    | none => simp [(holder_none_iff hs).mp hh]
    | some other =>
      have hne : other ≠ call.id := fun he => hown (he ▸ hh)
      have hm : t.circuit.probeInFlight = true := by
        by_contra hm
        rw [(holder_none_iff hs).mpr (by simpa using hm)] at hh
        cases hh
      simp [hm, hne]

theorem passing_transparent_iff (s : Setup ε) (ms : List (Move ε α)) (m : Move ε α) (call : Call)
    (hm : ((start s).run ms).Passes m call) :
    let t := (start s).run ms
    (t.move m).circuit.Alike
        { t.circuit with probeInFlight := t.circuit.probeInFlight && !call.permit.probe } ∧
      (t.Transparent (t.move m) call ↔
        ¬ (call.permit.probe = true ∧ ∃ other, t.holder = some other ∧ other ≠ call.id)) := by
  intro t
  obtain ⟨b, hb, hmove⟩ := passes_eq (run_tidy s ms) hm
  have hu : (t.move m).circuit = b.circuit := congrArg circuit hmove
  rw [← hu] at hb
  refine ⟨hb, Iff.trans ?_ (mark_after_passing_iff (run_tidy s ms) (run_sound s ms) hm.1)⟩
  constructor
  · intro h
    exact hb.probeInFlight.symm.trans h.mark
  · intro h
    exact ⟨hb.state, hb.lastFailure, hb.lastFailureTime, hb.hardTripped, hb.openCount,
      hb.probeInFlight.trans h⟩

theorem leftover_own_passing :
    let t := (start lenient).run leftoverProbe
    let m : Move Unit Unit := .settle 1 (.failure ())
    t.Passes m ⟨1, ⟨true⟩, 2⟩ ∧ t.Transparent (t.move m) ⟨1, ⟨true⟩, 2⟩ := by
  intro t m
  have hm : t.Passes m ⟨1, ⟨true⟩, 2⟩ := ⟨by decide, (), rfl, rfl⟩
  refine ⟨hm, (passing_transparent_iff lenient leftoverProbe m _ hm).2.mpr ?_⟩
  rintro ⟨_, other, hother, hne⟩
  have hone : t.holder = some 1 := by decide
  exact hne (Option.some.inj (hother.symm.trans hone))

theorem leftover_passing_frees_slot :
    let t := (start lenient).run leftoverProbe
    let m : Move Unit Unit := .settle 0 (.failure ())
    t.Passes m ⟨0, ⟨true⟩, 1⟩ ∧ t.holder = some 1 ∧ ¬ t.Transparent (t.move m) ⟨0, ⟨true⟩, 1⟩ := by
  intro t m
  refine ⟨⟨by decide, (), rfl, rfl⟩, by decide, fun h => ?_⟩
  exact absurd h.mark (by decide)

end Traffic

end CircuitBreaker
