import CircuitBreaker.Proofs.ProbeSlot
import CircuitBreaker.Proofs.Refusal

namespace CircuitBreaker

namespace Traffic

variable {ε α : Type}

def Closes (t : Traffic ε) (m : Move ε α) : Prop :=
  t.circuit.state ≠ .closed ∧ (t.move m).circuit.state = .closed

def Succeeds (t : Traffic ε) (m : Move ε α) (call : Call) : Prop :=
  call ∈ t.calls ∧ ∃ v : α, m = .settle call.id (.value v)

def MayClose (t : Traffic ε) (m : Move ε α) : Prop := m = .reset ∨ ∃ call ∈ t.probes, t.Succeeds m call

def LateSuccess (t : Traffic ε) (m : Move ε α) : Prop :=
  t.circuit.state ≠ .closed ∧ t.circuit.hardTripped = false ∧ ∃ call, t.Succeeds m call ∧ call ∉ t.probes

def Cooling (t : Traffic ε) : Prop :=
  ∃ opening, t.openings.head? = some opening ∧
    t.clock.mono.since opening.mono < t.circuit.timeout.toNat * 1000000

theorem succeeds_circuit {t : Traffic ε} (h : t.Tidy) {m : Move ε α} {call : Call} (hm : t.Succeeds m call) :
    (t.move m).circuit.Alike t.circuit.succeed := by
  obtain ⟨hc, v, rfl⟩ := hm
  rw [move, settle_eq (h.ending hc rfl)]
  exact t.breaker.settle_alike t.clock call.permit (.value v)

theorem closes_iff {t : Traffic ε} (h : t.Tidy) {m : Move ε α} : t.Closes m ↔
    t.circuit.state ≠ .closed ∧
      (m = .reset ∨ t.circuit.hardTripped = false ∧ ∃ call, t.Succeeds m call) := by
  constructor
  · rintro ⟨hs, hclosed⟩
    refine ⟨hs, ?_⟩
    have he := t.move_effect m
    generalize t.move m = u at he hclosed
    have hstate {b : Breaker ε} {c : Circuit} (hb : b.circuit.Alike c) (hc : b.circuit.state = .closed) :
        c.state = .closed := hb.state.symm.trans hc
    cases he with
    | idle b clock _ hb => exact absurd (hstate hb hclosed) hs
    | pass hpass => exact absurd hpass hs
    | hold b _ _ _ hb | probe b _ _ _ hb => cases hstate hb hclosed
    | retime b timeout hb => exact absurd (hstate hb hclosed) hs
    | opening b calls _ _ hb =>
      have hopen := hstate hb hclosed
      rw [Circuit.trip_state] at hopen
      cases hopen
    | latch b hb =>
      have hopen := hstate hb hclosed
      rw [Circuit.hardTrip_state] at hopen
      cases hopen
    | reset => exact .inl rfl
    | success b call v hc hb =>
      refine .inr ⟨?_, call, hc, v, rfl⟩
      by_contra hh
      have hsame := hstate hb hclosed
      rw [Circuit.succeed_state, if_pos (by simpa using hh)] at hsame
      exact hs hsame
    | passing b call _ hb => exact absurd (hstate hb hclosed) hs
  · rintro ⟨hs, rfl | ⟨hh, call, hm⟩⟩
    · exact ⟨hs, rfl⟩
    · refine ⟨hs, (succeeds_circuit h hm).state.trans ?_⟩
      rw [Circuit.succeed_state, if_neg (by simp [hh])]

theorem closes_only_lawfully_iff {t : Traffic ε} (h : t.Tidy) {m : Move ε α} :
    (t.Closes m → t.MayClose m) ↔ ¬ t.LateSuccess m := by
  constructor
  · rintro hlaw ⟨hs, hh, call, hm, hlate⟩
    rcases hlaw ((closes_iff h).mpr ⟨hs, .inr ⟨hh, call, hm⟩⟩) with hreset | ⟨other, hother, hm'⟩
    · obtain ⟨_, v, rfl⟩ := hm
      cases hreset
    · obtain ⟨hc, v, rfl⟩ := hm
      obtain ⟨hc', v', heq⟩ := hm'
      have hid : call.id = other.id := by injection heq
      rw [List.inj_on_of_nodup_map h.distinct hc hc' hid] at hlate
      exact hlate hother
  · intro hlate hcloses
    obtain ⟨hs, hreset | ⟨hh, call, hm⟩⟩ := (closes_iff h).mp hcloses
    · exact .inl hreset
    · refine .inr ⟨call, ?_, hm⟩
      by_contra hnot
      exact hlate ⟨hs, hh, call, hm, hnot⟩

theorem cooled_of_cooling {t : Traffic ε} (h : t.Sound) (hc : t.Cooling) :
    t.circuit.cooled t.clock.mono = false := by
  obtain ⟨opening, hhead, hlt⟩ := hc
  have hlast := h.cooldown
  rw [hhead] at hlast
  unfold Circuit.cooled
  rw [hlast]
  simpa using hlt

theorem opened_move {t : Traffic ε} (h : t.Sound) (hs : t.circuit.state = .opened) (hc : t.Cooling)
    {m : Move ε α} (hm : m ≠ .reset) (hlate : ¬ t.LateSuccess m) : (t.move m).circuit.state = .opened := by
  have hripe := Circuit.not_ripe_of_cooling hs (cooled_of_cooling h hc)
  have he := t.move_effect m
  generalize t.move m = u at he
  cases he with
  | idle b clock _ hb => exact hb.state.trans hs
  | pass hclosed =>
    rw [hs] at hclosed
    cases hclosed
  | hold b _ hr _ _ | probe b _ hr _ _ => exact absurd hr hripe
  | retime b timeout hb => exact hb.state.trans hs
  | opening b calls _ _ hb => exact hb.state.trans (Circuit.trip_state _ _)
  | latch b hb => exact hb.state.trans (Circuit.hardTrip_state _ _)
  | reset => exact absurd rfl hm
  | success b call v hcall hb =>
    have hnone : t.probes = [] := probes_of_ne (by simp [hs])
    have hh : t.circuit.hardTripped = true := by
      by_contra hh
      exact hlate ⟨by simp [hs], by simpa using hh, call, ⟨hcall, v, rfl⟩, by simp [hnone]⟩
    exact (hb.state.trans (by rw [Circuit.succeed_state, if_pos hh])).trans hs
  | passing b call _ hb => exact hb.state.trans hs

theorem not_turnsAway_of_lateSuccess {t : Traffic ε} (h : t.Tidy) {m : Move ε α} (hlate : t.LateSuccess m) :
    ¬ (t.move m).TurnsAway := by
  obtain ⟨hs, hh, call, hm, _⟩ := hlate
  have hclosed := ((closes_iff h).mpr ⟨hs, .inr ⟨hh, call, hm⟩⟩).2
  have hfree : (t.move m).circuit.hardTripped = false := by
    rw [(succeeds_circuit h hm).hardTripped, Circuit.succeed_hardTripped, hh]
  rw [turnsAway_iff, Breaker.acquire_closed hfree hclosed]
  simp

theorem tripped_closing_iff (s : Setup ε) (ms : List (Move ε α)) :
    ((∀ p m, p ++ [m] <+: ms → ((start s).run p).Closes m → ((start s).run p).MayClose m) ↔
      ∀ p m, p ++ [m] <+: ms → ¬ ((start s).run p).LateSuccess m) ∧
    ∀ before after, ms = before ++ after → ((start s).run before).circuit.state = .opened →
      .reset ∉ after → (∀ p, p <+: after → ((start s).run (before ++ p)).Cooling) →
      ((∀ p, p <+: after → ((start s).run (before ++ p)).TurnsAway) ↔
        ∀ p m, p ++ [m] <+: after → ¬ ((start s).run (before ++ p)).LateSuccess m) := by
  constructor
  · constructor
    · intro h p m hp
      exact (closes_only_lawfully_iff (run_tidy s p)).mp (h p m hp)
    · intro h p m hp
      exact (closes_only_lawfully_iff (run_tidy s p)).mpr (h p m hp)
  · intro before after _ hs hreset hcool
    constructor
    · intro h p m hp hlate
      apply not_turnsAway_of_lateSuccess (run_tidy s _) hlate
      rw [← run_concat, List.append_assoc]
      exact h (p ++ [m]) hp
    · intro h p hp
      have hopen : ∀ p, p <+: after → (((start s).run before).run p).circuit.state = .opened := by
        refine run_induction (P := fun t => t.circuit.state = .opened) hs fun q m hq hstate => ?_
        have hq' : q <+: after := (List.prefix_append q [m]).trans hq
        have hm : m ≠ .reset := fun he => hreset (hq.subset (by simp [he]))
        rw [← run_append] at hstate ⊢
        exact opened_move (run_sound s _) hstate (hcool q hq') hm (h q m hq)
      apply turnsAway_iff.mpr
      refine Breaker.acquire_cooling ?_ (cooled_of_cooling (run_sound s _) (hcool p hp))
      rw [run_append]
      exact hopen p hp

theorem straggler_closes :
    let t := (start lenient).run [(.enter : Move Unit Unit), .trip]
    let m : Move Unit Unit := .settle 0 (.value ())
    t.Cooling ∧ t.Closes m ∧ ¬ t.MayClose m ∧ ¬ (t.move m).TurnsAway := by
  intro t m
  refine ⟨⟨⟨⟨0⟩, ⟨0⟩⟩, by decide, by decide⟩, ⟨by decide, by decide⟩, ?_, ?_⟩
  · rintro (h | ⟨call, hcall, _⟩)
    · exact absurd h (by simp [m])
    · have hnone : t.probes = [] := by decide
      rw [hnone] at hcall
      cases hcall
  · rw [turnsAway_iff]
    decide

end Traffic

end CircuitBreaker
