import CircuitBreaker.Proofs.Flattening
import CircuitBreaker.Proofs.Parting

namespace CircuitBreaker

def Clock.blind (now : Clock) : Clock := { now with wall := ⟨0⟩ }

namespace Circuit

variable {c : Circuit} {now : Clock}

def blind (c : Circuit) : Circuit := { c with lastFailureTime := c.lastFailureTime.map fun _ => ⟨0⟩ }

theorem opening_blind (c : Circuit) (hard : Bool) (hd : now.dated = true) :
    c.blind.opening hard now.blind = (c.opening hard now).blind := by
  rw [c.opening_completed hard hd, c.blind.opening_completed hard rfl]
  rfl

theorem likeness_blind : Likeness fun c c' => c' = c.blind where
  name := by rintro _ _ rfl; rfl
  state := by rintro _ _ rfl; rfl
  probeInFlight := by rintro _ _ rfl; rfl
  hardTripped := by rintro _ _ rfl; rfl
  cooled := by rintro _ _ rfl _ _; rfl
  emit := by rintro _ _ rfl _; rfl
  mark := by rintro _ _ rfl _; rfl
  latch := by rintro _ _ rfl _; rfl
  close := by rintro _ _ rfl; rfl
  halfOpen := by rintro _ _ rfl _; rfl

theorem lockstep_blind : Lockstep (fun _ => 0) (fun o => o.clock.dated = true) (fun now now' => now' = now.blind)
    (fun c c' => c' = c.blind) where
  mono := by rintro _ _ rfl; rfl
  fault := by
    rintro _ now _ rfl hd
    exact (now.dated_iff.mp hd).symm
  shift := by rintro _ _ rfl _ _; rfl
  name := likeness_blind.name
  emit := likeness_blind.emit
  calm_emit h _ := h
  admission := likeness_blind.admission
  succeed := likeness_blind.succeed
  releaseProbe := likeness_blind.releaseProbe
  reset := likeness_blind.reset
  setTimeout := by rintro _ _ rfl _; rfl
  trip := by rintro c _ _ _ rfl rfl hd; exact c.opening_blind false hd
  hardTrip := by rintro c _ _ _ rfl rfl hd; exact c.opening_blind true hd

end Circuit

def Event.opens : Event → Bool
  | opening .. | hardTripped .. => true
  | _ => false

namespace Circuit

variable {c : Circuit} {now : Clock}

def announced (c : Circuit) : Nat := c.journal.countP Event.opens

theorem announced_emit {e : Event} (he : e.opens = false) : (c.emit e).announced = c.announced :=
  List.countP_cons_of_neg (by simp [he])

theorem announced_remark {e : Event} (he : e.remark = true) : (c.emit e).announced = c.announced := by
  apply announced_emit
  cases e with
  | abandoned | passedThrough | ignored => rfl
  | _ => cases he

theorem announced_ripen (c : Circuit) (now : Instant) : (c.ripen now).announced = c.announced := by
  unfold ripen
  split
  · exact announced_emit rfl
  · rfl

theorem announced_admitProbe (c : Circuit) : c.admitProbe.2.announced = c.announced := by
  unfold admitProbe
  split <;> exact announced_emit rfl

theorem announced_admission (c : Circuit) (now : Instant) : (c.admission now).2.announced = c.announced := by
  unfold admission
  split
  · exact announced_emit rfl
  · split
    · rfl
    · rw [announced_admitProbe, announced_ripen]

theorem announced_releaseProbe (c : Circuit) : c.releaseProbe.announced = c.announced := by
  unfold releaseProbe
  split
  · exact announced_emit rfl
  · rfl

theorem announced_opening (c : Circuit) (hard : Bool) (now : Clock) :
    (c.opening hard now).announced = c.announced + if now.dated then 1 else 0 := by
  cases hd : now.dated with
  | true =>
    have he : (c.openingEvent hard).opens = true := by cases hard <;> rfl
    rw [c.opening_completed hard hd]
    exact List.countP_cons_of_pos he
  | false =>
    rw [c.opening_of_fault hard hd]
    rfl

theorem lasting_announced_lt (n : Nat) : Lasting (fun c => c.announced < n) fun now => now.dated = false where
  remark h _ he := by rwa [announced_remark he]
  releaseProbe h := by rwa [announced_releaseProbe]
  admission h now := by rwa [announced_admission]
  trip {c now} h hd := by
    have hc : (c.trip now).announced = _ := c.announced_opening false now
    rw [hc, hd]
    exact h

theorem lasting_lt_announced (n : Nat) : Lasting (fun c => n < c.announced) fun _ => True where
  remark h _ he := by rwa [announced_remark he]
  releaseProbe h := by rwa [announced_releaseProbe]
  admission h now := by rwa [announced_admission]
  trip {c now} h _ := by
    have hc : (c.trip now).announced = _ := c.announced_opening false now
    rw [hc]
    exact Nat.lt_add_right _ h

theorem parting_blind : Parting (fun o => o.clock.dated = true) (fun now now' => now' = now.blind)
    (fun c c' => c' = c.blind) (fun c c' => c.announced < c'.announced) where
  undated h := by simpa using h
  before h := h
  opened := by
    rintro c _ now _ rfl rfl hd hard
    rw [announced_opening, announced_opening, if_neg hd]
    exact Nat.lt_succ_self _
  left c' := lasting_announced_lt _
  right c := lasting_lt_announced _

end Circuit

variable {ε α : Type}

def Breaker.blind (b : Breaker ε) : Breaker ε := b.onCircuit Circuit.blind

def Moment.blind (m : Moment ε α) : Moment ε α := ⟨m.answer, m.breaker.blind, m.clock.blind⟩

namespace Session

variable {s s' : Session ε} {steps steps' : List (Step ε α)}

def blind (s : Session ε) : Session ε := { s with breaker := s.breaker.blind, clock := s.clock.blind }

theorem blind_like (s : Session ε) :
    s.Like (fun now now' => now' = now.blind) (fun c c' => c' = c.blind) (fun _ => False) s.blind :=
  ⟨⟨rfl, rfl, rfl⟩, rfl, fun _ _ => rfl⟩

theorem moment_blind_of_like {m m' : Moment ε α}
    (h : m.Like (fun now now' => now' = now.blind) (fun c c' => c' = c.blind) m') : m' = m.blind := by
  obtain ⟨ha, ⟨hc, ht, hi⟩, hn⟩ := h
  obtain ⟨a, ⟨c, table, installed⟩, now⟩ := m
  obtain ⟨a', ⟨c', table', installed'⟩, now'⟩ := m'
  cases ha
  cases hc
  cases ht
  cases hi
  cases hn
  rfl

theorem moments_blind_of_like {ms ms' : List (Moment ε α)}
    (h : List.Forall₂ (Moment.Like (fun now now' => now' = now.blind) (fun c c' => c' = c.blind)) ms ms') :
    ms' = ms.map Moment.blind := by
  induction h with
  | nil => rfl
  | cons hm _ ih => rw [List.map_cons, moment_blind_of_like hm, ih]

theorem trail_blind (s : Session ε) (h : ∀ o ∈ s.openingsAlong steps, o.clock.dated = true) :
    trail (s.blind.run (mapWalls (fun _ => 0) steps)).1 = (trail (s.run steps).1).map Moment.blind :=
  moments_blind_of_like (Circuit.lockstep_blind.run s.blind_like steps (fun _ _ hf => hf) h).1

theorem dated_of_trail_blind
    (h : trail (s.blind.run (mapWalls (fun _ => 0) steps)).1 = (trail (s.run steps).1).map Moment.blind) :
    ∀ o ∈ s.openingsAlong steps, o.clock.dated = true := by
  by_contra hnot
  push Not at hnot
  have hdiffer := Circuit.parting_blind.run Circuit.lockstep_blind s.blind_like steps (fun _ _ hf => hf) hnot
  rw [h] at hdiffer
  refine hdiffer.not_forall₂ (R := fun m m' => m' = m.blind) ?_ ?_
  · rintro m _ rfl ha
    exact Nat.lt_irrefl _ ha
  · exact List.forall₂_map_right_iff.mpr (List.forall₂_same.mpr fun _ _ => rfl)

theorem wall_clock_unseen_iff (hs : s.blind = s'.blind)
    (hsteps : mapWalls (fun _ => 0) steps = mapWalls (fun _ => 0) steps')
    (hdated : ∀ o ∈ s'.openingsAlong steps', o.clock.dated = true) :
    (trail (s.run steps).1).map Moment.blind = (trail (s'.run steps').1).map Moment.blind ↔
      ∀ o ∈ s.openingsAlong steps, o.clock.dated = true := by
  have hother : trail (s.blind.run (mapWalls (fun _ => 0) steps)).1 =
      (trail (s'.run steps').1).map Moment.blind := by
    rw [hs, hsteps]
    exact trail_blind s' hdated
  constructor
  · intro hsame
    exact dated_of_trail_blind (hother.trans hsame.symm)
  · intro h
    exact (trail_blind s h).symm.trans hother

def failingCall (wall : Int) : List (Step Unit Unit) := [.shift 1 wall, .invoke .own [] (.failure ())]

theorem failing_call_unseen :
    (trail (Traffic.plain.session.run (failingCall 7)).1).map Moment.blind =
      (trail (Traffic.plain.session.run (failingCall 5000000000)).1).map Moment.blind := by
  have hdated : ∀ o ∈ Traffic.plain.session.openingsAlong (failingCall 5000000000), o.clock.dated = true := by
    intro o ho
    rw [List.mem_singleton.mp ho]
    rfl
  refine (wall_clock_unseen_iff rfl rfl hdated).mpr ?_
  intro o ho
  rw [List.mem_singleton.mp ho]
  rfl

theorem failing_call_seen :
    mapWalls (fun _ => 0) (failingCall 7) = mapWalls (fun _ => 0) (failingCall (-1)) ∧
      (trail (Traffic.plain.session.run (failingCall 7)).1).map Moment.blind ≠
        (trail (Traffic.plain.session.run (failingCall (-1))).1).map Moment.blind := by
  refine ⟨rfl, fun h => ?_⟩
  have hcounts := congrArg (List.map fun m => m.breaker.circuit.openCount) h
  exact absurd hcounts (by decide)

end Session

end CircuitBreaker
