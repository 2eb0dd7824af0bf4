import CircuitBreaker.Proofs.Traffic

namespace CircuitBreaker

def Clock.dated (now : Clock) : Bool := now.wall.fault?.isNone

theorem Clock.dated_iff (now : Clock) : now.dated = true ↔ now.wall.fault? = none := by
  simp [dated]

theorem Clock.not_dated_iff (now : Clock) : now.dated = false ↔ now.wall.fault? ≠ none := by
  simp [dated, Option.ne_none_iff_isSome]

namespace Circuit

def opening (c : Circuit) (hard : Bool) (now : Clock) : Circuit := if hard then c.hardTrip now else c.trip now

def openingEvent (c : Circuit) (hard : Bool) : Event :=
  if hard then .hardTripped c.name (c.openCount + 1) else .opening c.name (c.openCount + 1)

theorem opening_completed (c : Circuit) (hard : Bool) {now : Clock} (hd : now.dated = true) :
    c.opening hard now =
      { c.failAt now with hardTripped := hard || c.hardTripped }.emit (c.openingEvent hard) := by
  have hn := now.dated_iff.mp hd
  cases hard with
  | true => exact c.hardTrip_of_date hn
  | false => exact c.trip_of_date hn

theorem opening_of_date (c : Circuit) (hard : Bool) {now : Clock} (hd : now.dated = true) :
    (c.opening hard now).Alike { c.failAt now with hardTripped := hard || c.hardTripped } := by
  rw [c.opening_completed hard hd]
  exact alike_emit _ _

theorem opening_of_fault (c : Circuit) (hard : Bool) {now : Clock} (hd : now.dated = false) :
    c.opening hard now = c.startCooldown now.mono := by
  have hn := now.not_dated_iff.mp hd
  cases hard with
  | true => exact c.hardTrip_of_fault hn
  | false => exact c.trip_of_fault hn

end Circuit

namespace Traffic

variable {ε α : Type} {t : Traffic ε} {m : Move ε α} {call : Call}

def Fails (t : Traffic ε) (m : Move ε α) (call : Call) : Prop :=
  call ∈ t.calls ∧ (m = .abandon call.id ∨ ∃ result : Completion ε α, m = .settle call.id result ∧
    (t.breaker.assess t.clock.mono result).1.opens = true ∧
      (t.breaker.assess t.clock.mono result).1.aborts t.clock = false)

def Opens (t : Traffic ε) (m : Move ε α) : Prop := m = .trip ∨ m = .hardTrip ∨ ∃ call, t.Fails m call

theorem opens_settle (hc : call ∈ t.calls) {result : Completion ε α}
    (ho : (t.breaker.assess t.clock.mono result).1.opens = true)
    (ha : (t.breaker.assess t.clock.mono result).1.aborts t.clock = false) : t.Opens (.settle call.id result) :=
  .inr (.inr ⟨call, hc, .inr ⟨result, rfl, ho, ha⟩⟩)

theorem opens_abandon (hc : call ∈ t.calls) : t.Opens (.abandon call.id : Move ε α) :=
  .inr (.inr ⟨call, hc, .inl rfl⟩)

theorem conclude_opens {c : Circuit} {now : Clock} {permit : Permit} {a : Assessment ε α}
    (h : a.opens = true) : c.conclude now permit a = c.trip now := by
  cases a with
  | tripping | crash => rfl
  | success | nonTripping => cases h

theorem fails_eq (h : t.Tidy) (hm : t.Fails m call) :
    ∃ (b : Breaker ε) (remarks : List Event), (∀ e ∈ remarks, e.remark = true) ∧
      b.circuit = (remarks.foldl Circuit.emit t.circuit).trip t.clock ∧
      t.move m = { t.forget call.id with breaker := b, openings := t.clock :: t.openings } := by
  obtain ⟨hc, rfl | ⟨result, rfl, ho, ha⟩⟩ := hm
  · exact ⟨_, [.abandoned t.circuit.name call.permit.probe], by simp [Event.remark], rfl,
      abandon_eq (h.find hc)⟩
  · obtain ⟨remarks, hremarks, hb⟩ := t.breaker.settle_remarked t.clock call.permit result
    rw [conclude_opens ho] at hb
    refine ⟨_, remarks, hremarks, hb, ?_⟩
    rw [move, settle_eq (h.ending hc ha), if_pos ho]

theorem opened_eq (h : t.Tidy) (hm : t.Opens m) :
    ∃ (hard : Bool) (remarks : List Event), (∀ e ∈ remarks, e.remark = true) ∧
      (t.move m).circuit = (remarks.foldl Circuit.emit t.circuit).opening hard t.clock ∧
      (t.move m).openings = t.clock :: t.openings := by
  obtain rfl | rfl | ⟨call, hf⟩ := hm
  · rw [trip_eq]
    exact ⟨false, [], by simp, rfl, rfl⟩
  · rw [hardTrip_eq]
    exact ⟨true, [], by simp, rfl, rfl⟩
  · obtain ⟨b, remarks, hremarks, hb, hmove⟩ := fails_eq h hf
    rw [hmove]
    exact ⟨false, remarks, hremarks, hb, rfl⟩

theorem opened_openings (h : t.Tidy) (hm : t.Opens m) : (t.move m).openings = t.clock :: t.openings := by
  obtain ⟨hard, remarks, -, -, ho⟩ := opened_eq h hm
  exact ho

theorem opened_dated (h : t.Tidy) (hm : t.Opens m) (hd : t.clock.dated = true) :
    ∃ hard, (t.move m).circuit.Alike { t.circuit.failAt t.clock with hardTripped := hard } := by
  obtain ⟨hard, remarks, -, hc, -⟩ := opened_eq h hm
  obtain ⟨journal, hj⟩ := t.circuit.alike_emitAll remarks
  rw [hc, hj]
  exact ⟨_, (Circuit.opening_of_date _ hard hd).trans ⟨journal, rfl⟩⟩

theorem opened_undated (h : t.Tidy) (hm : t.Opens m) (hd : t.clock.dated = false) :
    (t.move m).circuit.Alike (t.circuit.startCooldown t.clock.mono) := by
  obtain ⟨hard, remarks, -, hc, -⟩ := opened_eq h hm
  obtain ⟨journal, hj⟩ := t.circuit.alike_emitAll remarks
  rw [hc, hj, Circuit.opening_of_fault _ hard hd]
  exact ⟨journal, rfl⟩

theorem settle_openings (t : Traffic ε) (id : Nat) (result : Completion ε α)
    (hm : ¬ t.Opens (.settle id result)) : (t.settle id result).openings = t.openings := by
  cases hf : t.ending id result with
  | none =>
    unfold settle
    rw [hf]
  | some call =>
    obtain ⟨ha, hfind⟩ := ending_eq_some_iff.mp hf
    obtain ⟨hc, rfl⟩ := find_eq hfind
    rw [settle_eq hf]
    exact if_neg fun ho => hm (opens_settle hc ho ha)

theorem abandon_quiet {id : Nat} (hm : ¬ t.Opens (.abandon id : Move ε α)) : t.abandon id = t := by
  cases hf : t.find id with
  | none =>
    unfold abandon
    rw [hf]
  | some call =>
    obtain ⟨hc, rfl⟩ := find_eq hf
    exact absurd (opens_abandon hc) hm

theorem quiet_openings (hm : ¬ t.Opens m) : (t.move m).openings = t.openings := by
  cases m with
  | enter =>
    rw [move]
    unfold enter
    split <;> rfl
  | settle id result => exact t.settle_openings id result hm
  | abandon id => rw [move, abandon_quiet hm]
  | trip => exact absurd (.inl rfl) hm
  | hardTrip => exact absurd (.inr (.inl rfl)) hm
  | reset | setTimeout | install | shift => rfl

structure Recorded (t : Traffic ε) : Prop where
  time : t.circuit.lastFailureTime = (t.openings.filter Clock.dated).head?.map Clock.wall
  count : t.circuit.openCount = .ofNat (t.openings.filter Clock.dated).length

theorem recorded_start (s : Setup ε) : (start s).Recorded := by
  constructor <;> simp [start, circuit, Circuit.ofTimeout]

theorem quiet_telemetry (hm : ¬ t.Opens m) :
    (t.move m).circuit.lastFailureTime = t.circuit.lastFailureTime ∧
      (t.move m).circuit.openCount = t.circuit.openCount := by
  have hq := quiet_openings hm
  have he := t.move_effect m
  generalize t.move m = u at he hq
  cases he with
  | idle b _ _ hb | hold b _ _ _ hb | probe b _ _ _ hb | retime b _ hb | reset b hb | passing b _ _ hb =>
    exact ⟨hb.lastFailureTime, hb.openCount⟩
  | pass => exact ⟨rfl, rfl⟩
  | opening | latch => exact absurd hq (List.cons_ne_self _ _)
  | success b call v _ hb =>
    exact ⟨hb.lastFailureTime.trans (Circuit.succeed_lastFailureTime _),
      hb.openCount.trans (Circuit.succeed_openCount _)⟩

theorem Recorded.move (h : t.Recorded) (ht : t.Tidy) (m : Move ε α) : (t.move m).Recorded := by
  by_cases hm : t.Opens m
  · have hopen := opened_openings ht hm
    cases hd : t.clock.dated with
    | true =>
      obtain ⟨hard, hb⟩ := opened_dated ht hm hd
      constructor
      · rw [hb.lastFailureTime, hopen, List.filter_cons_of_pos hd]
        rfl
      · rw [hb.openCount, hopen, List.filter_cons_of_pos hd]
        change t.circuit.openCount + 1 = _
        rw [h.count]
        simp
    | false =>
      have hb := opened_undated ht hm hd
      constructor
      · rw [hb.lastFailureTime, hopen, List.filter_cons_of_neg (by simp [hd])]
        exact h.time
      · rw [hb.openCount, hopen, List.filter_cons_of_neg (by simp [hd])]
        exact h.count
  · obtain ⟨htime, hcount⟩ := quiet_telemetry hm
    have hq := quiet_openings hm
    exact ⟨by rw [htime, hq]; exact h.time, by rw [hcount, hq]; exact h.count⟩

theorem run_recorded (s : Setup ε) (ms : List (Move ε α)) : ((start s).run ms).Recorded :=
  run_induction (recorded_start s) (fun p m _ h => h.move (run_tidy s p) m) ms (List.prefix_refl ms)

theorem Recorded.openCount_toNat (h : t.Recorded) (hlt : t.openings.length < UInt64.size) :
    t.circuit.openCount.toNat = (t.openings.filter Clock.dated).length := by
  have hle := List.length_filter_le Clock.dated t.openings
  rw [h.count]
  exact UInt64.toNat_ofNat_of_lt' (Nat.lt_of_le_of_lt hle hlt)

theorem grounded_start (s : Setup ε) : (start s).circuit.Grounded := by
  constructor <;> simp [start, circuit, Circuit.ofTimeout]

theorem grounded_move (h : t.circuit.Grounded) (m : Move ε α) : (t.move m).circuit.Grounded := by
  have he := t.move_effect m
  generalize t.move m = u at he
  cases he with
  | idle b clock _ hb => exact hb.grounded h
  | pass => exact h
  | hold b _ hr _ hb | probe b _ hr _ hb =>
    exact hb.grounded ⟨fun hs => State.noConfusion hs, fun _ => h.tripped hr.not_closed⟩
  | retime b timeout hb => exact hb.grounded ⟨h.closed, h.tripped⟩
  | opening b calls _ _ hb => exact hb.grounded (t.circuit.grounded_trip t.clock)
  | latch b hb => exact hb.grounded (t.circuit.grounded_hardTrip t.clock)
  | reset b hb => exact hb.grounded t.circuit.grounded_reset
  | success b call v _ hb => exact hb.grounded h.succeed
  | passing b call _ hb => exact hb.grounded ⟨fun hs => by simp [h.closed hs], h.tripped⟩

theorem run_grounded (s : Setup ε) (ms : List (Move ε α)) : ((start s).run ms).circuit.Grounded :=
  run_induction (P := fun t => t.circuit.Grounded) (grounded_start s) (fun _ m _ h => grounded_move h m) ms
    (List.prefix_refl ms)

def plain : Setup Unit :=
  { name := "default", timeout := .ofMillis 100, classifiers := [], installed := none, clock := ⟨⟨0⟩, ⟨0⟩⟩ }

end Traffic

end CircuitBreaker
