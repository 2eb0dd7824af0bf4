import CircuitBreaker.Proofs.Opening
import CircuitBreaker.Session

namespace CircuitBreaker

inductive Fate
  | success
  | tripping
  | passing
  | crash
  | dropped
deriving DecidableEq

def Assessment.fate {ε α : Type} : Assessment ε α → Fate
  | success _ => .success
  | tripping _ => .tripping
  | nonTripping _ => .passing
  | crash _ => .crash

inductive Deed
  | trip
  | hardTrip
  | ending (id : Nat) (fate : Fate)
deriving DecidableEq

namespace Deed

def opens : Deed → Bool
  | trip | hardTrip | ending _ .tripping | ending _ .crash | ending _ .dropped => true
  | ending _ .success | ending _ .passing => false

def call? : Deed → Option Nat
  | trip | hardTrip => none
  | ending id _ => some id

end Deed

structure Entry where
  clock : Clock
  deed : Deed
deriving DecidableEq

namespace Traffic

variable {ε α : Type} {t : Traffic ε} {m : Move ε α}

def deed? (t : Traffic ε) : Move ε α → Option Deed
  | .trip => some .trip
  | .hardTrip => some .hardTrip
  | .settle id result =>
    (t.ending id result).map fun call => .ending call.id (t.breaker.assess t.clock.mono result).1.fate
  | .abandon id => (t.find id).map fun call => .ending call.id .dropped
  | .enter | .reset | .setTimeout _ | .install _ | .shift .. => none

def ledger (t : Traffic ε) : List (Move ε α) → List Entry
  | [] => []
  | m :: ms => (t.deed? m).toList.map (Entry.mk t.clock) ++ (t.move m).ledger ms

def openingEntries (entries : List Entry) : List Entry := entries.filter (·.deed.opens)

structure Booked (t : Traffic ε) (entries : List Entry) : Prop where
  count : (openingEntries entries).length < UInt64.size →
    t.circuit.openCount.toNat = (openingEntries entries).length
  lastFailure : t.circuit.lastFailure = (openingEntries entries).getLast?.map (·.clock.mono)
  lastFailureTime : t.circuit.lastFailureTime = (openingEntries entries).getLast?.map (·.clock.wall)

def Settled (t : Traffic ε) (entries : List Entry) : Prop :=
  (t.calls.map Call.id ++ entries.filterMap (·.deed.call?)).Perm (List.range t.admitted)

theorem ledger_append (t : Traffic ε) (ms ns : List (Move ε α)) :
    t.ledger (ms ++ ns) = t.ledger ms ++ (t.run ms).ledger ns := by
  induction ms generalizing t with
  | nil => rfl
  | cons m ms ih =>
    change _ ++ (t.move m).ledger (ms ++ ns) = _
    rw [ih (t.move m), ← List.append_assoc]
    rfl

theorem ledger_concat (t : Traffic ε) (ms : List (Move ε α)) (m : Move ε α) :
    t.ledger (ms ++ [m]) = t.ledger ms ++ ((t.run ms).deed? m).toList.map (Entry.mk (t.run ms).clock) := by
  rw [ledger_append]
  change _ ++ (_ ++ []) = _
  rw [List.append_nil]

theorem mem_ledger {ms : List (Move ε α)} {entry : Entry} (h : entry ∈ t.ledger ms) :
    ∃ p m, p ++ [m] <+: ms ∧ (t.run p).deed? m = some entry.deed ∧ entry.clock = (t.run p).clock := by
  induction ms generalizing t with
  | nil => cases h
  | cons m ms ih =>
    rcases List.mem_append.mp h with h | h
    · obtain ⟨deed, hdeed, rfl⟩ := List.mem_map.mp h
      exact ⟨[], m, List.prefix_append [m] ms, Option.mem_toList.mp hdeed, rfl⟩
    · obtain ⟨p, m', hp, hdeed, hclock⟩ := ih h
      exact ⟨m :: p, m', List.cons_prefix_cons.mpr ⟨rfl, hp⟩, hdeed, hclock⟩

theorem ending_opens (a : Assessment ε α) (id : Nat) : (Deed.ending id a.fate).opens = a.opens := by
  cases a <;> rfl

theorem opens_iff (h : t.Tidy) : t.Opens m ↔ ∃ deed, t.deed? m = some deed ∧ deed.opens = true := by
  constructor
  · rintro (rfl | rfl | ⟨call, hc, rfl | ⟨result, rfl, ho, ha⟩⟩)
    · exact ⟨.trip, rfl, rfl⟩
    · exact ⟨.hardTrip, rfl, rfl⟩
    · exact ⟨.ending call.id .dropped, by rw [deed?, h.find hc]; rfl, rfl⟩
    · exact ⟨.ending call.id _, by rw [deed?, h.ending hc ha]; rfl, (ending_opens _ _).trans ho⟩
  · rintro ⟨deed, hdeed, ho⟩
    cases m with
    | trip => exact .inl rfl
    | hardTrip => exact .inr (.inl rfl)
    | settle id result =>
      obtain ⟨call, hf, rfl⟩ := Option.map_eq_some_iff.mp hdeed
      obtain ⟨ha, hfind⟩ := ending_eq_some_iff.mp hf
      obtain ⟨hc, rfl⟩ := find_eq hfind
      exact opens_settle hc ((ending_opens _ _).symm.trans ho) ha
    | abandon id =>
      obtain ⟨call, hf, rfl⟩ := Option.map_eq_some_iff.mp hdeed
      obtain ⟨hc, rfl⟩ := find_eq hf
      exact opens_abandon hc
    | enter | reset | setTimeout | install | shift => cases hdeed

theorem openings_move (h : t.Tidy) (m : Move ε α) : (t.move m).openings =
    ((openingEntries ((t.deed? m).toList.map (Entry.mk t.clock))).map Entry.clock) ++ t.openings := by
  by_cases hm : t.Opens m
  · obtain ⟨deed, hdeed, ho⟩ := (opens_iff h).mp hm
    rw [opened_openings h hm, hdeed]
    simp [openingEntries, ho]
  · rw [quiet_openings hm]
    have hnone : openingEntries ((t.deed? m).toList.map (Entry.mk t.clock)) = [] := by
      refine List.filter_eq_nil_iff.mpr fun entry hentry ho => hm ((opens_iff h).mpr ?_)
      obtain ⟨deed, hdeed, rfl⟩ := List.mem_map.mp hentry
      exact ⟨deed, Option.mem_toList.mp hdeed, ho⟩
    rw [hnone]
    rfl

theorem openingEntries_append (entries more : List Entry) :
    openingEntries (entries ++ more) = openingEntries entries ++ openingEntries more := List.filter_append ..

theorem openings_booked (s : Setup ε) (ms : List (Move ε α)) :
    ((start s).run ms).openings = ((openingEntries ((start s).ledger ms)).map Entry.clock).reverse := by
  induction ms using List.reverseRecOn with
  | nil => rfl
  | append_singleton ms m ih =>
    rw [run_concat, ledger_concat, openings_move (run_tidy s ms), ih, openingEntries_append, List.map_append,
      List.reverse_append]
    congr 1
    cases ((start s).run ms).deed? m with
    | none => rfl
    | some deed => cases ho : deed.opens <;> simp [openingEntries, ho]

theorem booked_of_dated (s : Setup ε) (ms : List (Move ε α))
    (h : ∀ entry ∈ (start s).ledger ms, entry.deed.opens = true → entry.clock.dated = true) :
    ((start s).run ms).Booked ((start s).ledger ms) := by
  have hopen := openings_booked s ms
  have hlen : ((start s).run ms).openings.length = (openingEntries ((start s).ledger ms)).length := by
    rw [hopen, List.length_reverse, List.length_map]
  have hlast : ((start s).run ms).openings.head? =
      (openingEntries ((start s).ledger ms)).getLast?.map Entry.clock := by
    rw [hopen, List.head?_reverse, List.getLast?_map]
  have hdated : ((start s).run ms).openings.filter Clock.dated = ((start s).run ms).openings := by
    rw [List.filter_eq_self, hopen]
    intro clock hclock
    obtain ⟨entry, hentry, rfl⟩ := List.mem_map.mp (List.mem_reverse.mp hclock)
    obtain ⟨hmem, ho⟩ := List.mem_filter.mp hentry
    exact h entry hmem ho
  have hrecorded := run_recorded s ms
  constructor
  · intro hlt
    rw [hrecorded.openCount_toNat (by rw [hlen]; exact hlt), hdated, hlen]
  · rw [(run_sound s ms).cooldown, hlast, Option.map_map]
    rfl
  · rw [hrecorded.time, hdated, hlast, Option.map_map]
    rfl

theorem not_booked_of_undated (s : Setup ε) {ms : List (Move ε α)} {m : Move ε α} {deed : Deed}
    (hm : ((start s).run ms).deed? m = some deed) (ho : deed.opens = true)
    (hd : ((start s).run ms).clock.dated = false) :
    ¬ ((start s).run (ms ++ [m])).Booked ((start s).ledger (ms ++ [m])) := by
  -- The wall reading of an opening that was not completed is nowhere kept.
  intro h
  have hentries : openingEntries ((start s).ledger (ms ++ [m])) =
      openingEntries ((start s).ledger ms) ++ [⟨((start s).run ms).clock, deed⟩] := by
    rw [ledger_concat, openingEntries_append, hm]
    simp [openingEntries, ho]
  have htime := h.lastFailureTime
  rw [hentries, List.getLast?_concat, (run_recorded s _).time] at htime
  obtain ⟨clock, hclock, hwall⟩ := Option.map_eq_some_iff.mp htime
  have hdated : clock.dated = true := (List.mem_filter.mp (List.mem_of_mem_head? hclock)).2
  have hsame : clock.dated = ((start s).run ms).clock.dated := by
    rw [Clock.dated, Clock.dated, hwall]
  rw [hsame, hd] at hdated
  cases hdated

theorem forget_perm (h : t.Tidy) {call : Call} (hc : call ∈ t.calls) :
    (t.calls.map Call.id).Perm (call.id :: (t.forget call.id).calls.map Call.id) := by
  have hids : (t.forget call.id).calls.map Call.id = (t.calls.map Call.id).erase call.id := by
    rw [h.distinct.erase_eq_filter, List.filter_map]
    refine congrArg (List.map Call.id) (List.filter_congr fun other _ => ?_)
    simp [bne, beq_eq_decide]
  rw [hids]
  exact List.perm_cons_erase (List.mem_map_of_mem hc)

theorem Settled.kept {u : Traffic ε} {entries more : List Entry} (h : t.Settled entries) (hc : u.calls = t.calls)
    (ha : u.admitted = t.admitted) (hmore : more.filterMap (·.deed.call?) = []) : u.Settled (entries ++ more) := by
  unfold Settled
  rw [hc, ha, List.filterMap_append, hmore, List.append_nil]
  exact h

theorem Settled.ended {u : Traffic ε} {entries : List Entry} (h : t.Settled entries) (ht : t.Tidy) {call : Call}
    (hcall : call ∈ t.calls) (fate : Fate) (clock : Clock) (hc : u.calls = (t.forget call.id).calls)
    (ha : u.admitted = t.admitted) : u.Settled (entries ++ [⟨clock, .ending call.id fate⟩]) := by
  unfold Settled
  rw [hc, ha, List.filterMap_append, ← List.append_assoc]
  change (_ ++ [call.id]).Perm _
  refine List.perm_append_comm.trans (List.Perm.trans ?_ h)
  exact List.Perm.append_right _ (forget_perm ht hcall).symm

theorem Settled.hand {entries : List Entry} (h : t.Settled entries) (permit : Permit) :
    (t.hand permit).Settled entries := by
  unfold Settled
  change (t.admitted :: (t.calls.map Call.id ++ _)).Perm (List.range (t.admitted + 1))
  rw [List.range_succ]
  exact (h.cons t.admitted).trans (List.perm_append_singleton _ _).symm

theorem Settled.enter {entries : List Entry} (h : t.Settled entries) : t.enter.Settled entries := by
  unfold Traffic.enter
  split
  · exact h
  next permit b _ => exact Settled.hand (t := t.put b) h permit

theorem Settled.move {entries : List Entry} (h : t.Settled entries) (ht : t.Tidy) (m : Move ε α) :
    (t.move m).Settled (entries ++ (t.deed? m).toList.map (Entry.mk t.clock)) := by
  cases m with
  | enter => exact (h.enter).kept rfl rfl rfl
  | settle id result =>
    cases hf : t.ending id result with
    | none =>
      rw [Traffic.move, Traffic.settle, deed?, hf]
      exact h.kept rfl rfl rfl
    | some call =>
      obtain ⟨hc, rfl⟩ := find_eq (ending_eq_some_iff.mp hf).2
      rw [Traffic.move, settle_eq hf, deed?, hf]
      exact h.ended ht hc _ _ rfl rfl
  | abandon id =>
    cases hf : t.find id with
    | none =>
      rw [Traffic.move, Traffic.abandon, deed?, hf]
      exact h.kept rfl rfl rfl
    | some call =>
      obtain ⟨hc, rfl⟩ := find_eq hf
      rw [Traffic.move, abandon_eq hf, deed?, hf]
      exact h.ended ht hc _ _ rfl rfl
  | trip =>
    rw [trip_eq]
    exact h.kept rfl rfl rfl
  | hardTrip =>
    rw [hardTrip_eq]
    exact h.kept rfl rfl rfl
  | reset | setTimeout | install | shift => exact h.kept rfl rfl rfl

theorem run_settled (s : Setup ε) (ms : List (Move ε α)) :
    ((start s).run ms).Settled ((start s).ledger ms) := by
  induction ms using List.reverseRecOn with
  | nil => exact List.Perm.refl _
  | append_singleton ms m ih =>
    rw [run_concat, ledger_concat]
    exact ih.move (run_tidy s ms) m

end Traffic

namespace Session

variable {ε : Type}

structure IgnoresUnpolled (s : Session ε) : Prop where
  create : ∀ {α : Type} (id : Int), (∀ permit, s.calls.lookup id ≠ some (.running permit)) →
    (s.create id : Answer ε α × Session ε).2.breaker = s.breaker
  drop : ∀ {α : Type} (id : Int), (∀ permit, s.calls.lookup id ≠ some (.running permit)) →
    (s.drop id : Answer ε α × Session ε).2.breaker = s.breaker
  close : s.close.breaker = { s with calls := s.calls.filter (·.2 ≠ Phase.fresh) }.close.breaker

theorem abandonAll_unpolled (calls : List (Int × Phase)) {s s' : Session ε} (hb : s.breaker = s'.breaker)
    (hc : s.clock = s'.clock) :
    (calls.foldl (fun s call => s.abandon call.2) s).breaker =
      ((calls.filter (·.2 ≠ Phase.fresh)).foldl (fun s call => s.abandon call.2) s').breaker := by
  induction calls generalizing s s' with
  | nil => exact hb
  | cons call calls ih =>
    cases hphase : call.2 with
    | fresh =>
      rw [List.filter_cons_of_neg (by simp [hphase]), List.foldl_cons, hphase]
      exact ih hb hc
    | running permit =>
      rw [List.filter_cons_of_pos (by simp [hphase]), List.foldl_cons, List.foldl_cons, hphase]
      refine ih ?_ hc
      change s.breaker.abandon s.clock permit = s'.breaker.abandon s'.clock permit
      rw [hb, hc]

theorem ignores_unpolled (s : Session ε) : s.IgnoresUnpolled where
  create id h := by
    unfold Session.create
    cases hl : s.calls.lookup id with
    | none => rfl
    | some phase =>
      cases phase with
      | fresh => rfl
      | running permit => exact absurd hl (h permit)
  drop id h := by
    unfold Session.drop
    cases hl : s.calls.lookup id with
    | none => rfl
    | some phase =>
      cases phase with
      | fresh => rfl
      | running permit => exact absurd hl (h permit)
  close := abandonAll_unpolled s.calls rfl rfl

end Session

namespace Traffic

variable {ε α : Type}

theorem telemetry_iff (s : Setup ε) (ms : List (Move ε α)) :
    ((∀ p, p <+: ms → ((start s).run p).Booked ((start s).ledger p)) ↔
        ∀ entry ∈ (start s).ledger ms, entry.deed.opens = true → entry.clock.dated = true) ∧
      (∀ p, p <+: ms → ((start s).run p).Settled ((start s).ledger p)) ∧
      ∀ u : Session ε, u.IgnoresUnpolled := by
  refine ⟨⟨fun h entry hentry ho => ?_, fun h p hp => ?_⟩, fun p _ => run_settled s p, Session.ignores_unpolled⟩
  · obtain ⟨p, m, hp, hm, hclock⟩ := mem_ledger hentry
    by_contra hd
    rw [hclock] at hd
    exact not_booked_of_undated s hm ho (by simpa using hd) (h (p ++ [m]) hp)
  · obtain ⟨rest, rfl⟩ := hp
    refine booked_of_dated s p fun entry hentry => h entry ?_
    rw [ledger_append]
    exact List.mem_append_left _ hentry

theorem uncounted_trip :
    let ms : List (Move Unit Unit) := [.shift 0 (-1), .trip]
    let t := (start plain).run ms
    (start plain).ledger ms = [⟨⟨⟨0⟩, ⟨-1⟩⟩, .trip⟩] ∧ ¬ t.Booked ((start plain).ledger ms) ∧
      t.circuit.openCount = 0 ∧ t.circuit.lastFailure = some ⟨0⟩ ∧ t.circuit.lastFailureTime = none := by
  refine ⟨by decide, fun h => ?_, by decide, by decide, by decide⟩
  exact absurd h.lastFailureTime (by decide)

end Traffic

end CircuitBreaker
