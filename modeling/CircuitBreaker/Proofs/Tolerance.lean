import CircuitBreaker.Proofs.Hearing
import Mathlib.Data.List.Induction

namespace CircuitBreaker

variable {ε : Type}

namespace Ruling

def verdict? : Ruling → Option Verdict
  | verdict v => some v
  | ignored => some .passThrough
  | crash _ => none

end Ruling

namespace Classifier

variable {c : Classifier ε}

def rulings (c : Classifier ε) : List (Instant × ε) → List Ruling
  | [] => []
  | x :: heard => (c.judge x.1 x.2).1 :: (c.hear x).rulings heard

theorem length_rulings (heard : List (Instant × ε)) : (c.rulings heard).length = heard.length := by
  induction heard generalizing c with
  | nil => rfl
  | cons x heard ih => simp [rulings, ih]

theorem hearAll_append (before after : List (Instant × ε)) :
    c.hearAll (before ++ after) = (c.hearAll before).hearAll after := List.foldl_append

theorem rulings_append (before after : List (Instant × ε)) :
    c.rulings (before ++ after) = c.rulings before ++ (c.hearAll before).rulings after := by
  induction before generalizing c with
  | nil => rfl
  | cons x before ih =>
    rw [List.cons_append, rulings, rulings, ih]
    rfl

theorem rulings_getElem? (before after : List (Instant × ε)) (now : Instant) (error : ε) :
    (c.rulings (before ++ (now, error) :: after))[before.length]? =
      some ((c.hearAll before).judge now error).1 := by
  rw [rulings_append, List.getElem?_append_right (by simp [length_rulings]), length_rulings, Nat.sub_self]
  rfl

theorem rulings_of_deaf {before after : List (Instant × ε)} {x : Instant × ε}
    (h : (c.hearAll before).hear x = c.hearAll before) :
    c.rulings (before ++ after) = (c.rulings (before ++ x :: after)).eraseIdx before.length := by
  rw [rulings_append, rulings_append, List.eraseIdx_append_of_length_le (by simp [length_rulings]), length_rulings,
    Nat.sub_self, rulings, List.eraseIdx_cons_zero, h]

end Classifier

namespace Tolerance

def FirstAnswer (rules : List (ε → Except String Bool)) (error : ε) (found : Except String Bool) : Prop :=
  ∃ before rule after, rules = before ++ rule :: after ∧ (∀ r ∈ before, r error = .ok false) ∧ rule error = found

theorem anyMatches_eq_false_iff {rules : List (ε → Except String Bool)} {error : ε} :
    anyMatches error rules = .ok false ↔ ∀ rule ∈ rules, rule error = .ok false := by
  induction rules with
  | nil => simp [anyMatches]
  | cons rule rules ih =>
    rw [anyMatches, List.forall_mem_cons, ← ih]
    split
    · next hrule => simp [hrule]
    · next hrule => exact iff_of_false hrule fun h => hrule h.1

theorem anyMatches_eq_iff {rules : List (ε → Except String Bool)} {error : ε} {found : Except String Bool}
    (hfound : found ≠ .ok false) : anyMatches error rules = found ↔ FirstAnswer rules error found := by
  constructor
  · intro h
    induction rules with
    | nil => exact absurd h.symm hfound
    | cons rule rules ih =>
      rw [anyMatches] at h
      split at h
      · next hrule =>
        obtain ⟨before, found, after, rfl, hbefore, hanswer⟩ := ih h
        exact ⟨rule :: before, found, after, rfl, List.forall_mem_cons.mpr ⟨hrule, hbefore⟩, hanswer⟩
      · exact ⟨[], rule, rules, rfl, by simp, h⟩
  · rintro ⟨before, rule, after, rfl, hbefore, rfl⟩
    induction before with
    | nil =>
      rw [List.nil_append, anyMatches]
      split
      · next hrule => exact absurd hrule hfound
      · rfl
    | cons r before ih =>
      obtain ⟨hr, hbefore⟩ := List.forall_mem_cons.mp hbefore
      rw [List.cons_append, anyMatches, hr]
      exact ih hbefore

variable {t : Tolerance ε} {now : Instant} {error : ε} {heard : List (Instant × ε)}

theorem regards_iff : t.regards error = true ↔ ∀ rule ∈ t.ignore, rule error = .ok false := by
  rw [← anyMatches_eq_false_iff, regards]
  split <;> simp_all

def lasting (t : Tolerance ε) (now recorded : Instant) : Bool := now.nanos - recorded.nanos ≤ t.window.nanos

def readings (t : Tolerance ε) (heard : List (Instant × ε)) : List Instant :=
  (heard.filter fun x => t.regards x.2).map Prod.fst

def within (t : Tolerance ε) (now : Instant) (heard : List (Instant × ε)) : List Instant :=
  (t.readings heard).filter (t.lasting now)

theorem expired_eq (recorded : Instant) : t.expired now recorded = !t.lasting now recorded := by
  rw [expired, lasting, Instant.since, ← decide_not, decide_eq_decide]
  omega

theorem dropWhile_expired {queue : List Instant} (hsorted : queue.Pairwise (·.nanos ≤ ·.nanos)) :
    queue.dropWhile (t.expired now) = queue.filter (t.lasting now) := by
  induction queue with
  | nil => rfl
  | cons r queue ih =>
    obtain ⟨hr, hqueue⟩ := List.pairwise_cons.mp hsorted
    by_cases h : t.lasting now r = true
    · have hall : ∀ r' ∈ r :: queue, t.lasting now r' = true := by
        intro r' hr'
        simp only [lasting, decide_eq_true_eq] at h ⊢
        rcases List.mem_cons.mp hr' with rfl | hr'
        · exact h
        · have := hr r' hr'
          omega
      rw [List.filter_eq_self.mpr hall, List.dropWhile_cons_of_neg (by simp [expired_eq, h])]
    · rw [List.filter_cons_of_neg h, List.dropWhile_cons_of_pos (by simpa [expired_eq] using h), ih hqueue]

/-- A queue that lacks only what has expired for good. -/
structure Kept (t : Tolerance ε) (seen queue : List Instant) : Prop where
  sublist : queue.Sublist seen
  lasting : ∀ now : Instant, (∀ r ∈ seen, r.nanos ≤ now.nanos) → queue.filter (t.lasting now) = seen.filter (t.lasting now)

theorem Kept.record {seen queue : List Instant} (h : t.Kept seen queue)
    (hsorted : (seen ++ [now]).Pairwise (·.nanos ≤ ·.nanos)) :
    (queue ++ [now]).dropWhile (t.expired now) = (seen ++ [now]).filter (t.lasting now) := by
  have hnow : ∀ r ∈ seen, r.nanos ≤ now.nanos := by
    intro r hr
    exact (List.pairwise_append.mp hsorted).2.2 r hr now (by simp)
  rw [dropWhile_expired (hsorted.sublist (h.sublist.append_right [now])), List.filter_append, List.filter_append,
    h.lasting now hnow]

theorem kept_filter (seen : List Instant) : t.Kept (seen ++ [now]) ((seen ++ [now]).filter (t.lasting now)) where
  sublist := List.filter_sublist
  lasting := by
    intro later hlater
    have hnow := hlater now (by simp)
    -- Time goes on, so what has expired now has expired later too.
    rw [List.filter_filter]
    apply List.filter_congr
    intro r _
    simp only [Tolerance.lasting, Bool.and_eq_left_iff_imp, decide_eq_true_eq]
    omega

theorem recordAll_eq : t.recordAll heard = (t.readings heard).foldl record t := by
  rw [recordAll, readings, List.foldl_map]

theorem foldl_record (hnew : t.recent = []) {seen : List Instant} (hsorted : seen.Pairwise (·.nanos ≤ ·.nanos)) :
    ∃ queue, seen.foldl record t = { t with recent := queue } ∧ t.Kept seen queue := by
  -- The latest reading decides what the queue is, the earlier ones only what it lacks.
  induction seen using List.reverseRecOn with
  | nil => exact ⟨[], by rw [List.foldl_nil, ← hnew], .slnil, fun _ _ => rfl⟩
  | append_singleton seen now ih =>
    obtain ⟨queue, hqueue, hkept⟩ := ih (List.pairwise_append.mp hsorted).1
    refine ⟨_, ?_, kept_filter seen⟩
    rw [List.foldl_append, hqueue, ← hkept.record hsorted]
    rfl

theorem readings_append (before after : List (Instant × ε)) :
    t.readings (before ++ after) = t.readings before ++ t.readings after := by
  simp [readings]

theorem readings_sorted (hsorted : heard.Pairwise (·.1.nanos ≤ ·.1.nanos)) :
    (t.readings heard).Pairwise (·.nanos ≤ ·.nanos) :=
  (hsorted.sublist List.filter_sublist).map _ fun _ _ h => h

theorem hear_of_disabled (h : t.disabled = true) (x : Instant × ε) : (Classifier.tolerant t).hear x = .tolerant t := by
  change Classifier.tolerant (t.judge x.1 x.2).2 = _
  unfold judge count
  rw [if_pos h]
  split <;> rfl

theorem hearAll_of_disabled (h : t.disabled = true) : (Classifier.tolerant t).hearAll heard = .tolerant t := by
  induction heard with
  | nil => rfl
  | cons x heard ih =>
    change ((Classifier.tolerant t).hear x).hearAll heard = _
    rw [hear_of_disabled h, ih]

theorem disabled_eq_false_iff : t.disabled = false ↔ 0 < t.limit ∧ 0 < t.window.nanos := by
  simp [disabled]
  omega

theorem hearAll_tolerant (hnew : t.recent = []) (hsorted : heard.Pairwise (·.1.nanos ≤ ·.1.nanos)) :
    ∃ queue, (Classifier.tolerant t).hearAll heard = .tolerant { t with recent := queue } ∧
      (t.disabled = false → t.Kept (t.readings heard) queue) := by
  cases hd : t.disabled with
  | true => exact ⟨t.recent, hearAll_of_disabled hd, fun h => Bool.noConfusion h⟩
  | false =>
    obtain ⟨hlimit, hwindow⟩ := disabled_eq_false_iff.mp hd
    obtain ⟨queue, hqueue, hkept⟩ := foldl_record hnew (readings_sorted (t := t) hsorted)
    refine ⟨queue, ?_, fun _ => hkept⟩
    rw [t.hearAll_eq hlimit hwindow, recordAll_eq, hqueue]

theorem readings_of_regards (h : t.regards error = true) (before : List (Instant × ε)) :
    t.readings (before ++ [(now, error)]) = t.readings before ++ [now] := by
  rw [readings_append]
  simp [readings, h]

theorem record_within {before : List (Instant × ε)} {queue : List Instant} (h : t.Kept (t.readings before) queue)
    (hsorted : (before ++ [(now, error)]).Pairwise (·.1.nanos ≤ ·.1.nanos)) (hr : t.regards error = true) :
    record { t with recent := queue } now = { t with recent := t.within now (before ++ [(now, error)]) } := by
  have hreadings := readings_sorted (t := t) hsorted
  rw [readings_of_regards hr] at hreadings
  rw [within, readings_of_regards hr, ← h.record hreadings]
  rfl

def ruling (t : Tolerance ε) (heard : List (Instant × ε)) (now : Instant) (error : ε) : Ruling :=
  match anyMatches error t.ignore with
  | .error text => .crash text
  | .ok true => .ignored
  | .ok false =>
    .verdict (if t.limit = 0 ∨ t.window.nanos = 0 ∨ t.limit < (t.within now heard).length then .trip else .passThrough)

theorem count_fst {queue : List Instant}
    (h : t.disabled = false → record { t with recent := queue } now = { t with recent := t.within now heard }) :
    (count { t with recent := queue } now).1 = .verdict
      (if t.limit = 0 ∨ t.window.nanos = 0 ∨ t.limit < (t.within now heard).length then .trip else .passThrough) := by
  cases hd : t.disabled with
  | true =>
    have hzero : t.limit = 0 ∨ t.window.nanos = 0 := by simpa [disabled] using hd
    rw [if_pos (hzero.elim .inl fun h => .inr (.inl h))]
    exact congrArg Prod.fst (if_pos hd)
  | false =>
    obtain ⟨hlimit, hwindow⟩ := disabled_eq_false_iff.mp hd
    have hcount : count { t with recent := queue } now = _ := if_neg (Bool.eq_false_iff.mp hd)
    rw [hcount, h hd]
    simp [Nat.ne_of_gt hlimit, Nat.ne_of_gt hwindow]

theorem judge_fst {queue : List Instant} (h : t.regards error = true → t.disabled = false →
      record { t with recent := queue } now = { t with recent := t.within now heard }) :
    (judge { t with recent := queue } now error).1 = t.ruling heard now error := by
  unfold judge ruling
  cases hany : anyMatches error t.ignore with
  | error text => rfl
  | ok found =>
    cases found with
    | true => rfl
    | false =>
      have hr : t.regards error = true := regards_iff.mpr (anyMatches_eq_false_iff.mp hany)
      exact count_fst (h hr)

structure Judged (t : Tolerance ε) (heard : List (Instant × ε)) (now : Instant) (error : ε) (ruling : Ruling) : Prop where
  passed : ruling.verdict? = some .passThrough ↔ FirstAnswer t.ignore error (.ok true) ∨
    (∀ rule ∈ t.ignore, rule error = .ok false) ∧ 0 < t.limit ∧ 0 < t.window.nanos ∧
      (t.within now heard).length ≤ t.limit
  tripped : ruling.verdict? = some .trip ↔ (∀ rule ∈ t.ignore, rule error = .ok false) ∧
    (t.limit = 0 ∨ t.window.nanos = 0 ∨ t.limit < (t.within now heard).length)
  crashed : ∀ text, ruling = .crash text ↔ FirstAnswer t.ignore error (.error text)

theorem judged_ruling : t.Judged heard now error (t.ruling heard now error) := by
  have hyes : anyMatches error t.ignore = .ok true ↔ FirstAnswer t.ignore error (.ok true) :=
    anyMatches_eq_iff (by simp)
  have hcrash (text : String) :
      anyMatches error t.ignore = .error text ↔ FirstAnswer t.ignore error (.error text) := anyMatches_eq_iff (by simp)
  constructor
  all_goals
    simp only [← hyes, ← hcrash, ← anyMatches_eq_false_iff, ruling]
    rcases anyMatches error t.ignore with text | _ | _ <;> simp [Ruling.verdict?]
  · omega
  · omega

theorem hear_of_not_regards (h : t.regards error = false) :
    (Classifier.tolerant t).hear (now, error) = .tolerant t := by
  change Classifier.tolerant (t.judge now error).2 = _
  unfold judge
  unfold regards at h
  split
  · rfl
  · rfl
  · next hno => simp [hno] at h

theorem hear_of_regards (hd : t.disabled = false) (h : t.regards error = true) :
    (Classifier.tolerant t).hear (now, error) = .tolerant (t.record now) := by
  obtain ⟨hlimit, hwindow⟩ := disabled_eq_false_iff.mp hd
  rw [t.hear_eq hlimit hwindow, if_pos h]

theorem rulings_at (hnew : t.recent = []) {before : List (Instant × ε)}
    (hsorted : (before ++ [(now, error)]).Pairwise (·.1.nanos ≤ ·.1.nanos)) (after : List (Instant × ε)) :
    ((Classifier.tolerant t).rulings (before ++ (now, error) :: after))[before.length]? =
      some (t.ruling (before ++ [(now, error)]) now error) := by
  obtain ⟨queue, hqueue, hkept⟩ := hearAll_tolerant hnew (List.pairwise_append.mp hsorted).1
  rw [Classifier.rulings_getElem?, hqueue]
  exact congrArg some (judge_fst fun hr hd => record_within (hkept hd) hsorted hr)

theorem tolerance_window (t : Tolerance ε) (hnew : t.recent = []) (heard : List (Instant × ε))
    (hsorted : heard.Pairwise (·.1.nanos ≤ ·.1.nanos)) :
    (∀ before now error after, heard = before ++ (now, error) :: after →
      (∃ ruling, ((Classifier.tolerant t).rulings heard)[before.length]? = some ruling ∧
        t.Judged (before ++ [(now, error)]) now error ruling) ∧
      ((∀ rule ∈ t.ignore, rule error = .ok false) → 0 < t.limit → 0 < t.window.nanos →
        (Classifier.tolerant t).hearAll (before ++ [(now, error)]) =
          .tolerant { t with recent := t.within now (before ++ [(now, error)]) })) ∧
    ∀ before now error after, heard = before ++ (now, error) :: after →
      (∃ rule ∈ t.ignore, rule error ≠ .ok false) →
        (Classifier.tolerant t).rulings (before ++ after) =
          ((Classifier.tolerant t).rulings heard).eraseIdx before.length := by
  constructor
  · rintro before now error after rfl
    have hlast : (before ++ [(now, error)]).Pairwise (·.1.nanos ≤ ·.1.nanos) := by
      rw [List.append_cons] at hsorted
      exact (List.pairwise_append.mp hsorted).1
    obtain ⟨queue, hqueue, hkept⟩ := hearAll_tolerant hnew (List.pairwise_append.mp hlast).1
    constructor
    · exact ⟨_, rulings_at hnew hlast after, judged_ruling⟩
    · intro hno hlimit hwindow
      have hd : t.disabled = false := disabled_eq_false_iff.mpr ⟨hlimit, hwindow⟩
      have hr : t.regards error = true := regards_iff.mpr hno
      rw [Classifier.hearAll_append, hqueue, ← record_within (hkept hd) hlast hr]
      exact hear_of_regards (t := { t with recent := queue }) hd hr
  · rintro before now error after rfl ⟨rule, hrule, hanswer⟩
    obtain ⟨queue, hqueue, -⟩ := hearAll_tolerant hnew (List.pairwise_append.mp hsorted).1
    apply Classifier.rulings_of_deaf
    rw [hqueue]
    apply hear_of_not_regards
    rw [Bool.eq_false_iff]
    intro hr
    exact hanswer (regards_iff.mp hr rule hrule)

theorem tolerance_window_end :
    let t : Tolerance Nat :=
      { ignore := [fun e => if e = 2 then .error "panic" else .ok (e = 1)], limit := 2, window := ⟨10⟩ }
    let heard : List (Instant × Nat) := [(⟨0⟩, 0), (⟨5⟩, 1), (⟨5⟩, 2), (⟨5⟩, 0), (⟨10⟩, 0)]
    (t.recent = [] ∧ heard.Pairwise (·.1.nanos ≤ ·.1.nanos)) ∧
    (((Classifier.tolerant t).rulings heard)[4]? = some (.verdict .trip) ∧ t.Judged heard ⟨10⟩ 0 (.verdict .trip)) ∧
    ((∀ rule ∈ t.ignore, rule 0 = .ok false) ∧
      (Classifier.tolerant t).hearAll heard = .tolerant { t with recent := [⟨0⟩, ⟨5⟩, ⟨10⟩] }) ∧
    (∃ rule ∈ t.ignore, rule 2 ≠ .ok false) ∧
      (Classifier.tolerant t).rulings [(⟨0⟩, 0), (⟨5⟩, 1), (⟨5⟩, 0), (⟨10⟩, 0)] =
        ((Classifier.tolerant t).rulings heard).eraseIdx 2 := by
  intro t heard
  have hsorted : heard.Pairwise (·.1.nanos ≤ ·.1.nanos) := by decide
  have hno : ∀ rule ∈ t.ignore, rule 0 = .ok false := by simp [t]
  have hcrash : ∃ rule ∈ t.ignore, rule 2 ≠ .ok false := by simp [t]
  have htrip : ((Classifier.tolerant t).rulings heard)[4]? = some (.verdict .trip) := rfl
  obtain ⟨hjudged, hdeaf⟩ := tolerance_window t rfl heard hsorted
  obtain ⟨⟨ruling, hruling, hright⟩, hqueue⟩ := hjudged [(⟨0⟩, 0), (⟨5⟩, 1), (⟨5⟩, 2), (⟨5⟩, 0)] ⟨10⟩ 0 [] rfl
  obtain rfl : ruling = .verdict .trip := Option.some.inj (hruling.symm.trans htrip)
  exact ⟨⟨rfl, hsorted⟩, ⟨htrip, hright⟩, ⟨hno, hqueue hno (by decide) (by decide)⟩, hcrash,
    hdeaf [(⟨0⟩, 0), (⟨5⟩, 1)] ⟨5⟩ 2 [(⟨5⟩, 0), (⟨10⟩, 0)] rfl hcrash⟩

end Tolerance

end CircuitBreaker
