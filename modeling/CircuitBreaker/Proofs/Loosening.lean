import CircuitBreaker.Proofs.Tolerance
import Mathlib.Data.List.Basic

namespace CircuitBreaker.Tolerance

variable {ε : Type} {t strict loose : Tolerance ε} {now : Instant} {error : ε} {heard : List (Instant × ε)}

structure Loosens (loose strict : Tolerance ε) : Prop where
  ignore : strict.ignore ⊆ loose.ignore
  limit : strict.limit ≤ loose.limit
  window : loose.window.nanos ≤ strict.window.nanos
  positive : 0 < loose.window.nanos

def Calm (t : Tolerance ε) : Prop := ∀ rule ∈ t.ignore, ∀ error, ∃ found, rule error = .ok found

def verdictAt (t : Tolerance ε) (heard : List (Instant × ε)) (place : Nat) : Option Verdict :=
  ((Classifier.tolerant t).rulings heard)[place]?.bind Ruling.verdict?

theorem Calm.anyMatches (h : t.Calm) (error : ε) : ∃ found, anyMatches error t.ignore = .ok found := by
  unfold Calm at h
  generalize t.ignore = rules at h
  induction rules with
  | nil => exact ⟨false, rfl⟩
  | cons rule rules ih =>
    obtain ⟨hrule, hrules⟩ := List.forall_mem_cons.mp h
    obtain ⟨found, hfound⟩ := hrule error
    rw [Tolerance.anyMatches, hfound]
    cases found with
    | true => exact ⟨true, rfl⟩
    | false => exact ih hrules

theorem Calm.exists_verdict (h : t.Calm) (heard : List (Instant × ε)) (now : Instant) (error : ε) :
    ∃ verdict, (t.ruling heard now error).verdict? = some verdict := by
  obtain ⟨found, hany⟩ := h.anyMatches error
  rw [ruling, hany]
  cases found with
  | true => exact ⟨_, rfl⟩
  | false => exact ⟨_, rfl⟩

theorem Loosens.regards (h : loose.Loosens strict) (hr : loose.regards error = true) : strict.regards error = true :=
  regards_iff.mpr fun rule hrule => regards_iff.mp hr rule (h.ignore hrule)

theorem Loosens.lasting (h : loose.Loosens strict) {recorded : Instant} (hl : loose.lasting now recorded = true) :
    strict.lasting now recorded = true := by
  have hwindow := h.window
  simp only [Tolerance.lasting, decide_eq_true_eq] at hl ⊢
  omega

theorem Loosens.readings_sublist (h : loose.Loosens strict) (heard : List (Instant × ε)) :
    (loose.readings heard).Sublist (strict.readings heard) :=
  (List.monotone_filter_right heard fun _ => h.regards).map Prod.fst

theorem Loosens.within_sublist (h : loose.Loosens strict) (now : Instant) (heard : List (Instant × ε)) :
    (loose.within now heard).Sublist (strict.within now heard) :=
  ((h.readings_sublist heard).filter _).trans (List.monotone_filter_right _ fun _ => h.lasting)

theorem Loosens.ruling_passes (h : loose.Loosens strict) (hcalm : loose.Calm)
    (hpass : (strict.ruling heard now error).verdict? = some .passThrough) :
    (loose.ruling heard now error).verdict? = some .passThrough := by
  rw [judged_ruling.passed]
  by_cases hno : ∀ rule ∈ loose.ignore, rule error = .ok false
  · right
    rcases judged_ruling.passed.mp hpass with ⟨before, rule, after, hrules, -, hyes⟩ | ⟨-, hlimit, -, hcount⟩
    · have hrule : rule ∈ strict.ignore := by simp [hrules]
      cases (hno rule (h.ignore hrule)).symm.trans hyes
    · have hfewer := (h.within_sublist now heard).length_le
      have hmore := h.limit
      exact ⟨hno, by omega, h.positive, by omega⟩
  · left
    obtain ⟨found, hany⟩ := hcalm.anyMatches error
    cases found with
    | false => exact absurd (anyMatches_eq_false_iff.mp hany) hno
    | true => exact (anyMatches_eq_iff (by simp)).mp hany

theorem verdictAt_eq (hnew : t.recent = []) (hsorted : heard.Pairwise (·.1.nanos ≤ ·.1.nanos)) {place : Nat}
    (hplace : heard[place]? = some (now, error)) :
    t.verdictAt heard place = (t.ruling (heard.take (place + 1)) now error).verdict? := by
  obtain ⟨hlt, hx⟩ := List.getElem?_eq_some_iff.mp hplace
  have hheard : heard = heard.take place ++ (now, error) :: heard.drop (place + 1) := by
    rw [← hx, ← List.drop_eq_getElem_cons hlt, List.take_append_drop]
  have hupto : heard.take (place + 1) = heard.take place ++ [(now, error)] := by
    rw [List.take_add_one, hplace]
    rfl
  have hruling := rulings_at hnew (hupto ▸ hsorted.sublist (List.take_sublist _ heard)) (heard.drop (place + 1))
  rw [← hheard, ← hupto, List.length_take, Nat.min_eq_left (Nat.le_of_lt hlt)] at hruling
  rw [verdictAt, hruling]
  rfl

theorem verdictAt_eq_none {place : Nat} (h : heard[place]? = none) : t.verdictAt heard place = none := by
  have hlength := List.getElem?_eq_none_iff.mp h
  rw [verdictAt, List.getElem?_eq_none (by simpa [Classifier.length_rulings] using hlength)]
  rfl

theorem loosening_adds_no_trips (h : loose.Loosens strict) (hcalm : loose.Calm) (hstrict : strict.recent = [])
    (hloose : loose.recent = []) (hsorted : heard.Pairwise (·.1.nanos ≤ ·.1.nanos)) (place : Nat) :
    (strict.verdictAt heard place = some .passThrough → loose.verdictAt heard place = some .passThrough) ∧
      (loose.verdictAt heard place = some .trip → strict.verdictAt heard place = some .trip) := by
  cases hplace : heard[place]? with
  | none => simp [verdictAt_eq_none hplace]
  | some x =>
    obtain ⟨now, error⟩ := x
    rw [verdictAt_eq hstrict hsorted hplace, verdictAt_eq hloose hsorted hplace]
    refine ⟨h.ruling_passes hcalm, fun htrip => ?_⟩
    have hcalm' : strict.Calm := fun rule hrule => hcalm rule (h.ignore hrule)
    obtain ⟨verdict, hverdict⟩ := hcalm'.exists_verdict (heard.take (place + 1)) now error
    cases verdict with
    | trip => exact hverdict
    | passThrough => cases (h.ruling_passes hcalm hverdict).symm.trans htrip

theorem loosening_shorter_window :
    let strict : Tolerance Nat := { ignore := [fun e => .ok (e = 1)], limit := 1, window := ⟨10⟩ }
    let loose : Tolerance Nat :=
      { ignore := (fun e => .ok (e = 2)) :: strict.ignore, limit := 2, window := ⟨5⟩ }
    let heard : List (Instant × Nat) := [(⟨0⟩, 0), (⟨3⟩, 2), (⟨4⟩, 0), (⟨5⟩, 0), (⟨20⟩, 0)]
    (loose.Loosens strict ∧ loose.Calm ∧ strict.recent = [] ∧ loose.recent = [] ∧
      heard.Pairwise (·.1.nanos ≤ ·.1.nanos)) ∧
    (strict.verdictAt heard 4 = some .passThrough ∧ loose.verdictAt heard 4 = some .passThrough) ∧
    (loose.verdictAt heard 3 = some .trip ∧ strict.verdictAt heard 3 = some .trip) ∧
    strict.verdictAt heard 2 = some .trip ∧ loose.verdictAt heard 2 = some .passThrough := by
  intro strict loose heard
  have hloosens : loose.Loosens strict := ⟨List.subset_cons_self _ _, by decide, by decide, by decide⟩
  have hcalm : loose.Calm := by
    intro rule hrule error
    simp only [loose, strict, List.mem_cons, List.not_mem_nil, or_false] at hrule
    rcases hrule with rfl | rfl <;> exact ⟨_, rfl⟩
  have hsorted : heard.Pairwise (·.1.nanos ≤ ·.1.nanos) := by decide
  have hpass : strict.verdictAt heard 4 = some .passThrough := rfl
  have htrip : loose.verdictAt heard 3 = some .trip := rfl
  have hlaw := loosening_adds_no_trips hloosens hcalm rfl rfl hsorted
  exact ⟨⟨hloosens, hcalm, rfl, rfl, hsorted⟩, ⟨hpass, (hlaw 4).1 hpass⟩, ⟨htrip, (hlaw 3).2 htrip⟩, rfl, rfl⟩

example :
    let t : Tolerance Nat := { limit := 1, window := ⟨1⟩ }
    t.verdictAt [(⟨0⟩, 0)] 0 = some .passThrough ∧
      ({ t with window := .zero } : Tolerance Nat).verdictAt [(⟨0⟩, 0)] 0 = some .trip := by
  -- A window as short as can be is not looser than a longer one if it is zero.
  decide

end CircuitBreaker.Tolerance
