import CircuitBreaker.Text.Blank
import CircuitBreaker.Text.WholeNumber
import Mathlib.Data.List.Basic
import Mathlib.Data.List.Induction
import Mathlib.Data.List.TakeWhile
import Mathlib.Data.Nat.Digits.Defs

namespace CircuitBreaker

namespace Text

def whiteSpace : List Char :=
  ['\t', '\n', '\x0b', '\x0c', '\r', ' ', '\u0085', '\u00a0', '\u1680', '\u2000', '\u2001', '\u2002', '\u2003',
    '\u2004', '\u2005', '\u2006', '\u2007', '\u2008', '\u2009', '\u200a', '\u2028', '\u2029', '\u202f', '\u205f',
    '\u3000']

theorem isBlank_iff {c : Char} : isBlank c = true ↔ c ∈ whiteSpace := by
  simp only [isBlank, blanks, whiteSpace, List.any_cons, List.any_nil, List.mem_cons, List.not_mem_nil, Bool.false_eq_true,
    or_false, ← Char.toNat_inj, Bool.or_eq_true, Bool.and_eq_true, decide_eq_true_eq, Char.reduceToNat]
  omega

def positional (digits : List Char) : Nat := Nat.ofDigits 10 (digits.reverse.map fun c => c.toNat - '0'.toNat)

theorem decimalValue_eq_positional (digits : List Char) : decimalValue digits = positional digits := by
  induction digits using List.reverseRecOn with
  | nil => rfl
  | append_singleton digits c ih =>
    rw [decimalValue, List.foldl_concat, ← decimalValue, ih, positional, positional, List.reverse_concat,
      List.map_cons, Nat.ofDigits_cons, Nat.mul_comm, Nat.add_comm]
    rfl

theorem isDigit_iff {c : Char} : c.isDigit = true ↔ '0' ≤ c ∧ c ≤ '9' := by
  simp [Char.isDigit, Char.le_def]

theorem dropWhile_blanks {blanks rest : List Char} (h : ∀ c ∈ blanks, isBlank c = true)
    (hrest : ∀ c ∈ rest.head?, isBlank c = false) : (blanks ++ rest).dropWhile isBlank = rest := by
  rw [List.dropWhile_append_of_pos h]
  cases rest with
  | nil => rfl
  | cons c cs => exact List.dropWhile_cons_of_neg (by simp [hrest c rfl])

theorem trim_append {before core after : List Char} (hbefore : ∀ c ∈ before, isBlank c = true)
    (hafter : ∀ c ∈ after, isBlank c = true) (hcore : core ≠ []) (hhead : ∀ c ∈ core.head?, isBlank c = false)
    (hlast : ∀ c ∈ core.getLast?, isBlank c = false) : trim (before ++ core ++ after) = core := by
  have hleft : (before ++ (core ++ after)).dropWhile isBlank = core ++ after := by
    apply dropWhile_blanks hbefore
    rwa [List.head?_append_of_ne_nil _ hcore]
  have hright : (after.reverse ++ core.reverse).dropWhile isBlank = core.reverse := by
    apply dropWhile_blanks
    · simpa using hafter
    · rwa [List.head?_reverse]
  rw [trim, List.append_assoc, hleft, List.reverse_append, hright, List.reverse_reverse]

theorem exists_trim (s : List Char) : ∃ before after, s = before ++ trim s ++ after ∧
    (∀ c ∈ before, isBlank c = true) ∧ ∀ c ∈ after, isBlank c = true := by
  refine ⟨s.takeWhile isBlank, ((s.dropWhile isBlank).reverse.takeWhile isBlank).reverse, ?_,
    fun c hc => List.mem_takeWhile_imp hc, ?_⟩
  · rw [trim, List.append_assoc, ← List.reverse_append, List.takeWhile_append_dropWhile, List.reverse_reverse,
      List.takeWhile_append_dropWhile]
  · intro c hc
    exact List.mem_takeWhile_imp (List.mem_reverse.mp hc)

theorem not_blank_of_isDigit {c : Char} (h : c.isDigit = true) : isBlank c = false := by
  simp only [Char.isDigit, Bool.and_eq_true, decide_eq_true_eq, ge_iff_le, UInt32.le_iff_toNat_le] at h
  simp only [isBlank, blanks, List.any_cons, List.any_nil, Char.toNat]
  grind

theorem withoutPlus_digits {digits : List Char} (h : ∀ c ∈ digits, c.isDigit = true) : withoutPlus digits = digits := by
  unfold withoutPlus
  split
  · cases h '+' List.mem_cons_self
  · rfl

theorem exists_sign (s : List Char) : ∃ sign, s = sign ++ withoutPlus s ∧ (sign = [] ∨ sign = ['+']) := by
  unfold withoutPlus
  split
  · exact ⟨['+'], rfl, .inr rfl⟩
  · exact ⟨[], rfl, .inl rfl⟩

theorem wholeNumber?_eq_some_iff {s : List Char} {n : Nat} : wholeNumber? s = some n ↔
    ∃ sign digits, s = sign ++ digits ∧ (sign = [] ∨ sign = ['+']) ∧ digits ≠ [] ∧
      (∀ c ∈ digits, c.isDigit = true) ∧ decimalValue digits < UInt64.size ∧ decimalValue digits = n := by
  simp only [wholeNumber?, Option.ite_none_right_eq_some, Option.some.injEq, List.all_eq_true]
  constructor
  · rintro ⟨⟨hdigits, hdigit, hsize⟩, hn⟩
    obtain ⟨sign, hs, hsign⟩ := exists_sign s
    exact ⟨sign, withoutPlus s, hs, hsign, hdigits, hdigit, hsize, hn⟩
  · rintro ⟨sign, digits, rfl, hsign, hdigits, hdigit, hsize, rfl⟩
    have hplus : withoutPlus (sign ++ digits) = digits := by
      rcases hsign with rfl | rfl
      · exact withoutPlus_digits hdigit
      · rfl
    rw [hplus]
    exact ⟨⟨hdigits, hdigit, hsize⟩, rfl⟩

end Text

inductive Settings.MillisForm : List Char → Nat → Prop
  | written {before sign digits after : List Char} (hbefore : ∀ c ∈ before, c ∈ Text.whiteSpace)
      (hsign : sign = [] ∨ sign = ['+']) (hdigits : digits ≠ []) (hdigit : ∀ c ∈ digits, '0' ≤ c ∧ c ≤ '9')
      (hafter : ∀ c ∈ after, c ∈ Text.whiteSpace) (hsize : Text.positional digits < 2 ^ 64) :
      MillisForm (before ++ (sign ++ digits) ++ after) (Text.positional digits)

theorem Settings.MillisForm.lt {s : List Char} {n : Nat} (h : MillisForm s n) : n < UInt64.size := by
  cases h with
  | written _ _ _ _ _ hsize => exact hsize

namespace Text

open Settings

theorem wholeNumber?_trim_eq_some_iff {s : List Char} {n : Nat} : wholeNumber? (trim s) = some n ↔ MillisForm s n := by
  rw [wholeNumber?_eq_some_iff]
  constructor
  · rintro ⟨sign, digits, htrim, hsign, hdigits, hdigit, hsize, rfl⟩
    obtain ⟨before, after, hs, hbefore, hafter⟩ := exists_trim s
    rw [hs, htrim, decimalValue_eq_positional]
    rw [decimalValue_eq_positional] at hsize
    exact .written (fun c hc => isBlank_iff.mp (hbefore c hc)) hsign hdigits (fun c hc => isDigit_iff.mp (hdigit c hc))
      (fun c hc => isBlank_iff.mp (hafter c hc)) hsize
  · rintro @⟨before, sign, digits, after, hbefore, hsign, hdigits, hdigit, hafter, hsize⟩
    rw [← decimalValue_eq_positional] at hsize ⊢
    have hbefore' (c : Char) (hc : c ∈ before) : isBlank c = true := isBlank_iff.mpr (hbefore c hc)
    have hafter' (c : Char) (hc : c ∈ after) : isBlank c = true := isBlank_iff.mpr (hafter c hc)
    have hdigit' (c : Char) (hc : c ∈ digits) : c.isDigit = true := isDigit_iff.mpr (hdigit c hc)
    refine ⟨_, _, trim_append hbefore' hafter' (by simp [hdigits]) ?_ ?_, hsign, hdigits, hdigit', hsize, rfl⟩
    · rcases hsign with rfl | rfl
      · intro c hc
        exact not_blank_of_isDigit (hdigit' c (List.mem_of_head? hc))
      · simp
        decide
    · intro c hc
      rw [List.getLast?_append_of_ne_nil _ hdigits] at hc
      exact not_blank_of_isDigit (hdigit' c (List.mem_of_getLast? hc))

end Text

end CircuitBreaker
