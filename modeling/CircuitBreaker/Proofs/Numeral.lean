import CircuitBreaker.Json.Number
import CircuitBreaker.Proofs.WholeNumber

namespace CircuitBreaker

namespace Text

theorem positional_eq (digits : List Char) : positional digits = Nat.ofDigitChars 10 digits 0 := by
  rw [← decimalValue_eq_positional, Nat.ofDigitChars_eq_foldl, decimalValue]
  congr
  funext value c
  rw [Nat.mul_comm]
  rfl

theorem positional_toDigits (n : Nat) : positional (Nat.toDigits 10 n) = n := by
  rw [positional_eq, Nat.ofDigitChars_ten_toDigits]

theorem le_ofDigitChars (digits : List Char) (value : Nat) : value ≤ Nat.ofDigitChars 10 digits value := by
  induction digits generalizing value with
  | nil => simp
  | cons c cs ih =>
    rw [Nat.ofDigitChars_cons]
    have := ih (10 * value + (c.toNat - '0'.toNat))
    omega

end Text

namespace Json

structure Numeral (form : List Char) (n : Nat) : Prop where
  nonempty : form ≠ []
  digits : ∀ c ∈ form, '0' ≤ c ∧ c ≤ '9'
  zero : form.head? = some '0' → form = ['0']
  value : Text.positional form = n

theorem Numeral.isDigit {form : List Char} {n : Nat} (h : Numeral form n) : ∀ c ∈ form, c.isDigit = true :=
  fun c hc => Text.isDigit_iff.mpr (h.digits c hc)

theorem toDigits_head {n : Nat} (hn : 0 < n) : (Nat.toDigits 10 n).head? ≠ some '0' := by
  induction n using Nat.strongRecOn with
  | ind n ih =>
    by_cases h : n < 10
    · rw [Nat.toDigits_of_lt_base h]
      simp
      omega
    · rw [Nat.toDigits_of_base_le (by decide) (by omega), List.head?_append,
        List.head?_eq_some_head Nat.toDigits_ne_nil, Option.some_or, ← List.head?_eq_some_head]
      exact ih (n / 10) (by omega) (by omega)

theorem numeral_toDigits (n : Nat) : Numeral (Nat.toDigits 10 n) n where
  nonempty := Nat.toDigits_ne_nil
  digits := fun _ hc => Text.isDigit_iff.mp (Nat.isDigit_of_mem_toDigits (by decide) (by decide) hc)
  zero := by
    intro h
    cases n with
    | zero => rfl
    | succ n => exact absurd h (toDigits_head (Nat.succ_pos n))
  value := Text.positional_toDigits n

namespace Number

def Ends (rest : List Char) : Prop := ∀ c ∈ rest.head?, c.isDigit = false ∧ isMark c = false

theorem ends_iff {rest : List Char} :
    Ends rest ↔ startsWithDigit rest = false ∧ ∀ c ∈ rest.head?, isMark c = false := by
  cases rest <;> simp [Ends, startsWithDigit]

section TakeDigits

variable {limit value count : Nat} {rest : List Char}

theorem takeDigits_append {digits : List Char} (hd : ∀ c ∈ digits, c.isDigit = true)
    (hl : Nat.ofDigitChars 10 digits value ≤ limit) (hr : startsWithDigit rest = false) :
    takeDigits limit value count (digits ++ rest) =
      (Nat.ofDigitChars 10 digits value, count + digits.length, rest) := by
  induction digits generalizing value count with
  | nil =>
    cases rest with
    | nil => rfl
    | cons c cs =>
      have hc : c.isDigit = false := hr
      simp [takeDigits, hc]
  | cons c cs ih =>
    rw [Nat.ofDigitChars_cons] at hl ⊢
    -- The digits still to come only make the value larger, so none of them exceeds the limit.
    have hle := Text.le_ofDigitChars cs (10 * value + (c.toNat - '0'.toNat))
    have hvalue : value * 10 + (c.toNat - 48) = 10 * value + (c.toNat - '0'.toNat) := by
      rw [Nat.mul_comm]
      rfl
    rw [List.cons_append, takeDigits, hvalue, if_pos ⟨hd c List.mem_cons_self, Nat.le_trans hle hl⟩,
      ih (fun x hx => hd x (List.mem_cons_of_mem c hx)) hl, List.length_cons]
    congr 2
    omega

theorem takeDigits_spec {s : List Char} {v k : Nat} (h : takeDigits limit value count s = (v, k, rest))
    (hl : value ≤ limit) :
    ∃ digits, s = digits ++ rest ∧ (∀ c ∈ digits, c.isDigit = true) ∧ v = Nat.ofDigitChars 10 digits value ∧
      v ≤ limit ∧ k = count + digits.length := by
  induction s generalizing value count with
  | nil =>
    cases h
    exact ⟨[], rfl, by simp, by simp, hl, rfl⟩
  | cons c cs ih =>
    rw [takeDigits] at h
    split at h
    · next hc =>
      obtain ⟨digits, rfl, hd, hv, hle, hk⟩ := ih h hc.2
      have hvalue : value * 10 + (c.toNat - 48) = 10 * value + (c.toNat - '0'.toNat) := by
        rw [Nat.mul_comm]
        rfl
      refine ⟨c :: digits, rfl, List.forall_mem_cons.mpr ⟨hc.1, hd⟩, ?_, hle, ?_⟩
      · rw [Nat.ofDigitChars_cons, ← hvalue, hv]
      · rw [List.length_cons]
        omega
    · cases h
      exact ⟨[], rfl, by simp, by simp, hl, rfl⟩

end TakeDigits

section Decimals

variable {sign up : Bool} {significand n : Nat} {e : Int} {s rest : List Char}

theorem finish_ne_natural : finish sign significand e s ≠ .ok (.natural n, rest) := by
  unfold finish
  cases scale significand e <;> simp

theorem hugeExponent_ne_natural : hugeExponent sign significand up s ≠ .ok (.natural n, rest) := by
  unfold hugeExponent
  split <;> simp

theorem exponentDigits_ne_natural : exponentDigits sign significand e up s ≠ .ok (.natural n, rest) := by
  unfold exponentDigits
  split
  · simp
  · simp
  · split
    · exact hugeExponent_ne_natural
    · exact finish_ne_natural

theorem exponent_ne_natural : exponent sign significand e s ≠ .ok (.natural n, rest) := by
  unfold exponent
  split <;> exact exponentDigits_ne_natural

theorem exponentOrEnd_ne_natural : exponentOrEnd sign significand e s ≠ .ok (.natural n, rest) := by
  unfold exponentOrEnd
  split
  · exact exponent_ne_natural
  · exact exponent_ne_natural
  · exact finish_ne_natural

theorem fraction_ne_natural : fraction sign significand e s ≠ .ok (.natural n, rest) := by
  unfold fraction
  generalize takeDigits wordLimit significand 0 s = taken
  obtain ⟨v, k, left⟩ := taken
  dsimp only
  split
  · exact exponentOrEnd_ne_natural
  · split
    · simp
    · exact exponentOrEnd_ne_natural

theorem fractionOrEnd_ne_natural : fractionOrEnd sign significand e s ≠ .ok (.natural n, rest) := by
  unfold fractionOrEnd
  split
  · exact fraction_ne_natural
  · exact exponentOrEnd_ne_natural

theorem whole_ne_natural : whole true significand ≠ .natural n := by
  unfold whole
  split
  · next h => cases h
  · split <;> simp

end Decimals

variable {significand n : Nat} {s rest : List Char}

theorem wholeOrMore_eq_natural_iff : wholeOrMore false significand s = .ok (.natural n, rest) ↔
    significand = n ∧ s = rest ∧ ∀ c ∈ rest.head?, isMark c = false := by
  cases s with
  | nil =>
    constructor
    · intro h
      cases h
      exact ⟨rfl, rfl, by simp⟩
    · rintro ⟨rfl, rfl, -⟩
      rfl
  | cons c cs =>
    rw [wholeOrMore]
    constructor
    · intro h
      split at h
      · exact absurd h fractionOrEnd_ne_natural
      · next hc =>
        cases h
        exact ⟨rfl, rfl, by simpa using hc⟩
    · rintro ⟨rfl, rfl, h⟩
      simp [h c rfl, whole]

theorem wholeOrMore_negative_ne_natural : wholeOrMore true significand s ≠ .ok (.natural n, rest) := by
  unfold wholeOrMore
  split
  · intro h
    exact whole_ne_natural (congrArg Prod.fst (Except.ok.inj h))
  · split
    · exact fractionOrEnd_ne_natural
    · intro h
      exact whole_ne_natural (congrArg Prod.fst (Except.ok.inj h))

theorem read_negative_ne_natural : read true s ≠ .ok (.natural n, rest) := by
  unfold read
  split
  · simp
  · split
    · simp
    · exact wholeOrMore_negative_ne_natural
  · split
    · simp
    · generalize takeDigits wordLimit 0 0 _ = taken
      obtain ⟨v, k, left⟩ := taken
      dsimp only
      split
      · exact fractionOrEnd_ne_natural
      · exact wholeOrMore_negative_ne_natural

theorem read_zero (hends : Ends rest) : read false ('0' :: rest) = .ok (.natural 0, rest) := by
  obtain ⟨hdigit, hmark⟩ := ends_iff.mp hends
  rw [read, if_neg (by simp [hdigit])]
  exact wholeOrMore_eq_natural_iff.mpr ⟨rfl, rfl, hmark⟩

theorem read_digits {form : List Char} (hn : Numeral form n) (hzero : form.head? ≠ some '0') (hsize : n < UInt64.size)
    (hends : Ends rest) : read false (form ++ rest) = .ok (.natural n, rest) := by
  obtain ⟨hdigit, hmark⟩ := ends_iff.mp hends
  obtain ⟨c, cs, rfl⟩ := List.exists_cons_of_ne_nil hn.nonempty
  have hc : c ≠ '0' := fun hc => hzero (congrArg some hc)
  have hvalue : Nat.ofDigitChars 10 (c :: cs) 0 = n := (Text.positional_eq _).symm.trans hn.value
  have hlimit : Nat.ofDigitChars 10 (c :: cs) 0 ≤ wordLimit := by
    rw [hvalue]
    exact Nat.le_sub_one_of_lt hsize
  have htaken : takeDigits wordLimit 0 0 (c :: cs ++ rest) = _ := takeDigits_append hn.isDigit hlimit hdigit
  rw [hvalue] at htaken
  rw [List.cons_append, read.eq_3 _ _ _ hc, if_neg (by simp [hn.isDigit c List.mem_cons_self]), ← List.cons_append,
    htaken]
  simp only [hdigit, Bool.false_eq_true, ↓reduceIte]
  exact wholeOrMore_eq_natural_iff.mpr ⟨rfl, rfl, hmark⟩

theorem read_eq_natural_iff : read false s = .ok (.natural n, rest) ↔
    ∃ form, s = form ++ rest ∧ Numeral form n ∧ n < UInt64.size ∧ Ends rest := by
  constructor
  · intro h
    unfold read at h
    split at h
    · cases h
    · next cs =>
      split at h
      · cases h
      · next hdigit =>
        obtain ⟨rfl, rfl, hmark⟩ := wholeOrMore_eq_natural_iff.mp h
        exact ⟨['0'], rfl, ⟨by simp, by simp, fun _ => rfl, rfl⟩, by decide, ends_iff.mpr ⟨by simpa using hdigit, hmark⟩⟩
    · next c cs hzero =>
      split at h
      · cases h
      · next hc =>
        generalize htaken : takeDigits wordLimit 0 0 (c :: cs) = taken at h
        obtain ⟨v, k, left⟩ := taken
        obtain ⟨form, hform, hdigits, hv, hle, hk⟩ := takeDigits_spec htaken (Nat.zero_le _)
        dsimp only at h
        split at h
        · exact absurd h fractionOrEnd_ne_natural
        · next hdigit =>
          obtain ⟨rfl, rfl, hmark⟩ := wholeOrMore_eq_natural_iff.mp h
          -- The first digit is taken, so there is one, and it is not a zero.
          cases form with
          | nil =>
            obtain rfl : c :: cs = left := hform
            exact absurd (by simpa [startsWithDigit] using hc) hdigit
          | cons a form =>
            obtain ⟨rfl, -⟩ := List.cons.inj hform
            refine ⟨c :: form, hform, ⟨by simp, fun a ha => Text.isDigit_iff.mp (hdigits a ha), fun ha => absurd (Option.some.inj ha) hzero, ?_⟩, ?_,
              ends_iff.mpr ⟨by simpa using hdigit, hmark⟩⟩
            · rw [Text.positional_eq, hv]
            · exact Nat.lt_of_le_pred (by decide) hle
  · rintro ⟨form, rfl, hn, hsize, hends⟩
    by_cases hzero : form.head? = some '0'
    · have hform := hn.zero hzero
      have hn0 : 0 = n := by
        rw [← hn.value, hform]
        rfl
      rw [hform, ← hn0]
      exact read_zero hends
    · exact read_digits hn hzero hsize hends

end Number

end Json

end CircuitBreaker
