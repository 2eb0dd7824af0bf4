import CircuitBreaker.Json.Quoted
import CircuitBreaker.Json.Text
import CircuitBreaker.Proofs.WholeNumber

namespace CircuitBreaker.Json

def HexDigit (c : Char) (n : Nat) : Prop :=
  "0123456789abcdef".toList[n]? = some c ∨ "0123456789ABCDEF".toList[n]? = some c

inductive HexForm : List Char → Nat → Prop
  | four {a b c d : Char} {p q r s : Nat} (ha : HexDigit a p) (hb : HexDigit b q) (hc : HexDigit c r)
      (hd : HexDigit d s) : HexForm [a, b, c, d] (((p * 16 + q) * 16 + r) * 16 + s)

def shortEscapes : List (Char × Char) :=
  [('"', '"'), ('\\', '\\'), ('/', '/'), ('b', '\x08'), ('f', '\x0c'), ('n', '\n'), ('r', '\r'), ('t', '\t')]

/-- The ways to write one character between quotes. One beyond the first 65536 takes a pair of surrogates. -/
inductive CharForm : List Char → Char → Prop
  | plain {c : Char} (hquote : c ≠ '"') (hbackslash : c ≠ '\\') (hcontrol : 0x20 ≤ c.toNat) : CharForm [c] c
  | short {c d : Char} (h : (c, d) ∈ shortEscapes) : CharForm ['\\', c] d
  | unit {digits : List Char} {c : Char} (h : HexForm digits c.toNat) : CharForm ('\\' :: 'u' :: digits) c
  | pair {digits digits' : List Char} {x y : Nat} {c : Char} (hx : x < 0x400) (hy : y < 0x400)
      (h : HexForm digits (0xD800 + x)) (h' : HexForm digits' (0xDC00 + y)) (hc : c.toNat = 0x10000 + x * 0x400 + y) :
      CharForm ('\\' :: 'u' :: (digits ++ '\\' :: 'u' :: digits')) c

inductive TextForm : List Char → List Char → Prop
  | nil : TextForm [] []
  | cons {form forms : List Char} {c : Char} {cs : List Char} (h : CharForm form c) (hs : TextForm forms cs) :
      TextForm (form ++ forms) (c :: cs)

theorem HexDigit.lt {c : Char} {n : Nat} (h : HexDigit c n) : n < 16 := by
  rcases h with h | h <;> exact (List.getElem?_eq_some_iff.mp h).1

theorem hexValue_of_hexDigit {c : Char} {n : Nat} (h : HexDigit c n) : Text.hexValue c = some n := by
  have hlower : ∀ n < 16, "0123456789abcdef".toList[n]?.bind Text.hexValue = some n := by decide
  have hupper : ∀ n < 16, "0123456789ABCDEF".toList[n]?.bind Text.hexValue = some n := by decide
  have hn := h.lt
  rcases h with h | h
  · exact (congrArg (Option.bind · Text.hexValue) h).symm.trans (hlower n hn)
  · exact (congrArg (Option.bind · Text.hexValue) h).symm.trans (hupper n hn)

theorem hexDigit_of_hexValue {c : Char} {n : Nat} (h : Text.hexValue c = some n) : HexDigit c n := by
  -- Each of the three runs of digits, by the distance from its first character.
  have hdecimal : ∀ k < 10, HexDigit (Char.ofNat (k + 48)) k := by unfold HexDigit; decide
  have hlower : ∀ k < 16, 10 ≤ k → HexDigit (Char.ofNat (k + 87)) k := by unfold HexDigit; decide
  have hupper : ∀ k < 16, 10 ≤ k → HexDigit (Char.ofNat (k + 55)) k := by unfold HexDigit; decide
  have hle (a b : Char) : a ≤ b ↔ a.toNat ≤ b.toNat := UInt32.le_iff_toNat_le
  simp only [Text.hexValue, Text.isDigit_iff, hle, Char.reduceToNat] at h
  split at h
  · obtain rfl := Option.some.inj h
    have hdigit := hdecimal (c.toNat - 48) (by omega)
    rwa [Nat.sub_add_cancel (by omega), Char.ofNat_toNat] at hdigit
  · split at h
    · obtain rfl := Option.some.inj h
      have hdigit := hlower (c.toNat - 87) (by omega) (by omega)
      rwa [Nat.sub_add_cancel (by omega), Char.ofNat_toNat] at hdigit
    · split at h
      · obtain rfl := Option.some.inj h
        have hdigit := hupper (c.toNat - 55) (by omega) (by omega)
        rwa [Nat.sub_add_cancel (by omega), Char.ofNat_toNat] at hdigit
      · cases h

theorem shortEscape_eq_some_iff {c d : Char} : shortEscape c = some d ↔ (c, d) ∈ shortEscapes := by
  constructor
  · intro h
    unfold shortEscape at h
    split at h
    all_goals
      cases h
      try decide
  · intro h
    have hall : ∀ x ∈ shortEscapes, shortEscape x.1 = some x.2 := by decide
    exact hall _ h

theorem HexForm.lt {digits : List Char} {n : Nat} (h : HexForm digits n) : n < 0x10000 := by
  cases h with
  | four ha hb hc hd =>
    have := ha.lt
    have := hb.lt
    have := hc.lt
    have := hd.lt
    omega

theorem fourDigits_eq_some_iff {s rest : List Char} {n : Nat} :
    fourDigits s = some (n, rest) ↔ ∃ digits, s = digits ++ rest ∧ HexForm digits n := by
  constructor
  · intro h
    unfold fourDigits at h
    split at h
    · simp only [Option.bind_eq_bind, Option.bind_eq_some_iff, Option.pure_def, Option.some.injEq,
        Prod.mk.injEq] at h
      obtain ⟨p, hp, q, hq, r, hr, t, ht, rfl, rfl⟩ := h
      exact ⟨_, rfl, .four (hexDigit_of_hexValue hp) (hexDigit_of_hexValue hq) (hexDigit_of_hexValue hr)
        (hexDigit_of_hexValue ht)⟩
    · cases h
  · rintro ⟨_, rfl, ⟨ha, hb, hc, hd⟩⟩
    simp [fourDigits, hexValue_of_hexDigit ha, hexValue_of_hexDigit hb, hexValue_of_hexDigit hc, hexValue_of_hexDigit hd]

theorem hexUnit_eq_ok_iff {s rest : List Char} {n : Nat} :
    hexUnit s = .ok (n, rest) ↔ ∃ digits, s = digits ++ rest ∧ HexForm digits n := by
  rw [← fourDigits_eq_some_iff, hexUnit]
  cases fourDigits s <;> simp

theorem isHigh_iff {unit : Nat} : isHigh unit = true ↔ ∃ x < 0x400, unit = 0xD800 + x := by
  simp only [isHigh, Bool.and_eq_true, decide_eq_true_eq]
  exact ⟨fun h => ⟨unit - 0xD800, by omega, by omega⟩, by omega⟩

theorem isLow_iff {unit : Nat} : isLow unit = true ↔ ∃ y < 0x400, unit = 0xDC00 + y := by
  simp only [isLow, Bool.and_eq_true, decide_eq_true_eq]
  exact ⟨fun h => ⟨unit - 0xDC00, by omega, by omega⟩, by omega⟩

theorem toNat_ofNat {n : Nat} (h : n.isValidChar) : (Char.ofNat n).toNat = n := by
  rw [Char.ofNat, dif_pos h]
  rfl

theorem pairedChar_eq_iff {x y : Nat} (hx : x < 0x400) (hy : y < 0x400) {c : Char} :
    pairedChar (0xD800 + x) (0xDC00 + y) = c ↔ c.toNat = 0x10000 + x * 0x400 + y := by
  have hvalid : (0x10000 + x * 0x400 + y).isValidChar := by right; omega
  rw [pairedChar, Nat.add_sub_cancel_left, Nat.add_sub_cancel_left, ← Char.toNat_inj, toNat_ofNat hvalid]
  exact eq_comm

theorem toNat_ofNat_of_unit {unit : Nat} (hsize : unit < 0x10000) (hlow : isLow unit = false)
    (hhigh : isHigh unit = false) : (Char.ofNat unit).toNat = unit := by
  simp only [isLow, isHigh, Bool.and_eq_false_iff, decide_eq_false_iff_not] at hlow hhigh
  apply toNat_ofNat
  unfold Nat.isValidChar
  omega

theorem not_surrogate (c : Char) : isLow c.toNat = false ∧ isHigh c.toNat = false := by
  have hvalid : c.toNat < 0xD800 ∨ 0xDFFF < c.toNat ∧ c.toNat < 0x110000 := c.valid
  simp only [isLow, isHigh, Bool.and_eq_false_iff, decide_eq_false_iff_not]
  omega

theorem lowSurrogate_eq_ok_iff {s rest : List Char} {high : Nat} {c : Char} :
    lowSurrogate high s = .ok (c, rest) ↔ ∃ digits low, s = '\\' :: 'u' :: (digits ++ rest) ∧
      HexForm digits low ∧ isLow low = true ∧ c = pairedChar high low := by
  constructor
  · intro h
    match s with
    | [] | [_] => simp [lowSurrogate] at h
    | a :: b :: cs =>
      rw [lowSurrogate] at h
      split at h
      · next ha =>
        split at h
        · next hb =>
          split at h
          · cases h
          · next low rest' hu =>
            obtain ⟨digits, rfl, hdigits⟩ := hexUnit_eq_ok_iff.mp hu
            split at h
            · next hlow =>
              simp only [Except.ok.injEq, Prod.mk.injEq] at h
              obtain ⟨rfl, rfl⟩ := h
              exact ⟨digits, low, by rw [ha, hb], hdigits, hlow, rfl⟩
            · cases h
        · cases h
      · cases h
  · rintro ⟨digits, low, rfl, hdigits, hlow, hc⟩
    have hu : hexUnit (digits ++ rest) = .ok (low, rest) := hexUnit_eq_ok_iff.mpr ⟨digits, rfl, hdigits⟩
    simp only [lowSurrogate, ↓reduceIte, hu, hlow, hc]

theorem isLow_eq_false_of_isHigh {unit : Nat} (h : isHigh unit = true) : isLow unit = false := by
  simp only [isLow, isHigh, Bool.and_eq_true, Bool.and_eq_false_iff, decide_eq_true_eq, decide_eq_false_iff_not] at *
  omega

theorem unicodeEscape_eq_ok_iff {s rest : List Char} {c : Char} :
    unicodeEscape s = .ok (c, rest) ↔ ∃ form, s = form ++ rest ∧ CharForm ('\\' :: 'u' :: form) c := by
  constructor
  · intro h
    unfold unicodeEscape at h
    split at h
    · cases h
    · next unit rest' hu =>
      obtain ⟨digits, rfl, hdigits⟩ := hexUnit_eq_ok_iff.mp hu
      split at h
      · cases h
      · next hlow =>
        split at h
        · next hhigh =>
          obtain ⟨digits', low, rfl, hdigits', hlow', hc⟩ := lowSurrogate_eq_ok_iff.mp h
          obtain ⟨x, hx, rfl⟩ := isHigh_iff.mp hhigh
          obtain ⟨y, hy, rfl⟩ := isLow_iff.mp hlow'
          refine ⟨digits ++ '\\' :: 'u' :: digits', by simp, .pair hx hy hdigits hdigits' ?_⟩
          exact (pairedChar_eq_iff hx hy).mp hc.symm
        · next hhigh =>
          simp only [Except.ok.injEq, Prod.mk.injEq] at h
          obtain ⟨rfl, rfl⟩ := h
          have hunit := toNat_ofNat_of_unit hdigits.lt (by simpa using hlow) (by simpa using hhigh)
          exact ⟨digits, rfl, .unit (hunit.symm ▸ hdigits)⟩
  · rintro ⟨form, rfl, h⟩
    cases h with
    | short h => cases shortEscape_eq_some_iff.mpr h
    | unit h =>
      have hu : hexUnit (form ++ rest) = .ok (_, rest) := hexUnit_eq_ok_iff.mpr ⟨form, rfl, h⟩
      obtain ⟨hlow, hhigh⟩ := not_surrogate c
      simp only [unicodeEscape, hu, hlow, hhigh, Bool.false_eq_true, ↓reduceIte, Char.ofNat_toNat]
    | @pair digits digits' x y _ hx hy h h' hc =>
      have hhigh : isHigh (0xD800 + x) = true := isHigh_iff.mpr ⟨x, hx, rfl⟩
      have hu : hexUnit (digits ++ '\\' :: 'u' :: digits' ++ rest) = .ok (_, '\\' :: 'u' :: (digits' ++ rest)) :=
        hexUnit_eq_ok_iff.mpr ⟨digits, by simp, h⟩
      have hl : lowSurrogate (0xD800 + x) ('\\' :: 'u' :: (digits' ++ rest)) = .ok (c, rest) :=
        lowSurrogate_eq_ok_iff.mpr ⟨digits', _, rfl, h', isLow_iff.mpr ⟨y, hy, rfl⟩, ((pairedChar_eq_iff hx hy).mpr hc).symm⟩
      simp only [unicodeEscape, hu, isLow_eq_false_of_isHigh hhigh, hhigh, hl, Bool.false_eq_true, ↓reduceIte]

theorem escapeSequence_eq_ok_iff {s rest : List Char} {c : Char} :
    escapeSequence s = .ok (c, rest) ↔ ∃ form, s = form ++ rest ∧ CharForm ('\\' :: form) c := by
  constructor
  · intro h
    unfold escapeSequence at h
    split at h
    · cases h
    · next a cs =>
      split at h
      · next ha =>
        obtain ⟨form, rfl, hform⟩ := unicodeEscape_eq_ok_iff.mp h
        exact ⟨'u' :: form, by rw [ha]; rfl, hform⟩
      · split at h
        · next hd =>
          cases h
          exact ⟨[a], rfl, .short (shortEscape_eq_some_iff.mp hd)⟩
        · cases h
  · rintro ⟨form, rfl, h⟩
    cases h with
    | plain _ hbackslash _ => exact absurd rfl hbackslash
    | @short a _ h =>
      have hd := shortEscape_eq_some_iff.mpr h
      have ha : a ≠ 'u' := by
        rintro rfl
        cases hd
      simp [escapeSequence, ha, hd]
    | unit h => exact unicodeEscape_eq_ok_iff.mpr ⟨_, rfl, .unit h⟩
    | pair hx hy h h' hc => exact unicodeEscape_eq_ok_iff.mpr ⟨_, rfl, .pair hx hy h h' hc⟩

theorem textBody_escape {s rest : List Char} {c : Char} (h : escapeSequence s = .ok (c, rest)) :
    textBody ('\\' :: s) = (textBody rest).map fun x => (c :: x.1, x.2) := by
  rw [textBody, if_neg (by decide), if_pos rfl]
  split
  · next hf => simp [h] at hf
  · next d rest' hd =>
    rw [h] at hd
    cases hd
    cases textBody rest <;> rfl

theorem CharForm.textBody {form : List Char} {c : Char} (h : CharForm form c) (rest : List Char) :
    textBody (form ++ rest) = (Json.textBody rest).map fun x => (c :: x.1, x.2) := by
  cases h with
  | plain hquote hbackslash hcontrol =>
    rw [List.singleton_append, Json.textBody, if_neg hquote, if_neg hbackslash, if_neg (by omega)]
    cases Json.textBody rest <;> rfl
  | short h => exact textBody_escape (escapeSequence_eq_ok_iff.mpr ⟨_, rfl, .short h⟩)
  | unit h => exact textBody_escape (escapeSequence_eq_ok_iff.mpr ⟨_, rfl, .unit h⟩)
  | pair hx hy h h' hc => exact textBody_escape (escapeSequence_eq_ok_iff.mpr ⟨_, rfl, .pair hx hy h h' hc⟩)

theorem textBody_eq_ok_iff {s body rest : List Char} :
    textBody s = .ok (body, rest) ↔ ∃ form, s = form ++ '"' :: rest ∧ TextForm form body := by
  constructor
  · intro h
    fun_induction textBody s generalizing body rest with
    | case1 => cases h
    | case2 =>
      cases h
      exact ⟨[], rfl, .nil⟩
    | case3 => cases h
    | case4 => cases h
    | case5 cs d mid he body' rest' hb _ ih =>
      cases h
      obtain ⟨form, rfl, hform⟩ := escapeSequence_eq_ok_iff.mp he
      obtain ⟨forms, rfl, hforms⟩ := ih hb
      exact ⟨'\\' :: form ++ forms, by simp, .cons hform hforms⟩
    | case6 => cases h
    | case7 => cases h
    | case8 c cs hquote hbackslash hcontrol body' rest' hb ih =>
      cases h
      obtain ⟨forms, rfl, hforms⟩ := ih hb
      exact ⟨c :: forms, rfl, .cons (.plain hquote hbackslash (by omega)) hforms⟩
  · rintro ⟨form, rfl, h⟩
    induction h with
    | nil => simp [textBody]
    | cons h _ ih => rw [List.append_assoc, h.textBody, ih, Except.map]

end CircuitBreaker.Json
