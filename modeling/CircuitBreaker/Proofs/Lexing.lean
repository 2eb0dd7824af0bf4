import CircuitBreaker.Json.Token
import CircuitBreaker.Proofs.Numeral
import CircuitBreaker.Proofs.Spelling
import Mathlib.Data.List.Chain
import Mathlib.Data.List.TakeWhile

namespace CircuitBreaker.Json

namespace Token

inductive Form : Token → List Char → Prop
  | openBrace : Form .openBrace ['{']
  | closeBrace : Form .closeBrace ['}']
  | openBracket : Form .openBracket ['[']
  | closeBracket : Form .closeBracket [']']
  | colon : Form .colon [':']
  | comma : Form .comma [',']
  | text {form : List Char} {s : String} (h : TextForm form s.toList) : Form (.text s) ('"' :: form ++ ['"'])
  | natural {form : List Char} {n : Nat} (h : Numeral form n) (hsize : n < 2 ^ 64) :
      Form (.number (.natural n)) form

def Plain : Token → Prop
  | .openBrace | .closeBrace | .openBracket | .closeBracket | .colon | .comma | .text _ | .number (.natural _) => True
  | .null | .flag _ | .number (.negative _) | .number (.decimal ..) | .badText _ | .bad _ | .stray => False

def isNumber : Token → Bool
  | .number _ => true
  | _ => false

def Parted (a b : Token) : Prop := a.isNumber = true → b.isNumber = false

theorem parted_of_not_number {a b : Token} (ha : a.isNumber = false) : Parted a b :=
  fun h => Bool.noConfusion (ha.symm.trans h)

theorem Plain.isBroken {token : Token} (h : token.Plain) : token.isBroken = false := by
  cases token with
  | badText | bad | stray => cases h
  | _ => rfl

theorem Form.plain {token : Token} {form : List Char} (h : Form token form) : token.Plain := by
  cases h <;> trivial

theorem Form.start {token : Token} {form : List Char} (h : Form token form) :
    ∃ c cs, form = c :: cs ∧ isSpace c = false ∧
      (token.isNumber = false → c.isDigit = false ∧ Number.isMark c = false) := by
  cases h with
  | text h => exact ⟨_, _, rfl, rfl, fun _ => ⟨rfl, rfl⟩⟩
  | natural h hsize =>
    obtain ⟨c, cs, rfl⟩ := List.exists_cons_of_ne_nil h.nonempty
    refine ⟨c, cs, rfl, ?_, fun hn => Bool.noConfusion hn⟩
    have hc := h.isDigit c List.mem_cons_self
    by_contra hs
    simp only [isSpace, Bool.not_eq_false, Bool.or_eq_true, decide_eq_true_eq] at hs
    rcases hs with ((rfl | rfl) | rfl) | rfl <;> cases hc
  | _ => exact ⟨_, _, rfl, rfl, fun _ => ⟨rfl, rfl⟩⟩

theorem scan_digit {c : Char} (hc : c.isDigit = true) (cs : List Char) :
    scan c cs = ofNumber (Number.read false (c :: cs)) := by
  unfold scan
  split <;> exact if_pos hc

theorem Form.scan {token : Token} {form rest : List Char} (h : Form token form)
    (hends : token.isNumber = true → Number.Ends rest) :
    ∃ c cs, form = c :: cs ∧ isSpace c = false ∧ Token.scan c (cs ++ rest) = (token, rest) := by
  obtain ⟨c, cs, hform, hs, -⟩ := h.start
  refine ⟨c, cs, hform, hs, ?_⟩
  cases h with
  | @text body s h =>
    obtain ⟨rfl, rfl⟩ := List.cons.inj hform
    have hbody : textBody (body ++ ['"'] ++ rest) = .ok (s.toList, rest) :=
      textBody_eq_ok_iff.mpr ⟨body, by simp, h⟩
    change ofText (textBody (body ++ ['"'] ++ rest)) = _
    rw [hbody, ofText, String.ofList_toList]
  | natural h hsize =>
    subst hform
    have hread := Number.read_eq_natural_iff.mpr ⟨_, rfl, h, hsize, hends rfl⟩
    rw [scan_digit (h.isDigit c List.mem_cons_self), ← List.cons_append, hread]
    rfl
  | _ =>
    obtain ⟨rfl, rfl⟩ := List.cons.inj hform
    rfl

theorem not_plain_name {token : Token} (h : ¬ token.Plain) (es cs : List Char) : ¬ (name token es cs).1.Plain := by
  induction es generalizing cs with
  | nil => exact h
  | cons e es ih =>
    cases cs with
    | nil => exact not_false
    | cons c cs =>
      rw [name]
      split
      · exact ih cs
      · exact not_false

theorem ofNumber_plain {read : Reading Number} (h : (ofNumber read).1.Plain) :
    ∃ n rest, read = .ok (.natural n, rest) ∧ ofNumber read = (.number (.natural n), rest) := by
  match read with
  | .ok (.natural n, rest) => exact ⟨n, rest, rfl, rfl⟩
  | .ok (.negative _, _) | .ok (.decimal .., _) | .error _ => cases h

theorem scan_plain {c : Char} {cs : List Char} (h : (scan c cs).1.Plain) :
    ∃ form, c :: cs = form ++ (scan c cs).2 ∧ Form (scan c cs).1 form := by
  unfold scan at h ⊢
  split at h
  · exact ⟨_, rfl, .openBrace⟩
  · exact ⟨_, rfl, .closeBrace⟩
  · exact ⟨_, rfl, .openBracket⟩
  · exact ⟨_, rfl, .closeBracket⟩
  · exact ⟨_, rfl, .colon⟩
  · exact ⟨_, rfl, .comma⟩
  · exact absurd h (not_plain_name id _ _)
  · exact absurd h (not_plain_name id _ _)
  · exact absurd h (not_plain_name id _ _)
  · cases hb : textBody cs with
    | error f => simp [hb, ofText, Plain] at h
    | ok found =>
      obtain ⟨body, rest⟩ := found
      obtain ⟨form, rfl, hform⟩ := textBody_eq_ok_iff.mp hb
      exact ⟨'"' :: form ++ ['"'], by simp [ofText], .text (by rwa [String.toList_ofList])⟩
  · obtain ⟨n, rest, hread, -⟩ := ofNumber_plain h
    exact absurd hread Number.read_negative_ne_natural
  · split at h
    · next hc =>
      obtain ⟨n, rest, hread, hnumber⟩ := ofNumber_plain h
      obtain ⟨form, hform, hn, hsize, -⟩ := Number.read_eq_natural_iff.mp hread
      rw [if_pos hc, hnumber]
      exact ⟨form, hform, .natural hn hsize⟩
    · cases h

end Token

def spaces : List Char := [' ', '\t', '\n', '\r']

theorem isSpace_iff {c : Char} : isSpace c = true ↔ c ∈ spaces := by
  simp [isSpace, spaces, or_assoc]

inductive Spaced : List Token → List Char → Prop
  | nil {blanks : List Char} (h : ∀ c ∈ blanks, c ∈ spaces) : Spaced [] blanks
  | cons {blanks form rest : List Char} {token : Token} {ts : List Token} (h : ∀ c ∈ blanks, c ∈ spaces)
      (hform : token.Form form) (hrest : Spaced ts rest) : Spaced (token :: ts) (blanks ++ form ++ rest)

theorem Spaced.exists_form {ts : List Token} {text : List Char} {token : Token} (h : Spaced ts text)
    (ht : token ∈ ts) : ∃ form, token.Form form := by
  induction h with
  | nil => cases ht
  | cons _ hform _ ih =>
    rcases List.mem_cons.mp ht with rfl | ht
    · exact ⟨_, hform⟩
    · exact ih ht

theorem not_digit_of_space {c : Char} (h : c ∈ spaces) : c.isDigit = false ∧ Number.isMark c = false := by
  simp only [spaces, List.mem_cons, List.not_mem_nil, or_false] at h
  rcases h with rfl | rfl | rfl | rfl <;> exact ⟨rfl, rfl⟩

theorem Spaced.ends {ts : List Token} {text : List Char} (h : Spaced ts text)
    (hfirst : ∀ t ∈ ts.head?, t.isNumber = false) : Number.Ends text := by
  intro c hc
  cases h with
  | nil h => exact not_digit_of_space (h c (List.mem_of_head? hc))
  | @cons blanks form rest token ts h hform hrest =>
    cases blanks with
    | nil =>
      obtain ⟨a, as, rfl, -, hstart⟩ := hform.start
      obtain rfl : a = c := Option.some.inj hc
      exact hstart (hfirst token rfl)
    | cons b bs =>
      obtain rfl : b = c := Option.some.inj hc
      exact not_digit_of_space (h b List.mem_cons_self)

theorem tokens_of_scan {fuel : Nat} {blanks cs rest : List Char} {c : Char} {token : Token}
    (h : ∀ b ∈ blanks, b ∈ spaces) (hc : isSpace c = false) (hscan : Token.scan c cs = (token, rest))
    (hbroken : token.isBroken = false) :
    tokens (fuel + 1) (blanks ++ c :: cs) = ⟨token, c :: cs, rest⟩ :: tokens fuel rest := by
  rw [tokens, List.dropWhile_append_of_pos fun b hb => isSpace_iff.mpr (h b hb), List.dropWhile_cons_of_neg (by simp [hc])]
  simp [hscan, hbroken]

theorem Spaced.tokens {ts : List Token} {text : List Char} (h : Spaced ts text) (hparted : ts.IsChain Token.Parted)
    {fuel : Nat} (hfuel : text.length ≤ fuel) : (tokens fuel text).map Lexeme.token = ts := by
  induction h generalizing fuel with
  | @nil blanks h =>
    have hdrop : blanks.dropWhile isSpace = [] :=
      List.dropWhile_eq_nil_iff.mpr fun b hb => isSpace_iff.mpr (h b hb)
    cases fuel with
    | zero => rfl
    | succ fuel => simp [Json.tokens, hdrop]
  | @cons blanks form rest token ts h hform hrest ih =>
    -- Only a digit or a mark would make a number longer, and what starts with one is a number.
    have hends : token.isNumber = true → Number.Ends rest := by
      intro hn
      apply hrest.ends
      intro t ht
      exact hparted.rel_head? ht hn
    obtain ⟨c, cs, rfl, hc, hscan⟩ := hform.scan hends
    simp only [List.length_append, List.length_cons] at hfuel
    obtain ⟨fuel, rfl⟩ : ∃ k, fuel = k + 1 := ⟨fuel - 1, by omega⟩
    rw [List.append_assoc, List.cons_append, tokens_of_scan h hc hscan hform.plain.isBroken, List.map_cons,
      ih hparted.tail (by omega)]

theorem spaced_of_plain {fuel : Nat} {text : List Char} (hfuel : text.length ≤ fuel)
    (h : ∀ t ∈ tokens fuel text, t.token.Plain) : Spaced ((tokens fuel text).map Lexeme.token) text := by
  induction fuel generalizing text with
  | zero =>
    obtain rfl := List.eq_nil_of_length_eq_zero (Nat.le_zero.mp hfuel)
    exact .nil (by simp)
  | succ fuel ih =>
    have htext := List.takeWhile_append_dropWhile (p := isSpace) (l := text)
    have hblanks : ∀ c ∈ text.takeWhile isSpace, c ∈ spaces :=
      fun c hc => isSpace_iff.mp (List.mem_takeWhile_imp hc)
    generalize text.takeWhile isSpace = blanks at htext hblanks
    -- Each round takes the blanks and one token off the text.
    rw [tokens] at h ⊢
    cases hdrop : text.dropWhile isSpace with
    | nil =>
      rw [hdrop, List.append_nil] at htext
      rw [← htext]
      exact .nil hblanks
    | cons c cs =>
      simp only [hdrop, List.forall_mem_cons] at h htext ⊢
      obtain ⟨hplain, hrest⟩ := h
      obtain ⟨form, hform, hwritten⟩ := Token.scan_plain hplain
      simp only [hplain.isBroken, Bool.false_eq_true, ↓reduceIte] at hrest ⊢
      obtain ⟨a, as, rfl, -⟩ := hwritten.start
      rw [hform, ← List.append_assoc] at htext
      have hlength := congrArg List.length htext
      simp only [List.length_append, List.length_cons] at hlength
      have hspaced := ih (by omega) hrest
      rw [← htext]
      exact .cons hblanks hwritten hspaced

end CircuitBreaker.Json
