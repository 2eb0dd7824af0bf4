import CircuitBreaker.Proofs.RoundTrip

namespace CircuitBreaker.Json

def Clean (s : List Char) : Prop := ∀ c ∈ s, 32 ≤ c.toNat

theorem clean_append {s t : List Char} (hs : Clean s) (ht : Clean t) : Clean (s ++ t) :=
  List.forall_mem_append.mpr ⟨hs, ht⟩

theorem clean_flatMap {α : Type} {xs : List α} {f : α → List Char} (h : ∀ x ∈ xs, Clean (f x)) :
    Clean (xs.flatMap f) := by
  intro c hc
  obtain ⟨x, hx, hcx⟩ := List.mem_flatMap.mp hc
  exact h x hx c hcx

theorem clean_hexDigit : ∀ n < 16, 32 ≤ (hexDigit n).toNat := by decide

theorem clean_escape (c : Char) : Clean (escape c) := by
  unfold escape
  split
  case h_8 =>
    split
    · next hcontrol =>
      have hhigh := clean_hexDigit (c.toNat / 16) (by omega)
      have hlow := clean_hexDigit (c.toNat % 16) (by omega)
      simp [Clean, hhigh, hlow]
    · next hcontrol =>
      have hc : 32 ≤ c.toNat := by omega
      simpa [Clean] using hc
  all_goals simp [Clean]

theorem clean_quote (s : String) : Clean (quote s) := by
  have hmark : Clean ['"'] := by simp [Clean]
  exact clean_append (clean_append hmark (clean_flatMap fun c _ => clean_escape c)) hmark

theorem clean_render (v : Scalar) : Clean v.render := by
  cases v with
  | null => simp [Scalar.render, Clean]
  | flag b => cases b <;> simp [Scalar.render, Clean]
  | number n =>
    intro c hc
    have hdigit := ((numeral_toDigits n).digits c hc).1
    exact Nat.le_trans (by decide) (UInt32.le_iff_toNat_le.mp hdigit)
  | text s => exact clean_quote s

/-! A text can be told from what follows it, and so can each part of a record. -/

theorem quote_append_inj {s t : String} {rest rest' : List Char} (h : quote s ++ rest = quote t ++ rest') :
    s = t ∧ rest = rest' := by
  -- The reader gives back the text and what follows it, so it settles both at once.
  have hread (u : String) (after : List Char) : textBody (escapeAll u.toList ++ '"' :: after) = .ok (u.toList, after) :=
    textBody_eq_ok_iff.mpr ⟨_, rfl, textForm_escapeAll u.toList⟩
  have hbody : escapeAll s.toList ++ '"' :: rest = escapeAll t.toList ++ '"' :: rest' := by
    simpa [quote] using h
  have hsame := (hread s rest).symm.trans ((congrArg textBody hbody).trans (hread t rest'))
  obtain ⟨hchars, hrest⟩ := Prod.mk.inj (Except.ok.inj hsame)
  exact ⟨String.toList_inj.mp hchars, hrest⟩

theorem toDigits_append_inj {m n : Nat} {rest rest' : List Char} (hr : Number.Ends rest) (hr' : Number.Ends rest')
    (h : Nat.toDigits 10 m ++ rest = Nat.toDigits 10 n ++ rest') : m = n ∧ rest = rest' := by
  -- The reader stops before it passes its limit, so the limit must leave room for both numbers.
  have hread (k : Nat) (hk : k ≤ m + n) {after : List Char} (ha : Number.Ends after) :
      Number.takeDigits (m + n) 0 0 (Nat.toDigits 10 k ++ after) = (k, 0 + (Nat.toDigits 10 k).length, after) := by
    have hvalue : Nat.ofDigitChars 10 (Nat.toDigits 10 k) 0 = k := Nat.ofDigitChars_ten_toDigits
    have htaken : Number.takeDigits (m + n) 0 0 (Nat.toDigits 10 k ++ after) = _ :=
      Number.takeDigits_append (numeral_toDigits k).isDigit (by rwa [hvalue]) (Number.ends_iff.mp ha).1
    rwa [hvalue] at htaken
  have hsame := (hread m (by omega) hr).symm.trans
    ((congrArg (Number.takeDigits (m + n) 0 0) h).trans (hread n (by omega) hr'))
  simp only [Prod.mk.injEq] at hsame
  exact ⟨hsame.1, hsame.2.2⟩

theorem toDigits_append_ne {n : Nat} {rest cs : List Char} {c : Char} (hc : c.isDigit = false) :
    Nat.toDigits 10 n ++ rest ≠ c :: cs := by
  intro h
  obtain ⟨d, ds, hd⟩ := List.exists_cons_of_ne_nil (numeral_toDigits n).nonempty
  have hdigit := (numeral_toDigits n).isDigit d (by simp [hd])
  rw [hd] at h
  obtain ⟨rfl, -⟩ := List.cons.inj h
  cases hdigit.symm.trans hc

theorem render_append_inj {v w : Scalar} {rest rest' : List Char} (hr : Number.Ends rest) (hr' : Number.Ends rest')
    (h : v.render ++ rest = w.render ++ rest') : v = w ∧ rest = rest' := by
  match v, w with
  | .number m, .number n =>
    obtain ⟨rfl, hrest⟩ := toDigits_append_inj hr hr' h
    exact ⟨rfl, hrest⟩
  | .text s, .text t =>
    obtain ⟨rfl, hrest⟩ := quote_append_inj h
    exact ⟨rfl, hrest⟩
  | .number m, .null | .number m, .flag true | .number m, .flag false | .number m, .text _ =>
    exact absurd h (toDigits_append_ne rfl)
  | .null, .number m | .flag true, .number m | .flag false, .number m | .text _, .number m =>
    exact absurd h.symm (toDigits_append_ne rfl)
  | .null, .null | .flag true, .flag true | .flag false, .flag false => simpa [Scalar.render] using h
  | .null, .flag true | .null, .flag false | .null, .text _ | .flag true, .null | .flag true, .flag false
  | .flag true, .text _ | .flag false, .null | .flag false, .flag true | .flag false, .text _ | .text _, .null
  | .text _, .flag true | .text _, .flag false => simp [Scalar.render, quote] at h

namespace Record

theorem field_append_inj {e e' : String × Scalar} {rest rest' : List Char} (hr : Number.Ends rest)
    (hr' : Number.Ends rest') (h : field [':'] e ++ rest = field [':'] e' ++ rest') : e = e' ∧ rest = rest' := by
  obtain ⟨key, v⟩ := e
  obtain ⟨key', w⟩ := e'
  simp only [field, List.append_assoc] at h
  obtain ⟨rfl, htail⟩ := quote_append_inj h
  obtain ⟨rfl, hrest⟩ := render_append_inj hr hr' (List.cons.inj htail).2
  exact ⟨rfl, hrest⟩

def others (r : Record) : List Char := r.flatMap (fun e => ',' :: field [':'] e) ++ ['}']

theorem compactChars_cons (e : String × Scalar) (r : Record) :
    compactChars (e :: r) = '{' :: (field [':'] e ++ others r) := by
  have hjoin (x : List Char) (xs : List (List Char)) :
      [','].intercalate (x :: xs) = x ++ xs.flatMap (',' :: ·) := by
    induction xs generalizing x with
    | nil => simp
    | cons y ys ih => rw [List.intercalate_cons_cons, ih]; simp
  simp [compactChars, others, hjoin, List.flatMap_map]

theorem ends_others (r : Record) : Number.Ends (others r) := by
  cases r <;> simp [others, Number.Ends, Number.isMark]

theorem others_injective {r r' : Record} (h : others r = others r') : r = r' := by
  induction r generalizing r' with
  | nil => cases r' with
    | nil => rfl
    | cons e' r' => simp [others] at h
  | cons e r ih => cases r' with
    | nil => simp [others] at h
    | cons e' r' =>
      have hfields : field [':'] e ++ others r = field [':'] e' ++ others r' := by simpa [others] using h
      obtain ⟨rfl, hothers⟩ := field_append_inj (ends_others r) (ends_others r') hfields
      rw [ih hothers]

theorem compact_injective : Function.Injective compact := by
  intro r r' h
  have hchars : compactChars r = compactChars r' := String.ofList_injective h
  match r, r' with
  | [], [] => rfl
  | [], e' :: r' =>
    rw [compactChars_cons] at hchars
    simp [compactChars, field, quote] at hchars
  | e :: r, [] =>
    rw [compactChars_cons] at hchars
    simp [compactChars, field, quote] at hchars
  | e :: r, e' :: r' =>
    rw [compactChars_cons, compactChars_cons] at hchars
    obtain ⟨rfl, hothers⟩ := field_append_inj (ends_others r) (ends_others r') (List.cons.inj hchars).2
    rw [others_injective hothers]

theorem clean_compact (r : Record) : Clean r.compact.toList := by
  have hfield (e : String × Scalar) : Clean (field [':'] e) := by
    have hcolon : Clean [':'] := by simp [Clean]
    exact clean_append (clean_append (clean_quote _) hcolon) (clean_render _)
  have hclose : Clean ['}'] := by simp [Clean]
  rw [compact, String.toList_ofList]
  cases r with
  | nil => simp [compactChars, Clean]
  | cons e r =>
    rw [compactChars_cons]
    refine List.forall_mem_cons.mpr ⟨by decide, clean_append (hfield e) (clean_append ?_ hclose)⟩
    exact clean_flatMap fun e _ => List.forall_mem_cons.mpr ⟨by decide, hfield e⟩

end Record

end CircuitBreaker.Json
