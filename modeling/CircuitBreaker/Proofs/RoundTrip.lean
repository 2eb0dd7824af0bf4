import CircuitBreaker.Proofs.Layers

namespace CircuitBreaker

namespace Json

theorem hexDigit_hexDigit : ∀ n < 16, HexDigit (hexDigit n) n := by
  unfold HexDigit
  decide

theorem hexForm_of_lt {n : Nat} (h : n < 256) : HexForm ['0', '0', hexDigit (n / 16), hexDigit (n % 16)] n := by
  have hzero : HexDigit '0' 0 := .inl rfl
  have hform : HexForm ['0', '0', hexDigit (n / 16), hexDigit (n % 16)] (((0 * 16 + 0) * 16 + n / 16) * 16 + n % 16) :=
    .four hzero hzero (hexDigit_hexDigit _ (by omega)) (hexDigit_hexDigit _ (by omega))
  rwa [show ((0 * 16 + 0) * 16 + n / 16) * 16 + n % 16 = n by omega] at hform

theorem charForm_escape (c : Char) : CharForm (escape c) c := by
  unfold escape
  split
  case h_8 hquote hbackslash _ _ _ _ _ =>
    split
    · exact .unit (hexForm_of_lt (by omega))
    · next h => exact .plain hquote hbackslash (by omega)
  all_goals exact .short (by decide)

theorem textForm_escapeAll (s : List Char) : TextForm (escapeAll s) s := by
  induction s with
  | nil => exact .nil
  | cons c cs ih => exact .cons (charForm_escape c) ih

theorem form_quote (s : String) : Token.Form (.text s) (quote s) := .text (textForm_escapeAll s.toList)

end Json

namespace Settings

open Json

def layout (s : Settings) (indent gap close after : List Char) : List Char :=
  ['{'] ++ (indent ++ quote Field.name.key ++ ([':'] ++ (gap ++ quote s.name ++ ([','] ++
    (indent ++ quote Field.timeout.key ++ ([':'] ++ (gap ++ Nat.toDigits 10 s.resetTimeout.millis.toNat ++
      (close ++ ['}'] ++ after))))))))

variable {s : Settings} {indent gap close after : List Char}

theorem compactChars_eq : s.record.compactChars = s.layout [] [] [] [] := by
  simp [Record.compactChars, record, Record.field, layout, Scalar.render, Field.key, List.intercalate_cons_cons]

theorem prettyChars_append : s.record.prettyChars ++ after = s.layout ['\n', ' ', ' '] [' '] ['\n'] after := by
  simp [Record.prettyChars, record, Record.field, layout, Scalar.render, Field.key, List.intercalate_cons_cons]

theorem describes_layout (hindent : ∀ c ∈ indent, c ∈ spaces) (hgap : ∀ c ∈ gap, c ∈ spaces)
    (hclose : ∀ c ∈ close, c ∈ spaces) (hafter : ∀ c ∈ after, c ∈ spaces) :
    Given.Describes { name := some s.name, timeout := some s.resetTimeout.millis.toNat }
      (String.ofList (s.layout indent gap close after)).toList := by
  rw [String.toList_ofList]
  have hnone : ∀ c ∈ [], c ∈ spaces := by simp
  have hnumber := Token.Form.natural (numeral_toDigits s.resetTimeout.millis.toNat) s.resetTimeout.millis.toNat_lt_size
  refine ⟨_, .object [.name s.name, .timeout s.resetTimeout.millis.toNat] (by simp [Given.Member.key]), ?_⟩
  exact .cons hnone .openBrace <| .cons hindent (form_quote _) <| .cons hnone .colon <| .cons hgap (form_quote _) <|
    .cons hnone .comma <| .cons hindent (form_quote _) <| .cons hnone .colon <| .cons hgap hnumber <|
    .cons hclose .closeBrace <| .nil hafter

theorem ofDocument_layout (hindent : ∀ c ∈ indent, c ∈ spaces) (hgap : ∀ c ∈ gap, c ∈ spaces)
    (hclose : ∀ c ∈ close, c ∈ spaces) (hafter : ∀ c ∈ after, c ∈ spaces) :
    ofDocument (String.ofList (s.layout indent gap close after)) =
      validate ⟨s.name, .ofMillis (min (s.resetTimeout.nanos / 1000000) (UInt64.size - 1))⟩ := by
  rw [ofDocument_of_describes (describes_layout hindent hgap hclose hafter), settings_eq, ← Duration.toNat_millis]
  rfl

theorem ofDocument_compact : ofDocument s.record.compact =
    validate ⟨s.name, .ofMillis (min (s.resetTimeout.nanos / 1000000) (UInt64.size - 1))⟩ := by
  rw [Record.compact, compactChars_eq]
  exact ofDocument_layout (by simp) (by simp) (by simp) (by simp)

theorem ofDocument_pretty (hafter : ∀ c ∈ after, c ∈ spaces) :
    ofDocument (String.ofList (s.record.prettyChars ++ after)) =
      validate ⟨s.name, .ofMillis (min (s.resetTimeout.nanos / 1000000) (UInt64.size - 1))⟩ := by
  rw [prettyChars_append]
  exact ofDocument_layout (by simp [spaces]) (by simp [spaces]) (by simp [spaces]) hafter

theorem ofDocument_text {text : String} (h : text ∈ [s.record.compact, s.record.pretty]) : ofDocument text =
    validate ⟨s.name, .ofMillis (min (s.resetTimeout.nanos / 1000000) (UInt64.size - 1))⟩ := by
  simp only [List.mem_cons, List.not_mem_nil, or_false] at h
  rcases h with rfl | rfl
  · exact ofDocument_compact
  · rw [Record.pretty, ← List.append_nil s.record.prettyChars]
    exact ofDocument_pretty (by simp)

theorem Sound.validate (h : s.Sound) :
    Settings.validate ⟨s.name, .ofMillis (min (s.resetTimeout.nanos / 1000000) (UInt64.size - 1))⟩ = .ok s := by
  obtain ⟨hname, n, hn, htimeout⟩ := h
  have hle : n ≤ UInt64.size - 1 := Nat.le_sub_one_of_lt hn
  have hmillis : min ((Duration.ofMillis n).nanos / 1000000) (UInt64.size - 1) = n := by
    rw [Duration.ofMillis, Nat.mul_div_cancel n (by decide), Nat.min_eq_left hle]
  rw [htimeout, hmillis, ← htimeout]
  exact validate_of_not_blank hname

end Settings

end CircuitBreaker
