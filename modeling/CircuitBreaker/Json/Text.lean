import CircuitBreaker.Json.Fault
import CircuitBreaker.Text.Hexadecimal

namespace CircuitBreaker.Json

def fourDigits : List Char → Option (Nat × List Char)
  | a :: b :: c :: d :: rest => do
    let a ← Text.hexValue a
    let b ← Text.hexValue b
    let c ← Text.hexValue c
    let d ← Text.hexValue d
    return (((a * 16 + b) * 16 + c) * 16 + d, rest)
  | _ => none

def hexUnit (s : List Char) : Reading Nat :=
  match fourDigits s with
  | some found => .ok found
  | none => .error (if byteSize s < 4 then ⟨.endOfText, [], 0⟩ else ⟨.badEscape, s, 4⟩)

def isHigh (unit : Nat) : Bool := 0xD800 ≤ unit && unit ≤ 0xDBFF

def isLow (unit : Nat) : Bool := 0xDC00 ≤ unit && unit ≤ 0xDFFF

def pairedChar (high low : Nat) : Char := Char.ofNat (0x10000 + (high - 0xD800) * 0x400 + (low - 0xDC00))

def lowSurrogate (high : Nat) : List Char → Reading Char
  | [] => .error ⟨.endOfText, [], 0⟩
  | [c] => .error (if c = '\\' then ⟨.endOfText, [], 0⟩ else ⟨.unpairedSurrogate, [c], 1⟩)
  | c :: d :: cs =>
    if c = '\\' then
      if d = 'u' then
        match hexUnit cs with
        | .error f => .error f
        | .ok (low, rest) =>
          if isLow low then .ok (pairedChar high low, rest) else .error ⟨.loneSurrogate, rest, 0⟩
      else .error ⟨.unpairedSurrogate, d :: cs, 1⟩
    else .error ⟨.unpairedSurrogate, c :: d :: cs, 1⟩

def unicodeEscape (s : List Char) : Reading Char :=
  match hexUnit s with
  | .error f => .error f
  | .ok (unit, rest) =>
    if isLow unit then .error ⟨.loneSurrogate, rest, 0⟩
    else if isHigh unit then lowSurrogate unit rest
    else .ok (Char.ofNat unit, rest)

def shortEscape : Char → Option Char
  | '"' => some '"'
  | '\\' => some '\\'
  | '/' => some '/'
  | 'b' => some '\x08'
  | 'f' => some '\x0c'
  | 'n' => some '\n'
  | 'r' => some '\r'
  | 't' => some '\t'
  | _ => none

def escapeSequence : List Char → Reading Char
  | [] => .error ⟨.endOfText, [], 0⟩
  | c :: cs =>
    if c = 'u' then unicodeEscape cs
    else
      match shortEscape c with
      | some d => .ok (d, cs)
      | none => .error ⟨.badEscape, c :: cs, 1⟩

theorem fourDigits_length {s rest : List Char} {n : Nat} (h : fourDigits s = some (n, rest)) :
    rest.length + 4 = s.length := by
  unfold fourDigits at h
  split at h
  · simp only [Option.bind_eq_bind, Option.bind_eq_some_iff, Option.pure_def, Option.some.injEq,
      Prod.mk.injEq] at h
    obtain ⟨_, _, _, _, _, _, _, _, _, rfl⟩ := h
    rfl
  · simp at h

theorem hexUnit_length {s rest : List Char} {n : Nat} (h : hexUnit s = .ok (n, rest)) :
    rest.length + 4 = s.length := by
  unfold hexUnit at h
  split at h
  · next found hf =>
    cases h
    exact fourDigits_length hf
  · simp at h

theorem lowSurrogate_length {s rest : List Char} {high : Nat} {c : Char}
    (h : lowSurrogate high s = .ok (c, rest)) : rest.length + 6 = s.length := by
  match s with
  | [] | [_] => simp [lowSurrogate] at h
  | a :: b :: cs =>
    simp only [lowSurrogate] at h
    split at h
    · split at h
      · split at h
        · simp at h
        · next hu =>
          split at h
          · simp only [Except.ok.injEq, Prod.mk.injEq] at h
            obtain ⟨_, rfl⟩ := h
            have := hexUnit_length hu
            simp only [List.length_cons]
            omega
          · simp at h
      · simp at h
    · simp at h

theorem unicodeEscape_length {s rest : List Char} {c : Char} (h : unicodeEscape s = .ok (c, rest)) :
    rest.length < s.length := by
  unfold unicodeEscape at h
  split at h
  · simp at h
  · next hu =>
    have := hexUnit_length hu
    split at h
    · simp at h
    · split at h
      · have := lowSurrogate_length h
        omega
      · cases h
        omega

theorem escapeSequence_length {s rest : List Char} {c : Char} (h : escapeSequence s = .ok (c, rest)) :
    rest.length < s.length := by
  unfold escapeSequence at h
  split at h
  · simp at h
  · split at h
    · have := unicodeEscape_length h
      simp only [List.length_cons]
      omega
    · split at h
      · cases h
        simp
      · simp at h

def textBody (s : List Char) : Reading (List Char) :=
  match s with
  | [] => .error ⟨.endOfText, [], 0⟩
  | c :: cs =>
    if c = '"' then .ok ([], cs)
    else if c = '\\' then
      match _h : escapeSequence cs with
      | .error f => .error f
      | .ok (d, rest) =>
        match textBody rest with
        | .error f => .error f
        | .ok (body, rest) => .ok (d :: body, rest)
    else if c.toNat < 32 then .error ⟨.controlCharacter, cs, 0⟩
    else
      match textBody cs with
      | .error f => .error f
      | .ok (body, rest) => .ok (c :: body, rest)
termination_by s.length
decreasing_by
  · have := escapeSequence_length _h
    simp only [List.length_cons]
    omega
  · simp

end CircuitBreaker.Json
