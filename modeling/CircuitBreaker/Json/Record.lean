import CircuitBreaker.Json.Quoted

namespace CircuitBreaker.Json

inductive Scalar
  | null
  | flag (b : Bool)
  | number (n : Nat)
  | text (s : String)
deriving DecidableEq

def Scalar.render : Scalar → List Char
  | null => ['n', 'u', 'l', 'l']
  | flag true => ['t', 'r', 'u', 'e']
  | flag false => ['f', 'a', 'l', 's', 'e']
  | number n => Nat.toDigits 10 n
  | text s => quote s

def Scalar.ofOption : Option String → Scalar
  | none => null
  | some s => text s

abbrev Record := List (String × Scalar)

namespace Record

def field (colon : List Char) (entry : String × Scalar) : List Char :=
  quote entry.1 ++ colon ++ entry.2.render

def compactChars (r : Record) : List Char :=
  '{' :: [','].intercalate (r.map (field [':'])) ++ ['}']

def prettyChars (r : Record) : List Char :=
  if r.isEmpty then ['{', '}']
  else ['{', '\n', ' ', ' '] ++
    [',', '\n', ' ', ' '].intercalate (r.map (field [':', ' '])) ++ ['\n', '}']

def compact (r : Record) : String := String.ofList r.compactChars

def pretty (r : Record) : String := String.ofList r.prettyChars

end Record

end CircuitBreaker.Json
