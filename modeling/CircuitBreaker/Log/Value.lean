import CircuitBreaker.Pattern.Support

namespace CircuitBreaker.Log.Value

def lowerCase (c : Char) : Char := if 'A' ≤ c ∧ c ≤ 'Z' then Char.ofNat (c.toNat + 32) else c

def isSpecialNumber (cs : List Char) : Bool :=
  ["inf", "infinity", "nan"].contains (String.ofList (cs.map lowerCase))

def isDecimal (cs : List Char) : Bool :=
  let (whole, rest) := cs.span Char.isDigit
  let (fraction, rest) := match rest with
    | '.' :: rest => rest.span Char.isDigit
    | rest => ([], rest)
  (whole ≠ [] || fraction ≠ []) && match rest with
    | [] => true
    | e :: sign :: rest =>
      let digits := if sign = '+' ∨ sign = '-' then rest else sign :: rest
      (e = 'e' || e = 'E') && digits ≠ [] && digits.all Char.isDigit
    | _ => false

def isWellFormed (cs : List Char) : Bool :=
  match cs with
  | '+' :: number => isSpecialNumber number || isDecimal number
  | cs => Pattern.isSupported cs

end CircuitBreaker.Log.Value
