namespace CircuitBreaker.Text

def decimalValue (digits : List Char) : Nat :=
  digits.foldl (fun value c => value * 10 + (c.toNat - 48)) 0

def withoutPlus : List Char → List Char
  | '+' :: cs => cs
  | cs => cs

def wholeNumber? (s : List Char) : Option Nat :=
  let digits := withoutPlus s
  if digits ≠ [] ∧ digits.all Char.isDigit ∧ decimalValue digits < UInt64.size then some (decimalValue digits)
  else none

end CircuitBreaker.Text
