namespace CircuitBreaker.Json

/-- The binary64 number `mantissa * 2 ^ exponent`. The mantissa is below `2 ^ 53`, and at least `2 ^ 52`
unless the exponent is -1074, the least there is. -/
structure Double where
  mantissa : Nat
  exponent : Int
deriving DecidableEq

namespace Double

def roundDiv (num den : Nat) : Nat :=
  let q := num / den
  let r := num % den
  if den < 2 * r ∨ (2 * r = den ∧ q % 2 = 1) then q + 1 else q

def scaled (num den : Nat) (e : Int) : Nat × Nat :=
  if 0 ≤ e then (num, den <<< e.toNat) else (num <<< (-e).toNat, den)

def roundAt (num den : Nat) (e : Int) : Double :=
  let (n, d) := scaled num den e
  let m := roundDiv n d
  if m = 1 <<< 53 then ⟨1 <<< 52, e + 1⟩ else ⟨m, e⟩

def nearest (num den : Nat) : Double :=
  let low := max ((num.log2 : Int) - den.log2 - 53) (-1074)
  let (n, d) := scaled num den low
  if num = 0 then ⟨0, -1074⟩
  else if n / d < 1 <<< 53 then roundAt num den low
  else roundAt num den (low + 1)

def isZero (d : Double) : Bool := d.mantissa = 0

def isInfinite (d : Double) : Bool := 971 < d.exponent

def ratio (d : Double) : Nat × Nat :=
  if 0 ≤ d.exponent then (d.mantissa <<< d.exponent.toNat, 1)
  else (d.mantissa, 1 <<< (-d.exponent).toNat)

def mul (a b : Double) : Double := nearest (a.ratio.1 * b.ratio.1) (a.ratio.2 * b.ratio.2)

def div (a b : Double) : Double := nearest (a.ratio.1 * b.ratio.2) (a.ratio.2 * b.ratio.1)

def powerOfTen (n : Nat) : Double := nearest (.pow 10 n) 1

structure Decimal where
  digits : List Char
  exponent : Int
deriving DecidableEq

def magnitude (num den : Nat) : Int :=
  if den ≤ num then ((Nat.toDigits 10 (num / den)).length : Int) - 1
  else -((Nat.toDigits 10 ((den + num - 1) / num - 1)).length : Int)

/-- Whether the decimal `digits * 10 ^ e` reads back as `d`: it lies no further away than the middle of
the gap to the next number, and on it only if the mantissa is even. -/
def readsBack (d : Double) (digits : Nat) (e : Int) : Bool :=
  let (num, den) := if 0 ≤ e then (digits * .pow 10 e.toNat, 1) else (digits, .pow 10 (-e).toNat)
  let (n, q) := scaled num den (d.exponent - 2)
  let above := (4 * d.mantissa + 2) * q
  let below := (if d.mantissa = 1 <<< 52 ∧ d.exponent ≠ -1074 then 4 * d.mantissa - 1
    else 4 * d.mantissa - 2) * q
  if d.mantissa % 2 = 0 then below ≤ n && n ≤ above else below < n && n < above

def candidate (d : Double) (places : Nat) : Option (Nat × Int) :=
  let (num, den) := d.ratio
  let e := magnitude num den - places + 1
  let (n, q) := if 0 ≤ e then (num, den * .pow 10 e.toNat) else (num * .pow 10 (-e).toNat, den)
  let down := n / q
  let near := roundDiv n q
  let far := if near = down then down + 1 else down
  if d.readsBack near e then some (near, e)
  else if d.readsBack far e then some (far, e)
  else none

def shortest (d : Double) : Decimal :=
  if d.mantissa = 0 then ⟨['0'], 0⟩
  else
    let found := (List.range 17).findSome? fun n => d.candidate (n + 1)
    let (value, e) := found.getD (0, 0)
    let digits := Nat.toDigits 10 value
    ⟨((digits.reverse.dropWhile (· = '0')).reverse), e + digits.length - 1⟩

structure Layout where
  low : Int
  high : Int

def layout : Layout := ⟨-5, 16⟩

def exponentText (e : Int) : List Char :=
  (if e < 0 then ['e', '-'] else ['e', '+']) ++ Nat.toDigits 10 e.natAbs

def Decimal.text (d : Decimal) (l : Layout) : List Char :=
  if l.low ≤ d.exponent ∧ d.exponent < l.high then
    if d.exponent < 0 then
      ['0', '.'] ++ List.replicate (d.exponent.natAbs - 1) '0' ++ d.digits
    else
      let whole := d.exponent.toNat + 1
      let digits := d.digits ++ List.replicate (whole + 1 - d.digits.length) '0'
      digits.take whole ++ ['.'] ++ digits.drop whole
  else
    match d.digits with
    | [] => []
    | [c] => c :: exponentText d.exponent
    | c :: cs => c :: '.' :: cs ++ exponentText d.exponent

def text (d : Double) : String := String.ofList (d.shortest.text layout)

end Double

end CircuitBreaker.Json
