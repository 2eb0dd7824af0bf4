import CircuitBreaker.Json.Fault

namespace CircuitBreaker.Json.Number

def wordLimit : Nat := UInt64.size - 1

def exponentLimit : Nat := UInt32.size / 2 - 1

def takeDigits (limit value count : Nat) : List Char → Nat × Nat × List Char
  | [] => (value, count, [])
  | c :: cs =>
    if c.isDigit ∧ value * 10 + (c.toNat - 48) ≤ limit then
      takeDigits limit (value * 10 + (c.toNat - 48)) (count + 1) cs
    else (value, count, c :: cs)

def startsWithDigit : List Char → Bool
  | [] => false
  | c :: _ => c.isDigit

def skipDigits (cs : List Char) : List Char := cs.dropWhile Char.isDigit

def shrink : Nat → Double → Double
  | 0, d => d
  | n + 1, d => if d.isZero then d else shrink n (d.div (.powerOfTen 308))

def scale (significand : Nat) (e : Int) : Option Double :=
  let d := Double.nearest significand 1
  if e < -308 then
    let times := ((-e).toNat - 1) / 308
    let d := shrink times d
    some (if d.isZero then d else d.div (.powerOfTen ((-e).toNat - times * 308)))
  else if e < 0 then some (d.div (.powerOfTen (-e).toNat))
  else if d.isZero then some d
  else if 308 < e then none
  else
    let product := d.mul (.powerOfTen e.toNat)
    if product.isInfinite then none else some product

def finish (sign : Bool) (significand : Nat) (e : Int) (rest : List Char) : Reading Number :=
  match scale significand e with
  | none => .error ⟨.numberTooLarge, rest, 0⟩
  | some d => .ok (.decimal sign d, rest)

def hugeExponent (sign : Bool) (significand : Nat) (up : Bool) (rest : List Char) : Reading Number :=
  if significand ≠ 0 ∧ up then .error ⟨.numberTooLarge, rest, 0⟩
  else .ok (.decimal sign ⟨0, -1074⟩, skipDigits rest)

def exponentDigits (sign : Bool) (significand : Nat) (e : Int) (up : Bool) (cs : List Char) : Reading Number :=
  match takeDigits exponentLimit 0 0 cs with
  | (_, 0, []) => .error ⟨.endOfValue, [], 0⟩
  | (_, 0, rest) => .error ⟨.badNumber, rest, 1⟩
  | (value, _, rest) =>
    if startsWithDigit rest then hugeExponent sign significand up rest.tail
    else finish sign significand (if up then e + value else e - value) rest

def exponent (sign : Bool) (significand : Nat) (e : Int) : List Char → Reading Number
  | '+' :: cs => exponentDigits sign significand e true cs
  | '-' :: cs => exponentDigits sign significand e false cs
  | cs => exponentDigits sign significand e true cs

def exponentOrEnd (sign : Bool) (significand : Nat) (e : Int) : List Char → Reading Number
  | 'e' :: cs => exponent sign significand e cs
  | 'E' :: cs => exponent sign significand e cs
  | cs => finish sign significand e cs

def fraction (sign : Bool) (significand : Nat) (e : Int) (cs : List Char) : Reading Number :=
  let (significand, count, rest) := takeDigits wordLimit significand 0 cs
  if startsWithDigit rest then exponentOrEnd sign significand (e - count) (skipDigits rest)
  else if count = 0 then
    .error ⟨if rest.isEmpty then .endOfValue else .badNumber, rest, 1⟩
  else exponentOrEnd sign significand (e - count) rest

def fractionOrEnd (sign : Bool) (significand : Nat) (e : Int) : List Char → Reading Number
  | '.' :: cs => fraction sign significand e cs
  | cs => exponentOrEnd sign significand e cs

def whole (sign : Bool) (significand : Nat) : Number :=
  if !sign then .natural significand
  else if 1 ≤ significand ∧ significand ≤ UInt64.size / 2 then .negative significand
  else .decimal true (.nearest significand 1)

def isMark (c : Char) : Bool := c = '.' || c = 'e' || c = 'E'

def wholeOrMore (sign : Bool) (significand : Nat) (rest : List Char) : Reading Number :=
  match rest with
  | [] => .ok (whole sign significand, [])
  | c :: _ =>
    if isMark c then fractionOrEnd sign significand 0 rest else .ok (whole sign significand, rest)

def read (sign : Bool) : List Char → Reading Number
  | [] => .error ⟨.endOfValue, [], 0⟩
  | '0' :: cs => if startsWithDigit cs then .error ⟨.badNumber, cs, 1⟩ else wholeOrMore sign 0 cs
  | c :: cs =>
    if !c.isDigit then .error ⟨.badNumber, c :: cs, 1⟩
    else
      let (significand, _, rest) := takeDigits wordLimit 0 0 (c :: cs)
      if startsWithDigit rest then
        let after := skipDigits rest
        fractionOrEnd sign significand (rest.length - after.length : Nat) after
      else wholeOrMore sign significand rest

end CircuitBreaker.Json.Number
