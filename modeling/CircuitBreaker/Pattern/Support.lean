import CircuitBreaker.Pattern.Reader

namespace CircuitBreaker.Pattern

structure Mode where
  caseless : Bool := false
  unicode : Bool := true
deriving DecidableEq

def Mode.under (m : Mode) (s : Switches) : Mode :=
  { caseless := s.caseless.getD m.caseless, unicode := s.unicode.getD m.unicode }

inductive Extent
  | nothing
  | something
  | everything
deriving DecidableEq

namespace Extent

def union : Extent → Extent → Extent
  | nothing, e | e, nothing => e
  | everything, everything => everything
  | _, _ => something

def complement : Extent → Extent
  | nothing => everything
  | something => something
  | everything => nothing

def intersection : Extent → Extent → Extent
  | nothing, _ | _, nothing => nothing
  | everything, everything => everything
  | _, _ => something

def difference : Extent → Extent → Extent
  | nothing, _ => nothing
  | e, nothing => e
  | everything, everything => nothing
  | _, _ => something

def symmetricDifference : Extent → Extent → Extent
  | nothing, e | e, nothing => e
  | everything, everything => nothing
  | _, _ => something

/-- Without tables of letter cases only a set that has every character or none can disregard case. -/
def fold? (m : Mode) (e : Extent) : Option Extent :=
  if m.caseless ∧ m.unicode ∧ e = something then none else some e

def close? (m : Mode) (negated : Bool) (e : Extent) : Option Extent :=
  (e.fold? m).bind fun e =>
    if !negated then some e else if m.unicode then some e.complement else none

end Extent

def Operation.apply : Operation → Extent → Extent → Extent
  | intersection => Extent.intersection
  | difference => Extent.difference
  | symmetricDifference => Extent.symmetricDifference

namespace Literal

def isAscii (l : Literal) : Bool := l.char.toNat < 0x80

def member? (m : Mode) (l : Literal) : Option Extent :=
  if m.unicode ∨ l.isAscii then some .something else none

def isSupported (m : Mode) (l : Literal) : Bool :=
  if m.unicode then !m.caseless else !l.byte || l.isAscii

end Literal

def shorthand? (m : Mode) (negated : Bool) : Option Extent :=
  if m.unicode ∨ negated then none else some .something

mutual

def ClassSet.extent? (m : Mode) : ClassSet → Option Extent
  | empty => some .nothing
  | literal l => l.member? m
  | range first last => (first.member? m).bind fun _ => last.member? m
  | named negated => Extent.something.close? m negated
  | shorthand negated => shorthand? m negated
  | bracketed negated s => (s.extent? m).bind (·.close? m negated)
  | union items => ClassSet.extentAll? m items
  | operation o left right => do
    let left ← (← left.extent? m).fold? m
    let right ← (← right.extent? m).fold? m
    return o.apply left right

def ClassSet.extentAll? (m : Mode) : List ClassSet → Option Extent
  | [] => some .nothing
  | s :: items => do return (← s.extent? m).union (← ClassSet.extentAll? m items)

end

def Mode.when (m : Mode) (supported : Bool) : Option Mode := if supported then some m else none

mutual

def Node.after? (m : Mode) : Node → Option Mode
  | empty | anchor => some m
  | setting s => some (m.under s)
  | literal l => m.when (l.isSupported m)
  | dot => m.when m.unicode
  | boundary => m.when !m.unicode
  | shorthand negated => m.when (shorthand? m negated).isSome
  | bracketed negated s => m.when ((s.extent? m).bind (·.close? m negated)).isSome
  | repeated n => n.after? m
  | group s n => m.when (n.after? (m.under s)).isSome
  | sequence ns | choice ns => Node.afterAll? m ns

def Node.afterAll? (m : Mode) : List Node → Option Mode
  | [] => some m
  | n :: ns => (n.after? m).bind fun m => Node.afterAll? m ns

end

def isSupported (cs : List Char) : Bool :=
  match read? cs with
  | none => false
  | some n => n.depth ≤ depthLimit && (n.after? {}).isSome

end CircuitBreaker.Pattern
