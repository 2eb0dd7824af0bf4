import CircuitBreaker.Pattern.Basic
import CircuitBreaker.Text.Alphanumeric
import CircuitBreaker.Text.Blank
import CircuitBreaker.Text.Hexadecimal

namespace CircuitBreaker.Pattern

/-- The text still to be read. Where it is verbose, blanks and comments do not count. The names are those of
the groups so far. -/
structure Reader where
  rest : List Char
  verbose : Bool := false
  names : List (List Char) := []

namespace Reader

def moveTo (r : Reader) (cs : List Char) : Reader := { r with rest := cs }

def dropBlanks (inComment : Bool) : List Char → List Char
  | [] => []
  | c :: cs =>
    if inComment then dropBlanks (c ≠ '\n') cs
    else if Text.isBlank c then dropBlanks false cs
    else if c = '#' then dropBlanks true cs
    else c :: cs

def skip (r : Reader) : Reader := if r.verbose then r.moveTo (dropBlanks false r.rest) else r

def peekVerbose (inComment : Bool) : List Char → Option Char
  | [] => none
  | c :: cs =>
    if Text.isBlank c then peekVerbose inComment cs
    else if c = '#' ∧ !inComment then peekVerbose true cs
    else some c

def peek (r : Reader) (cs : List Char) : Option Char :=
  if r.verbose then peekVerbose false cs else cs.head?

def hexNumber : Nat → Reader → Nat → Option (Nat × Reader)
  | 0, r, value => some (value, r)
  | n + 1, r, value =>
    match r.rest with
    | [] => none
    | c :: cs => (Text.hexValue c).bind fun digit => hexNumber n (r.moveTo cs).skip (value * 16 + digit)

def hexDigits? : Char → Option Nat
  | 'x' => some 2
  | 'u' => some 4
  | 'U' => some 8
  | _ => none

def isEscapable (c : Char) : Bool := c.toNat < 0x80 && !c.isAlphanum && c ≠ '<' && c ≠ '>'

def control? : Char → Option Char
  | 'a' => some '\x07'
  | 't' => some '\t'
  | 'n' => some '\n'
  | 'v' => some '\x0b'
  | 'f' => some '\x0c'
  | 'r' => some '\r'
  | _ => none

def lettered? : Char → Option Node
  | 'A' | 'z' => some .anchor
  | 'b' | 'B' | '<' | '>' => some .boundary
  | 'd' | 's' | 'w' => some (.shorthand false)
  | 'D' | 'S' | 'W' => some (.shorthand true)
  | c => (control? c).map fun d => .literal ⟨d, false⟩

def escape (r : Reader) : Option (Node × Reader) :=
  match r.rest with
  | [] => none
  | c :: cs =>
    let next := r.moveTo cs
    match hexDigits? c with
    | some n =>
      (hexNumber n next.skip 0).bind fun (value, r) =>
        if value.isValidChar then some (.literal ⟨Char.ofNat value, n = 2⟩, r) else none
    | none =>
      if isEscapable c then some (.literal ⟨c, false⟩, next) else (lettered? c).map fun n => (n, next)

def classNames : List String :=
  ["alnum", "alpha", "ascii", "blank", "cntrl", "digit", "graph", "lower", "print", "punct", "space",
    "upper", "word", "xdigit"]

def namedClass? : List Char → Option (Bool × List Char)
  | ':' :: cs =>
    let (negated, cs) := match cs with
      | '^' :: cs => (true, cs)
      | cs => (false, cs)
    let (name, rest) := cs.span (· ≠ ':')
    match rest with
    | ':' :: ']' :: rest => if classNames.contains (String.ofList name) then some (negated, rest) else none
    | _ => none
  | _ => none

def operation? : List Char → Option (Operation × List Char)
  | '&' :: '&' :: cs => some (.intersection, cs)
  | '-' :: '-' :: cs => some (.difference, cs)
  | '~' :: '~' :: cs => some (.symmetricDifference, cs)
  | _ => none

def unionOf : List ClassSet → ClassSet
  | [] => .empty
  | [s] => s
  | items => .union items.reverse

def joined (pending : Option (Operation × ClassSet)) (items : List ClassSet) : ClassSet :=
  match pending with
  | none => unionOf items
  | some (o, left) => .operation o left (unionOf items)

def member (r : Reader) : Option (Node × Reader) :=
  match r.rest with
  | [] => none
  | '\\' :: cs => (r.moveTo cs).escape
  | c :: cs => some (.literal ⟨c, false⟩, r.moveTo cs)

def setOf? : Node → Option ClassSet
  | .literal l => some (.literal l)
  | .shorthand negated => some (.shorthand negated)
  | _ => none

def rangeOf? : Node → Node → Option ClassSet
  | .literal first, .literal last => if first.char ≤ last.char then some (.range first last) else none
  | _, _ => none

def memberOrRange (r : Reader) : Option (ClassSet × Reader) := do
  let (first, r) ← r.member
  let r := r.skip
  match r.rest with
  | '-' :: cs =>
    if r.peek cs = some ']' ∨ r.peek cs = some '-' then
      let s ← setOf? first
      return (s, r)
    else
      let (last, r) ← (r.moveTo cs).skip.member
      let s ← rangeOf? first last
      return (s, r)
  | _ =>
    let s ← setOf? first
    return (s, r)

def negation (r : Reader) : Bool × Reader :=
  let r := r.skip
  match r.rest with
  | '^' :: cs => (true, r.moveTo cs)
  | _ => (false, r)

def verbatim (c : Char) : ClassSet := .literal ⟨c, false⟩

/-- Reads a class up to its bracket. Hyphens that lead it, and a bracket that comes first, stand for
themselves. Operations have no precedence. -/
def classBody : Nat → Reader → Bool → Option (Operation × ClassSet) → List ClassSet →
    Option (ClassSet × Reader)
  | 0, _, _, _, _ => none
  | fuel + 1, r, leading, pending, items =>
    let r := r.skip
    match r.rest with
    | [] => none
    | c :: cs =>
      let next := r.moveTo cs
      if leading ∧ c = '-' then classBody fuel next true pending (verbatim '-' :: items)
      else if leading ∧ c = ']' ∧ items.isEmpty then classBody fuel next false pending [verbatim ']']
      else
        match operation? r.rest, c with
        | some (o, cs), _ => classBody fuel (r.moveTo cs) false (some (o, joined pending items)) []
        | none, ']' => some (joined pending items, next)
        | none, '[' =>
          match namedClass? cs with
          | some (negated, cs) => classBody fuel (r.moveTo cs) false pending (.named negated :: items)
          | none => do
            let (negated, r) := next.negation
            let (s, r) ← classBody fuel r true none []
            classBody fuel r false pending (.bracketed negated s :: items)
        | none, _ => do
          let (s, r) ← r.memberOrRange
          classBody fuel r false pending (s :: items)

inductive Opening
  | setting (s : Switches)
  | group (s : Switches)

def isName : List Char → Bool
  | [] => false
  | c :: cs =>
    (c = '_' || Text.isAlphabetic c) &&
      cs.all fun c => c = '_' || c = '.' || c = '[' || c = ']' || Text.isAlphanumeric c

def groupName (r : Reader) : Option (Opening × Reader) :=
  let (name, rest) := r.rest.span (· ≠ '>')
  match rest with
  | [] => none
  | _ :: rest =>
    if isName name ∧ !r.names.contains name then
      some (.group {}, { r with rest, names := name :: r.names })
    else none

def isMark (mark : List Char) : Bool :=
  mark.Nodup && mark.all "imsUuRx-".toList.contains && mark.getLast? ≠ some '-'

def switch (mark : List Char) (letter : Char) : Option Bool :=
  if (mark.takeWhile (· ≠ '-')).contains letter then some true
  else if mark.contains letter then some false
  else none

def switches (mark : List Char) : Switches :=
  { verbose := switch mark 'x', caseless := switch mark 'i', unicode := switch mark 'u' }

def groupSwitches (r : Reader) : Option (Opening × Reader) :=
  let (mark, rest) := r.rest.span fun c => c ≠ ':' ∧ c ≠ ')'
  if !isMark mark then none
  else
    match rest with
    | ':' :: rest => some (.group (switches mark), r.moveTo rest)
    | _ :: rest => if mark.isEmpty then none else some (.setting (switches mark), r.moveTo rest)
    | [] => none

def opening (r : Reader) : Option (Opening × Reader) :=
  let r := r.skip
  match r.rest with
  | '?' :: 'P' :: '<' :: cs => (r.moveTo cs).groupName
  | '?' :: '<' :: cs => (r.moveTo cs).groupName
  | '?' :: cs => (r.moveTo cs).groupSwitches
  | _ => some (.group {}, r)

def afterLazy : List Char → List Char
  | '?' :: cs => cs
  | cs => cs

def sequenceOf : List Node → Node
  | [] => .empty
  | [n] => n
  | ns => .sequence ns.reverse

def choiceOf (branches : List Node) (branch : List Node) : Node :=
  if branches.isEmpty then sequenceOf branch else .choice (sequenceOf branch :: branches).reverse

def repeatLast : List Node → Option (List Node)
  | [] | .setting _ :: _ => none
  | n :: ns => some (.repeated n :: ns)

def primitive (c : Char) (next : Reader) : Option (Node × Reader) :=
  match c with
  | '\\' => next.escape
  | '.' => some (.dot, next)
  | '^' | '$' => some (.anchor, next)
  | c => some (.literal ⟨c, false⟩, next)

def expression : Nat → Reader → List Node → List Node → Option (Node × Reader)
  | 0, _, _, _ => none
  | fuel + 1, r, branches, branch =>
    let r := r.skip
    match r.rest with
    | [] => some (choiceOf branches branch, r)
    | c :: cs =>
      let next := r.moveTo cs
      match c with
      | ')' => some (choiceOf branches branch, r)
      | '|' => expression fuel next (sequenceOf branch :: branches) []
      | '(' =>
        match next.opening with
        | none => none
        | some (.setting s, r) =>
          expression fuel { r with verbose := s.verbose.getD r.verbose } branches (.setting s :: branch)
        | some (.group s, inner) =>
          match expression fuel { inner with verbose := s.verbose.getD inner.verbose } [] [] with
          | none => none
          | some (n, inner) =>
            match inner.rest with
            | [] => none
            | _ :: cs =>
              expression fuel { inner with rest := cs, verbose := r.verbose } branches (.group s n :: branch)
      | '[' => do
        let (negated, r) := next.negation
        let (s, r) ← classBody fuel r true none []
        expression fuel r branches (.bracketed negated s :: branch)
      | '?' | '*' | '+' => do
        let branch ← repeatLast branch
        expression fuel (r.moveTo (afterLazy cs)) branches branch
      | '{' => none
      | c => do
        let (n, r) ← primitive c next
        expression fuel r branches (n :: branch)

end Reader

def read? (cs : List Char) : Option Node :=
  match Reader.expression (cs.length + 1) { rest := cs } [] [] with
  | none => none
  | some (n, r) => if r.rest = [] then some n else none

end CircuitBreaker.Pattern
