import CircuitBreaker.Event
import CircuitBreaker.Log.Value
import CircuitBreaker.Text.Alphanumeric
import CircuitBreaker.Text.Blank
import CircuitBreaker.Text.WholeNumber

namespace CircuitBreaker.Log

abbrev Threshold := Option Level

namespace Threshold

def ofNumber? : Nat → Option Threshold
  | 0 => some none
  | 1 => some (some .error)
  | 2 => some (some .warn)
  | 3 => some (some .info)
  | 4 => some (some .debug)
  | 5 => some (some .trace)
  | _ => none

def ofName? : String → Option Threshold
  | "off" => some none
  | "error" => some (some .error)
  | "warn" => some (some .warn)
  | "info" => some (some .info)
  | "debug" => some (some .debug)
  | "trace" => some (some .trace)
  | _ => none

def ofText? (cs : List Char) : Option Threshold :=
  match Text.wholeNumber? cs with
  | some n => ofNumber? n
  | none => ofName? (String.ofList (cs.map Value.lowerCase))

def passes (t : Threshold) (level : Level) : Bool :=
  match t with
  | none => false
  | some limit => level.severity ≤ limit.severity

end Threshold

structure Field where
  name : List Char
  value : Option (List Char)
deriving DecidableEq

structure Directive where
  source : Option (List Char) := none
  span : Option (List Char) := none
  field : Option Field := none
  threshold : Threshold := some .trace
deriving DecidableEq

inductive Refusal
  | malformed
  | crash
deriving DecidableEq

namespace Directive

def byteSize (cs : List Char) : Nat := cs.foldl (fun size c => size + c.utf8Size) 0

def dropBytes? : Nat → List Char → Option (List Char)
  | 0, cs => some cs
  | _ + 1, [] => none
  | n + 1, c :: cs => if c.utf8Size ≤ n + 1 then dropBytes? (n + 1 - c.utf8Size) cs else none

def takeBytes? : Nat → List Char → Option (List Char)
  | 0, _ => some []
  | _ + 1, [] => none
  | n + 1, c :: cs =>
    if c.utf8Size ≤ n + 1 then (takeBytes? (n + 1 - c.utf8Size) cs).map (c :: ·) else none

def part (item : List Char) (start size : Nat) : Except Refusal (List Char) :=
  match (dropBytes? start item).bind (takeBytes? size) with
  | none => .error .crash
  | some cs => .ok cs

def fieldOf (cs : List Char) : Except Refusal Field :=
  let (name, rest) := cs.span (· ≠ '=')
  match rest with
  | [] => if name = [] then .error .malformed else .ok ⟨name, none⟩
  | _ :: rest =>
    let value := rest.takeWhile (· ≠ '=')
    if Value.isWellFormed value then .ok ⟨name, some value⟩ else .error .malformed

def thresholdFrom (item : List Char) (start : Nat) : Except Refusal Threshold :=
  match dropBytes? start item with
  | none => .error .crash
  | some [] => .ok (some .trace)
  | some cs =>
    match Threshold.ofText? cs with
    | none => .error .malformed
    | some t => .ok t

def close (item : List Char) (d : Directive) (start : Nat) : List Char → Except Refusal Directive
  | [] => .ok d
  | '=' :: _ => (thresholdFrom item (start + 1)).map fun threshold => { d with threshold }
  | _ => .error .malformed

def readField (item : List Char) (d : Directive) (start : Nat) (cs : List Char) :
    Except Refusal Directive := do
  let (text, rest) := cs.span (· ≠ '}')
  match rest with
  | [] => .error .malformed
  | _ :: rest =>
    let field ← fieldOf (← part item start (byteSize text))
    match rest with
    | ']' :: rest => close item { d with field := some field } (start + byteSize text + 2) rest
    | _ => .error .malformed

def readSpan (item : List Char) (d : Directive) (start : Nat) (cs : List Char) :
    Except Refusal Directive := do
  let (text, rest) := cs.span fun c => c ≠ ']' ∧ c ≠ '{'
  let next := start + byteSize text + 1
  match rest with
  | [] => .error .malformed
  | ']' :: rest => close item { d with span := some (← part item start (byteSize text)) } next rest
  | _ :: rest =>
    let span ← part item start (byteSize text)
    readField item { d with span := if span = [] then none else some span } next rest

def ofWord (cs : List Char) : Directive :=
  match Threshold.ofText? cs with
  | some threshold => { threshold }
  | none => { source := some cs }

def startsWord (c : Char) : Bool := c = '-' || c = ':' || c = '_' || Text.isAlphanumeric c

/-- Reads an item such as `source[span{field=value}]=level`. Its parts are found in the item without the
blanks around it, and taken from the same places of the item with them. -/
def ofItem (item : List Char) : Except Refusal Directive := do
  match Text.trim item with
  | [] => .error .malformed
  | '[' :: rest => readSpan item {} 1 rest
  | c :: cs =>
    if !startsWord c then .error .malformed
    else
      let (word, rest) := (c :: cs).span fun c => c ≠ '=' ∧ c ≠ '['
      match rest with
      | [] => .ok (ofWord item)
      | '=' :: _ =>
        close item { source := some (← part item 0 (byteSize word)) } (byteSize word) rest
      | _ :: rest =>
        readSpan item { source := some (← part item 0 (byteSize word)) } (byteSize word + 1) rest

def isIdle (d : Directive) : Bool := d.span.isSome || (d.field.bind Field.value).isSome

def hasField (e : Event) (name : List Char) : Bool :=
  ("message" :: e.fields.map Prod.fst).any fun other => other.toList = name

def covers (d : Directive) (e : Event) : Bool :=
  !d.isIdle && d.source.all (·.isPrefixOf e.source.toList) && d.field.all fun f => hasField e f.name

def isLess (d e : Directive) : Bool :=
  let size (d : Directive) := (d.source.map List.length).getD 0
  size d < size e || size d = size e &&
    match d.field, e.field with
    | none, some _ => true
    | some f, some g => f.name < g.name
    | _, none => false

end Directive

end CircuitBreaker.Log
