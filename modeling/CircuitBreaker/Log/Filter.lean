import CircuitBreaker.Environment
import CircuitBreaker.Log.Directive

namespace CircuitBreaker.Log

/-- Which events are shown. The most specific directive that covers an event decides, and of equally
specific ones the last; an event that none covers is hidden. -/
abbrev Filter := List Directive

namespace Filter

def variableName : String := "FUSEBOX_LOG"

def standardText : String := "warn"

def ofThreshold (t : Threshold) : Filter := [{ threshold := t }]

def standard : Filter := ofThreshold (some .warn)

def moreSpecific (best : Option Directive) (d : Directive) : Option Directive :=
  match best with
  | none => some d
  | some b => if d.isLess b then some b else some d

def decisive? (f : Filter) (e : Event) : Option Directive :=
  (f.filter (·.covers e)).foldl moreSpecific none

def allows (f : Filter) (e : Event) : Bool :=
  match f.decisive? e with
  | none => false
  | some d => d.threshold.passes e.level

def ofText (s : String) : Except Refusal Filter :=
  let items := (s.splitOn ",").filter (· ≠ "")
  match items.mapM fun item => Directive.ofItem item.toList with
  | .ok directives => .ok directives
  | .error .malformed => .ok standard
  | .error .crash => .error .crash

def choose (verbosity : Nat) (env : Environment) : Except Refusal Filter :=
  match verbosity with
  | 0 =>
    match env.text variableName with
    | none => .ok standard
    | some s => ofText s
  | 1 => .ok (ofThreshold (some .info))
  | 2 => .ok (ofThreshold (some .debug))
  | _ => .ok (ofThreshold (some .trace))

end Filter

end CircuitBreaker.Log
