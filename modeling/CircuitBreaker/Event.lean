namespace CircuitBreaker

inductive State
  | closed
  | opened
  | halfOpen
deriving DecidableEq

namespace State

def tag : State → String
  | closed => "closed"
  | opened => "open"
  | halfOpen => "half_open"

def label : State → String
  | closed => "closed"
  | opened => "open"
  | halfOpen => "half-open"

def debug : State → String
  | closed => "Closed"
  | opened => "Open"
  | halfOpen => "HalfOpen"

end State

inductive Level
  | error
  | warn
  | info
  | debug
  | trace
deriving DecidableEq

namespace Level

def label : Level → String
  | error => "ERROR"
  | warn => "WARN"
  | info => "INFO"
  | debug => "DEBUG"
  | trace => "TRACE"

def severity : Level → Nat
  | error => 1
  | warn => 2
  | info => 3
  | debug => 4
  | trace => 5

end Level

inductive Event
  | opening (breaker : String) (count : UInt64)
  | hardTripped (breaker : String) (count : UInt64)
  | halfOpening (breaker : String)
  | probeAdmitted (breaker : String)
  | probeReleased (breaker : String)
  | closing (breaker : String) (was : State)
  | reset (breaker : String)
  | rejected (breaker : String) (state : State)
  | rejectedHard (breaker : String)
  | abandoned (breaker : String) (probe : Bool)
  | passedThrough (breaker : String)
  | ignored
  | loading (path : String)
  | simulatedFailure (error : String)
deriving DecidableEq

namespace Event

inductive Value
  | text (s : String)
  | word (n : UInt64)
  | flag (b : Bool)
deriving DecidableEq

def Value.render : Value → String
  | .text s => s
  | .word n => toString n.toNat
  | .flag b => if b then "true" else "false"

def level : Event → Level
  | abandoned .. => .error
  | opening .. | hardTripped .. => .warn
  | halfOpening _ | closing .. | reset _ => .info
  | probeAdmitted _ | probeReleased _ | rejected .. | rejectedHard _ | passedThrough _ | loading _
  | simulatedFailure _ => .debug
  | ignored => .trace

def source : Event → String
  | opening .. | hardTripped .. | halfOpening _ | probeAdmitted _ | probeReleased _ | closing .. | reset _
  | rejected .. | rejectedHard _ => "fusebox_circuit::transitions"
  | abandoned .. | passedThrough _ => "fusebox_circuit::invoke"
  | ignored => "fusebox_circuit::classifier"
  | loading _ => "fusebox::commands"
  | simulatedFailure _ => "fusebox::commands::simulate"

def message : Event → String
  | opening .. => "circuit breaker opening"
  | hardTripped .. => "circuit breaker hard tripped"
  | halfOpening _ => "circuit breaker entering half-open state"
  | probeAdmitted _ => "admitting recovery probe"
  | probeReleased _ => "probe finished without a verdict"
  | closing .. => "circuit breaker closing"
  | reset _ => "circuit breaker reset"
  | rejected .. => "call rejected"
  | rejectedHard _ => "call rejected, breaker hard tripped"
  | abandoned .. => "admitted call ended without an outcome, counting it as a failure"
  | passedThrough _ => "error passed through without tripping"
  | ignored => "error matched an ignore rule"
  | loading _ => "loading breaker configuration"
  | simulatedFailure _ => "simulated call failed"

def fields : Event → List (String × Value)
  | opening breaker count | hardTripped breaker count =>
    [("breaker", .text breaker), ("open_count", .word count)]
  | closing breaker was => [("breaker", .text breaker), ("from", .text was.label)]
  | rejected breaker state => [("breaker", .text breaker), ("state", .text state.label)]
  | abandoned breaker probe => [("breaker", .text breaker), ("probe", .flag probe)]
  | halfOpening breaker | probeAdmitted breaker | probeReleased breaker | reset breaker
  | rejectedHard breaker | passedThrough breaker => [("breaker", .text breaker)]
  | ignored => []
  | loading path => [("path", .text path)]
  | simulatedFailure error => [("error", .text error)]

end Event

end CircuitBreaker
