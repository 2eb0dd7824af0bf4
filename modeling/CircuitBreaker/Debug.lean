import CircuitBreaker.Breaker
import CircuitBreaker.Text.Quoted
import CircuitBreaker.Timestamp

namespace CircuitBreaker

def debugField (field : String × String) : String := field.1 ++ ": " ++ field.2

def debugStructure (name : String) (fields : List (String × String)) : String :=
  name ++ " \x7b " ++ ", ".intercalate (fields.map debugField) ++ " \x7d"

def debugOption : Option String → String
  | none => "None"
  | some text => "Some(" ++ text ++ ")"

def debugFlag (b : Bool) : String := if b then "true" else "false"

namespace Circuit

def debugState (c : Circuit) : String :=
  debugStructure "GateState"
    [("state", c.state.debug),
      ("last_failure", debugOption (c.lastFailure.map fun t => toString t.nanos)),
      ("last_failure_time", debugOption (c.lastFailureTime.map Timestamp.text)),
      ("probe_in_flight", debugFlag c.probeInFlight), ("hard_tripped", debugFlag c.hardTripped)]

def debug (c : Circuit) : String :=
  debugStructure "Gate"
    [("name", Text.quoted c.name), ("inner", debugStructure "Mutex" [("data", c.debugState)]),
      ("open_count", toString c.openCount.toNat), ("reset_timeout_ms", toString c.timeout.toNat)]

end Circuit

def Breaker.debug {ε : Type} (b : Breaker ε) : String :=
  debugStructure "CircuitBreaker"
    [("gate", b.circuit.debug), ("has_classifier", debugFlag b.installed.isSome)]

end CircuitBreaker
