import CircuitBreaker.Breaker
import CircuitBreaker.Text.Quoted

namespace CircuitBreaker

inductive CallError (ε : Type)
  | rejected
  | operation (error : ε)

namespace CallError

variable {ε : Type}

def isRejected : CallError ε → Bool
  | rejected => true
  | operation _ => false

def operation? : CallError ε → Option ε
  | rejected => none
  | operation error => some error

def message (text : ε → String) : CallError ε → String
  | rejected => "circuit breaker is open - call not attempted"
  | operation error => text error

def debug (text : ε → String) : CallError ε → String
  | rejected => "Open"
  | operation error => "Operation(" ++ text error ++ ")"

end CallError

def Outcome.error? {ε α : Type} : Outcome ε α → Option (CallError ε)
  | .rejected => some .rejected
  | .failure error => some (.operation error)
  | .value _ | .crash _ => none

end CircuitBreaker
