import CircuitBreaker.Error
import CircuitBreaker.Text.Blank

namespace CircuitBreaker

inductive Action
  | succeed
  | fail
  | invalidRequest
  | wait
  | trip
  | hardTrip
  | reset
deriving DecidableEq

namespace Action

def letter : Action → Char
  | succeed => 's'
  | fail => 'f'
  | invalidRequest => 'i'
  | wait => 'w'
  | trip => 't'
  | hardTrip => 'h'
  | reset => 'r'

def ofLetter? : Char → Option Action
  | 's' => some succeed
  | 'f' => some fail
  | 'i' => some invalidRequest
  | 'w' => some wait
  | 't' => some trip
  | 'h' => some hardTrip
  | 'r' => some reset
  | _ => none

def tag : Action → String
  | succeed => "succeed"
  | fail => "fail"
  | invalidRequest => "invalid_request"
  | wait => "wait"
  | trip => "trip"
  | hardTrip => "hard_trip"
  | reset => "reset"

def title : Action → String
  | succeed => "Succeed"
  | fail => "Fail"
  | invalidRequest => "InvalidRequest"
  | wait => "Wait"
  | trip => "Trip"
  | hardTrip => "HardTrip"
  | reset => "Reset"

end Action

abbrev Script := List Action

namespace Script

def isSeparator (c : Char) : Bool := c = ',' || Text.isBlank c

def unknownAction (c : Char) : Error :=
  .configuration ("unknown script step '" ++ String.singleton c ++ "' (expected one of s f i w t h r)")

def noActions : Error := .configuration "simulation script is empty"

def actions : List Char → Except Error Script
  | [] => .ok []
  | c :: cs =>
    if isSeparator c then actions cs
    else
      match Action.ofLetter? c with
      | none => .error (unknownAction c)
      | some a => (actions cs).map (a :: ·)

def parse (text : String) : Except Error Script :=
  match actions text.toList with
  | .ok [] => .error noActions
  | parsed => parsed

end Script

end CircuitBreaker
