import CircuitBreaker.Simulation.Basic

namespace CircuitBreaker.Simulation.Table

def left (width : Nat) (s : String) : String := s ++ String.ofList (List.replicate (width - s.length) ' ')

def right (width : Nat) (s : String) : String := String.ofList (List.replicate (width - s.length) ' ') ++ s

def row (step action result state status opens : String) : String :=
  right 4 step ++ "  " ++ left 16 action ++ " " ++ left 9 result ++ " " ++ left 10 state ++ " " ++
    left 12 status ++ " " ++ right 5 opens

def header : String := row "STEP" "ACTION" "RESULT" "STATE" "STATUS" "OPENS"

def stateText (s : Stats) : String := if s.hardTripped then s.state.label ++ "!" else s.state.label

def ofReport (r : StepReport) : String :=
  row (toString r.step) r.action.title ((r.result.map CallResult.tag).getD "-") (stateText r.stats)
    r.stats.health.tag (toString r.stats.openCount.toNat)

def lines (reports : List StepReport) : List String := header :: reports.map ofReport

end CircuitBreaker.Simulation.Table
