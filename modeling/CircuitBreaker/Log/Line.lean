import CircuitBreaker.Event
import CircuitBreaker.Timestamp

namespace CircuitBreaker.Log

def fieldText (field : String × Event.Value) : String := " " ++ field.1 ++ "=" ++ field.2.render

def entry (time : WallTime) (e : Event) : String :=
  let label := e.level.label
  Timestamp.microText time ++ String.ofList (List.replicate (6 - label.length) ' ') ++ label ++ " " ++
    e.message ++ String.join (e.fields.map fieldText)

def withoutReturn (line : String) : String :=
  match line.toList.reverse with
  | '\r' :: cs => String.ofList cs.reverse
  | _ => line

def lines (time : WallTime) (events : List Event) : List String :=
  events.flatMap fun e => ((entry time e).splitOn "\n").map withoutReturn

end CircuitBreaker.Log
