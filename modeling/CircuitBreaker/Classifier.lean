import CircuitBreaker.Clock
import CircuitBreaker.Completion
import CircuitBreaker.Event

namespace CircuitBreaker

inductive Verdict
  | trip
  | passThrough
deriving DecidableEq

namespace Verdict

def debug : Verdict → String
  | trip => "Trip"
  | passThrough => "PassThrough"

end Verdict

inductive Ruling
  | verdict (v : Verdict)
  | ignored
  | crash (text : String)
deriving DecidableEq

namespace Ruling

def ofAnswer : Except String Verdict → Ruling
  | .ok v => verdict v
  | .error text => crash text

def events : Ruling → List Event
  | ignored => [.ignored]
  | verdict _ | crash _ => []

def assess {ε α : Type} (error : ε) : Ruling → Assessment ε α
  | verdict .trip => .tripping error
  | verdict .passThrough | ignored => .nonTripping error
  | crash text => .crash text

end Ruling

/-- Errors that match an ignore rule pass, and of the others `limit` in each `window`. The readings of
the clock at the errors that still count are kept, the oldest first. -/
structure Tolerance (ε : Type) where
  ignore : List (ε → Except String Bool) := []
  limit : Nat := 0
  window : Duration := .zero
  recent : List Instant := []

namespace Tolerance

variable {ε : Type}

def anyMatches (error : ε) : List (ε → Except String Bool) → Except String Bool
  | [] => .ok false
  | rule :: rules =>
    match rule error with
    | .ok false => anyMatches error rules
    | found => found

def expired (t : Tolerance ε) (now recorded : Instant) : Bool := t.window.nanos < now.since recorded

def record (t : Tolerance ε) (now : Instant) : Tolerance ε :=
  { t with recent := (t.recent ++ [now]).dropWhile (t.expired now) }

def disabled (t : Tolerance ε) : Bool := t.limit = 0 || t.window.nanos = 0

def count (t : Tolerance ε) (now : Instant) : Ruling × Tolerance ε :=
  if t.disabled then (.verdict .trip, t)
  else
    let t := t.record now
    (.verdict (if t.limit < t.recent.length then .trip else .passThrough), t)

def judge (t : Tolerance ε) (now : Instant) (error : ε) : Ruling × Tolerance ε :=
  match anyMatches error t.ignore with
  | .error text => (.crash text, t)
  | .ok true => (.ignored, t)
  | .ok false => t.count now

def debug (t : Tolerance ε) : String :=
  "DefaultClassifier \x7b ignored: <" ++ toString t.ignore.length ++ " predicates>, limit: " ++
    toString t.limit ++ ", window: " ++ t.window.text ++ " \x7d"

end Tolerance

/-- A stateful one judges by all that it was ever asked, the latest last: what it keeps is made of that. -/
inductive Classifier (ε : Type)
  | rule (judge : ε → Except String Verdict)
  | stateful (judge : List (Instant × ε) → Except String Verdict) (asked : List (Instant × ε))
  | tolerant (tolerance : Tolerance ε)

namespace Classifier

variable {ε : Type}

def judge (now : Instant) (error : ε) : Classifier ε → Ruling × Classifier ε
  | rule f => (.ofAnswer (f error), rule f)
  | stateful f asked =>
    let asked := asked ++ [(now, error)]
    (.ofAnswer (f asked), stateful f asked)
  | tolerant t =>
    let (ruling, t) := t.judge now error
    (ruling, tolerant t)

end Classifier

abbrev Classifiers (ε : Type) := List (String × Classifier ε)

namespace Classifiers

variable {ε : Type}

def replace (name : String) (c : Classifier ε) (table : Classifiers ε) : Classifiers ε :=
  table.map fun entry => if entry.1 = name then (name, c) else entry

def consult (installed : Option String) (now : Instant) (error : ε) (table : Classifiers ε) :
    Ruling × Classifiers ε :=
  match installed with
  | none => (.verdict .trip, table)
  | some name =>
    match table.lookup name with
    | none => (.verdict .trip, table)
    | some c =>
      let (ruling, c) := c.judge now error
      (ruling, table.replace name c)

def assess {α : Type} (installed : Option String) (now : Instant) (table : Classifiers ε) :
    Completion ε α → Assessment ε α × List Event × Classifiers ε
  | .value v => (.success v, [], table)
  | .crash text => (.crash text, [], table)
  | .failure error =>
    let (ruling, table) := table.consult installed now error
    (ruling.assess error, ruling.events, table)

end Classifiers

end CircuitBreaker
