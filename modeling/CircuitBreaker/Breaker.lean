import CircuitBreaker.Circuit
import CircuitBreaker.Classifier

namespace CircuitBreaker

inductive Outcome (ε α : Type)
  | value (v : α)
  | rejected
  | failure (error : ε)
  | crash (text : String)

namespace Outcome

variable {ε α β : Type}

def map (f : α → β) : Outcome ε α → Outcome ε β
  | value v => value (f v)
  | rejected => rejected
  | failure error => failure error
  | crash text => crash text

def afterOpening (now : Clock) (o : Outcome ε α) : Outcome ε α :=
  match now.wall.fault? with
  | none => o
  | some fault => crash fault.message

end Outcome

structure Permit where
  probe : Bool
deriving DecidableEq

structure Guard where
  permit : Permit
  settled : Bool := false

structure Breaker (ε : Type) where
  circuit : Circuit
  classifiers : Classifiers ε := []
  installed : Option String := none

/-- A crash that already unwinds ends the process when the drop of its guard crashes too. -/
def Assessment.aborts {ε α : Type} (now : Clock) : Assessment ε α → Bool
  | .crash _ => now.wall.fault?.isSome
  | .success _ | .tripping _ | .nonTripping _ => false

namespace Breaker

variable {ε α : Type}

def onCircuit (b : Breaker ε) (f : Circuit → Circuit) : Breaker ε := { b with circuit := f b.circuit }

def emitAll (b : Breaker ε) (events : List Event) : Breaker ε :=
  b.onCircuit fun c => events.foldl Circuit.emit c

def install (b : Breaker ε) (name : Option String) : Breaker ε := { b with installed := name }

def acquire (b : Breaker ε) (now : Instant) : Option Permit × Breaker ε :=
  match b.circuit.admission now with
  | (.pass, c) => (some ⟨false⟩, { b with circuit := c })
  | (.probe, c) => (some ⟨true⟩, { b with circuit := c })
  | (.reject, c) => (none, { b with circuit := c })

end Breaker

namespace Guard

variable {ε : Type}

def succeed (g : Guard) (b : Breaker ε) : Guard × Breaker ε := ({ g with settled := true }, b.onCircuit .succeed)

def fail (g : Guard) (now : Clock) (b : Breaker ε) : Guard × Breaker ε :=
  ({ g with settled := true }, b.onCircuit (·.trip now))

def passThrough (g : Guard) (b : Breaker ε) : Guard × Breaker ε :=
  ({ g with settled := true }, b.onCircuit fun c => if g.permit.probe then c.releaseProbe else c)

def drop (g : Guard) (now : Clock) (b : Breaker ε) : Breaker ε :=
  if g.settled then b else b.onCircuit fun c => (c.emit (.abandoned c.name g.permit.probe)).trip now

end Guard

namespace Breaker

variable {ε α : Type}

def abandon (b : Breaker ε) (now : Clock) (permit : Permit) : Breaker ε := Guard.drop { permit } now b

def assess (b : Breaker ε) (now : Instant) (result : Completion ε α) : Assessment ε α × Breaker ε :=
  let (assessment, events, table) := b.classifiers.assess b.installed now result
  (assessment, { b with classifiers := table }.emitAll events)

def settle (b : Breaker ε) (now : Clock) (permit : Permit) (result : Completion ε α) :
    Outcome ε α × Breaker ε :=
  let (assessment, b) := b.assess now.mono result
  let g : Guard := { permit }
  match assessment with
  | .success v =>
    let (g, b) := g.succeed b
    (.value v, g.drop now b)
  | .tripping error =>
    let (g, b) := g.fail now b
    ((Outcome.failure error).afterOpening now, g.drop now b)
  | .nonTripping error =>
    let (g, b) := g.passThrough (b.emitAll [.passedThrough b.circuit.name])
    (.failure error, g.drop now b)
  -- At an undated clock this drop ends the process: see Assessment.aborts.
  | .crash text => (.crash text, g.drop now b)

end Breaker

end CircuitBreaker
