import CircuitBreaker.Breaker
import CircuitBreaker.Script
import CircuitBreaker.Settings.Basic
import CircuitBreaker.Stats

namespace CircuitBreaker

inductive SimulatedError
  | outage
  | invalidRequest
deriving DecidableEq

namespace SimulatedError

def text : SimulatedError → String
  | outage => "dependency unavailable"
  | invalidRequest => "request rejected as invalid"

def verdict : SimulatedError → Verdict
  | outage => .trip
  | invalidRequest => .passThrough

end SimulatedError

inductive CallResult
  | ok
  | failed
  | rejected
deriving DecidableEq

def CallResult.tag : CallResult → String
  | ok => "ok"
  | failed => "failed"
  | rejected => "rejected"

structure StepReport where
  step : Nat
  action : Action
  result : Option CallResult
  stats : Stats
deriving DecidableEq

def StepReport.record (r : StepReport) : Json.Record :=
  [("step", .number r.step), ("action", .text r.action.tag),
    ("result", .ofOption (r.result.map CallResult.tag))] ++ r.stats.record

structure Simulation where
  breaker : Breaker SimulatedError
  clock : Clock

namespace Simulation

def ofSettings (s : Settings) (clock : Clock) : Simulation :=
  { breaker :=
      { circuit := s.circuit
        classifiers := [("simulated", .rule fun e => .ok e.verdict)]
        installed := some "simulated" }
    clock }

def callResult : Outcome SimulatedError Unit → Except String CallResult
  | .value _ => .ok .ok
  | .rejected => .ok .rejected
  | .failure _ => .ok .failed
  | .crash text => .error text

def note (s : Simulation) : Outcome SimulatedError Unit → Simulation
  | .failure e => { s with breaker := s.breaker.onCircuit (·.emit (.simulatedFailure e.text)) }
  | .value _ | .rejected | .crash _ => s

def call (s : Simulation) (result : Completion SimulatedError Unit) :
    Except String CallResult × Simulation :=
  match s.breaker.acquire s.clock.mono with
  | (none, b) => (.ok .rejected, { s with breaker := b })
  | (some permit, b) =>
    let (outcome, b) := b.settle s.clock permit result
    (callResult outcome, { s with breaker := b }.note outcome)

def onCircuit (s : Simulation) (f : Circuit → Circuit) : Simulation :=
  { s with breaker := s.breaker.onCircuit f }

def opening (s : Simulation) : Except String (Option CallResult) :=
  match s.clock.wall.fault? with
  | none => .ok none
  | some fault => .error fault.message

def act (interval : Duration) (s : Simulation) : Action → Except String (Option CallResult) × Simulation
  | .succeed => (s.call (.value ())).map (·.map some) id
  | .fail => (s.call (.failure .outage)).map (·.map some) id
  | .invalidRequest => (s.call (.failure .invalidRequest)).map (·.map some) id
  | .wait => (.ok none, { s with clock := s.clock.advance interval })
  | .trip => (s.opening, s.onCircuit (·.trip s.clock))
  | .hardTrip => (s.opening, s.onCircuit (·.hardTrip s.clock))
  | .reset => (.ok none, s.onCircuit (·.reset))

def stats (s : Simulation) : Stats := s.breaker.circuit.stats s.clock.mono

def step (interval : Duration) (number : Nat) (s : Simulation) (action : Action) :
    Except String StepReport × Simulation :=
  let (result, s) := s.act interval action
  (result.map fun result => { step := number, action, result, stats := s.stats }, s)

def runFrom (interval : Duration) (number : Nat) (s : Simulation) :
    Script → Except String (List StepReport) × Simulation
  | [] => (.ok [], s)
  | action :: script =>
    match s.step interval number action with
    | (.error text, s) => (.error text, s)
    | (.ok report, s) =>
      let (reports, last) := runFrom interval (number + 1) s script
      (reports.map (report :: ·), last)

def run (interval : Duration) (s : Simulation) (script : Script) :
    Except String (List StepReport) × Simulation :=
  runFrom interval 1 s script

end Simulation

end CircuitBreaker
