import CircuitBreaker.Simulation.Basic

namespace CircuitBreaker

structure Surroundings (m : Type → Type) where
  pause : Duration → m Unit
  clock : m Clock
  putLog : List Event → m Unit

namespace Simulation

-- The events before are in the log outside.
def resume (s : Simulation) (clock : Clock) : Simulation :=
  { breaker := s.breaker.onCircuit fun c => { c with journal := [] }, clock }

variable {m : Type → Type} [Monad m]

def turn (w : Surroundings m) (interval : Duration) (number : Nat) (s : Simulation) (action : Action) :
    m (Except String StepReport × Simulation) := do
  if action = .wait then w.pause interval
  let clock ← w.clock
  -- The pause has taken the time already.
  let (report, s) := (s.resume clock).step .zero number action
  w.putLog s.breaker.circuit.log
  return (report, s)

def drive (w : Surroundings m) (interval : Duration) (number : Nat) (s : Simulation) :
    Script → m (Except String (List StepReport))
  | [] => return .ok []
  | action :: script => do
    match ← s.turn w interval number action with
    | (.error text, _) => return .error text
    | (.ok report, s) => return (← drive w interval (number + 1) s script).map (report :: ·)

end Simulation

end CircuitBreaker
