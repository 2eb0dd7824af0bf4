import CircuitBreaker.Breaker

namespace CircuitBreaker

inductive Delivery (α : Type)
  | own
  | nothing
  | fixed (v : α)

def Delivery.value {α : Type} (v : α) : Delivery α → Option α
  | own => some v
  | nothing => none
  | fixed w => some w

/-- One thing that can happen to a breaker. An invoked operation takes steps of its own before it ends;
a call with a number runs beside the others, from its first poll until it is finished or dropped. -/
inductive Step (ε α : Type)
  | shift (mono wall : Int)
  | trip
  | hardTrip
  | reset
  | setTimeout (timeout : Duration)
  | install (classifier : Option String)
  | look
  | invoke (delivery : Delivery α) (operation : List (Step ε α)) (result : Completion ε α)
  | create (id : Int)
  | start (id : Int)
  | poll (id : Int)
  | finish (id : Int) (result : Completion ε α)
  | drop (id : Int)
  | race (callers : Nat) (result : Completion ε α)

def Step.silent {ε α : Type} : Step ε α → Bool
  | .race .. => true
  | _ => false

inductive Phase
  | fresh
  | running (permit : Permit)
deriving DecidableEq

structure Tally where
  values : Nat := 0
  rejections : Nat := 0
  failures : Nat := 0
  crashes : Nat := 0
deriving DecidableEq

def Tally.add {ε α : Type} (t : Tally) : Outcome ε α → Tally
  | .value _ => { t with values := t.values + 1 }
  | .rejected => { t with rejections := t.rejections + 1 }
  | .failure _ => { t with failures := t.failures + 1 }
  | .crash _ => { t with crashes := t.crashes + 1 }

structure Report (ε A : Type) where
  answer : A
  breaker : Breaker ε
  clock : Clock
  events : List Event

inductive Answer (ε α : Type)
  | done
  | created
  | pending
  | dropped
  | noSuchCall
  | crashed (text : String)
  | settled (outcome : Outcome ε (Option α)) (ran : Bool) (during : List (Report ε (Answer ε α)))
  | raced (tally : Tally)

/-- A breaker, the clock, and the calls in flight in the order of their numbers. The first `reported`
events of the breaker have been reported. -/
structure Session (ε : Type) where
  breaker : Breaker ε
  clock : Clock
  calls : List (Int × Phase) := []
  reported : Nat := 0

namespace Session

variable {ε α : Type}

def onBreaker (s : Session ε) (f : Breaker ε → Breaker ε) : Session ε := { s with breaker := f s.breaker }

def onCircuit (s : Session ε) (f : Circuit → Circuit) : Session ε := s.onBreaker (·.onCircuit f)

def acquire (s : Session ε) : Option Permit × Session ε :=
  let (permit, b) := s.breaker.acquire s.clock.mono
  (permit, { s with breaker := b })

def settle (s : Session ε) (permit : Permit) (result : Completion ε α) : Outcome ε α × Session ε :=
  let (outcome, b) := s.breaker.settle s.clock permit result
  (outcome, { s with breaker := b })

def abandon (s : Session ε) : Phase → Session ε
  | .fresh => s
  | .running permit => s.onBreaker (·.abandon s.clock permit)

def hold (id : Int) (phase : Phase) : List (Int × Phase) → List (Int × Phase)
  | [] => [(id, phase)]
  | call :: calls =>
    if id < call.1 then (id, phase) :: call :: calls
    else if id = call.1 then (id, phase) :: calls
    else call :: hold id phase calls

def forget (s : Session ε) (id : Int) : Session ε := { s with calls := s.calls.filter (·.1 ≠ id) }

def afterOpening (s : Session ε) (answer : Answer ε α) : Answer ε α :=
  match s.clock.wall.fault? with
  | none => answer
  | some fault => .crashed fault.message

def afterAbandoning (s : Session ε) (answer : Answer ε α) : Phase → Answer ε α
  | .fresh => answer
  | .running _ => s.afterOpening answer

def create (s : Session ε) (id : Int) : Answer ε α × Session ε :=
  let s' := { s with calls := hold id .fresh s.calls }
  match s.calls.lookup id with
  | none => (.created, s')
  | some phase => (s.afterAbandoning .created phase, s'.abandon phase)

def progress (s : Session ε) (id : Int) (permit : Permit) :
    Option (Completion ε α) → Answer ε α × Session ε
  | none => (.pending, { s with calls := hold id (.running permit) s.calls })
  | some result =>
    let (outcome, s) := s.settle permit result
    (.settled (outcome.map some) true [], s.forget id)

def poll (s : Session ε) (id : Int) (result : Option (Completion ε α)) : Answer ε α × Session ε :=
  match s.calls.lookup id with
  | none => (.noSuchCall, s)
  | some (.running permit) => s.progress id permit result
  | some .fresh =>
    match s.acquire with
    | (none, s) => (.settled .rejected false [], s.forget id)
    | (some permit, s) => s.progress id permit result

def drop (s : Session ε) (id : Int) : Answer ε α × Session ε :=
  match s.calls.lookup id with
  | none => (.noSuchCall, s)
  | some phase => (s.afterAbandoning .dropped phase, (s.abandon phase).forget id)

def start (s : Session ε) (id : Int) : Answer ε α × Session ε :=
  match (s.create id : Answer ε α × Session ε) with
  | (.crashed text, s) => (.crashed text, s)
  | (_, s) => s.poll id none

def acquireMany : Nat → Session ε → List Permit × Session ε
  | 0, s => ([], s)
  | n + 1, s =>
    let (permit, s) := s.acquire
    let (permits, s) := acquireMany n s
    (permit.toList ++ permits, s)

def settleMany (result : Completion ε α) : List Permit → Tally → Session ε → Tally × Session ε
  | [], tally, s => (tally, s)
  | permit :: permits, tally, s =>
    let (outcome, s) := s.settle permit result
    settleMany result permits (tally.add outcome) s

def race (s : Session ε) (callers : Nat) (result : Completion ε α) : Tally × Session ε :=
  let (permits, s) := acquireMany callers s
  settleMany result permits { rejections := callers - permits.length } s

def unreported (s : Session ε) : List Event :=
  let journal := s.breaker.circuit.journal
  (journal.take (journal.length - s.reported)).reverse

def report {A : Type} (s : Session ε) (answer : A) (events : List Event) :
    Report ε A × Session ε :=
  ({ answer, breaker := s.breaker, clock := s.clock, events },
    { s with reported := s.breaker.circuit.journal.length })

mutual

def step (s : Session ε) : Step ε α → Answer ε α × Session ε
  | .shift mono wall => (.done, { s with clock := s.clock.shift mono wall })
  | .trip => (s.afterOpening .done, s.onCircuit (·.trip s.clock))
  | .hardTrip => (s.afterOpening .done, s.onCircuit (·.hardTrip s.clock))
  | .reset => (.done, s.onCircuit (·.reset))
  | .setTimeout timeout => (.done, s.onCircuit (·.setTimeout timeout))
  | .install classifier => (.done, s.onBreaker (·.install classifier))
  | .look => (.done, s)
  | .invoke delivery operation result =>
    match s.acquire with
    | (none, s) => (.settled .rejected false [], s)
    | (some permit, s) =>
      let (during, s) := s.run operation
      let (outcome, s) := s.settle permit result
      (.settled (outcome.map delivery.value) true during, s)
  | .create id => s.create id
  | .start id => s.start id
  | .poll id => s.poll id none
  | .finish id result => s.poll id (some result)
  | .drop id => s.drop id
  | .race callers result =>
    let (tally, s) := s.race callers result
    (.raced tally, s)

def run (s : Session ε) : List (Step ε α) → List (Report ε (Answer ε α)) × Session ε
  | [] => ([], s)
  | t :: ts =>
    let (answer, s') := s.step t
    let (report, s') := s'.report answer (if t.silent then s.unreported else s'.unreported)
    let (reports, s') := s'.run ts
    (report :: reports, s')

end

def close (s : Session ε) : Session ε :=
  { s.calls.foldl (fun s call => s.abandon call.2) s with calls := [] }

end Session

end CircuitBreaker
