import CircuitBreaker.Clock
import CircuitBreaker.Event

namespace CircuitBreaker

inductive Admission
  | pass
  | probe
  | reject
deriving DecidableEq

inductive Health
  | healthy
  | degraded
  | unavailable
deriving DecidableEq

namespace Health

def tag : Health → String
  | healthy => "healthy"
  | degraded => "degraded"
  | unavailable => "unavailable"

def debug : Health → String
  | healthy => "Healthy"
  | degraded => "Degraded"
  | unavailable => "Unavailable"

end Health

/-- The state machine of one breaker. The timeout is in milliseconds; the journal holds every event so
far, the newest first. -/
structure Circuit where
  name : String
  timeout : UInt64
  state : State := .closed
  lastFailure : Option Instant := none
  lastFailureTime : Option WallTime := none
  probeInFlight : Bool := false
  hardTripped : Bool := false
  openCount : UInt64 := 0
  journal : List Event := []
deriving DecidableEq

namespace Circuit

def ofTimeout (name : String) (timeout : Duration) : Circuit := { name, timeout := timeout.millis }

def setTimeout (c : Circuit) (timeout : Duration) : Circuit := { c with timeout := timeout.millis }

def emit (c : Circuit) (e : Event) : Circuit := { c with journal := e :: c.journal }

def log (c : Circuit) : List Event := c.journal.reverse

def cooled (c : Circuit) (now : Instant) : Bool :=
  match c.lastFailure with
  | none => true
  | some failed => c.timeout.toNat * 1000000 ≤ now.since failed

def ripen (c : Circuit) (now : Instant) : Circuit :=
  if c.state = .opened ∧ c.cooled now then
    { c with state := .halfOpen }.emit (.halfOpening c.name)
  else c

def admitProbe (c : Circuit) : Admission × Circuit :=
  if c.state = .halfOpen ∧ !c.probeInFlight then
    (.probe, { c with probeInFlight := true }.emit (.probeAdmitted c.name))
  else (.reject, c.emit (.rejected c.name c.state))

def admission (c : Circuit) (now : Instant) : Admission × Circuit :=
  if c.hardTripped then (.reject, c.emit (.rejectedHard c.name))
  else if c.state = .closed then (.pass, c)
  else (c.ripen now).admitProbe

def succeed (c : Circuit) : Circuit :=
  let c := { c with probeInFlight := false }
  if c.hardTripped ∨ c.state = .closed then c
  else { c with state := .closed }.emit (.closing c.name c.state)

def startCooldown (c : Circuit) (now : Instant) : Circuit :=
  { c with state := .opened, lastFailure := some now }

def failAt (c : Circuit) (now : Clock) : Circuit :=
  { c.startCooldown now.mono with
    lastFailureTime := some now.wall
    probeInFlight := false
    openCount := c.openCount + 1 }

/-- The cooldown starts before the wall clock is read. If that shows no date, the rest does not happen. -/
def trip (c : Circuit) (now : Clock) : Circuit :=
  match now.wall.fault? with
  | none => (c.failAt now).emit (.opening c.name (c.openCount + 1))
  | some _ => c.startCooldown now.mono

def hardTrip (c : Circuit) (now : Clock) : Circuit :=
  match now.wall.fault? with
  | none => { c.failAt now with hardTripped := true }.emit (.hardTripped c.name (c.openCount + 1))
  | some _ => c.startCooldown now.mono

def reset (c : Circuit) : Circuit :=
  { c with state := .closed, hardTripped := false, probeInFlight := false }.emit (.reset c.name)

def releaseProbe (c : Circuit) : Circuit :=
  if c.probeInFlight then { c with probeInFlight := false }.emit (.probeReleased c.name) else c

def health (c : Circuit) (now : Instant) : Health :=
  match c.state with
  | .closed => .healthy
  | .halfOpen => .degraded
  | .opened => if !c.hardTripped ∧ c.cooled now then .degraded else .unavailable

def resetTimeout (c : Circuit) : Duration := .ofMillis c.timeout.toNat

end Circuit

end CircuitBreaker
