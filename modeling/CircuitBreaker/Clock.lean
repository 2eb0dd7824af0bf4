import CircuitBreaker.Duration

namespace CircuitBreaker

/-- A reading of the monotonic clock, in nanoseconds from a point that means nothing. -/
structure Instant where
  nanos : Int
deriving DecidableEq

/-- A reading of the wall clock, in nanoseconds from the start of 1970, UTC. -/
structure WallTime where
  nanos : Int
deriving DecidableEq

inductive DateFault
  | early (distance : Duration)
  | late
deriving DecidableEq

def DateFault.message : DateFault → String
  | early distance => "system time before Unix epoch: SystemTimeError(" ++ distance.text ++ ")"
  | late => "called `Option::unwrap()` on a `None` value"

namespace WallTime

/-- The end of the year 262142, the last of the calendar. -/
def calendarEnd : Int := 8210266876800 * 1000000000

def fault? (t : WallTime) : Option DateFault :=
  if t.nanos < 0 then some (.early ⟨t.nanos.natAbs⟩)
  else if calendarEnd ≤ t.nanos then some .late
  else none

end WallTime

structure Clock where
  mono : Instant
  wall : WallTime
deriving DecidableEq

def Instant.since (now start : Instant) : Nat := (now.nanos - start.nanos).toNat

namespace Clock

def shift (c : Clock) (mono wall : Int) : Clock :=
  ⟨⟨c.mono.nanos + mono⟩, ⟨c.wall.nanos + wall⟩⟩

def advance (c : Clock) (d : Duration) : Clock := c.shift d.nanos d.nanos

end Clock

end CircuitBreaker
