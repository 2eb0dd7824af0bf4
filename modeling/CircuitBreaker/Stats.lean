import CircuitBreaker.Circuit
import CircuitBreaker.Timestamp
import CircuitBreaker.Json.Record

namespace CircuitBreaker

structure Stats where
  name : String
  state : State
  health : Health
  openCount : UInt64
  lastFailureTime : Option WallTime
  timeout : UInt64
  hardTripped : Bool
  probeInFlight : Bool
deriving DecidableEq

namespace Stats

def record (s : Stats) : Json.Record :=
  [("name", .text s.name), ("state", .text s.state.tag), ("status", .text s.health.tag),
    ("open_count", .number s.openCount.toNat),
    ("last_failure_time", .ofOption (s.lastFailureTime.map Timestamp.text)),
    ("reset_timeout_ms", .number s.timeout.toNat), ("hard_tripped", .flag s.hardTripped),
    ("probe_in_flight", .flag s.probeInFlight)]

end Stats

namespace Circuit

def stats (c : Circuit) (now : Instant) : Stats :=
  { name := c.name
    state := c.state
    health := c.health now
    openCount := c.openCount
    lastFailureTime := c.lastFailureTime
    timeout := c.resetTimeout.millis
    hardTripped := c.hardTripped
    probeInFlight := c.probeInFlight }

end Circuit

end CircuitBreaker
