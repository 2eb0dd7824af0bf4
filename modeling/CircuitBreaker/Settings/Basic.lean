import CircuitBreaker.Duration
import CircuitBreaker.Error
import CircuitBreaker.Json.Record
import CircuitBreaker.Text.Blank
import CircuitBreaker.Circuit

namespace CircuitBreaker

structure Settings where
  name : String := "default"
  resetTimeout : Duration := .ofMillis 15000
deriving DecidableEq

namespace Settings

def withName (s : Settings) (name : String) : Settings := { s with name }

def withResetTimeout (s : Settings) (timeout : Duration) : Settings := { s with resetTimeout := timeout }

def isBlank (name : String) : Bool := name.toList.all Text.isBlank

def validate (s : Settings) : Except Error Settings :=
  if isBlank s.name then .error (.configuration "breaker name cannot be empty") else .ok s

def record (s : Settings) : Json.Record :=
  [("name", .text s.name), ("reset_timeout_ms", .number s.resetTimeout.millis.toNat)]

def circuit (s : Settings) : Circuit := .ofTimeout s.name s.resetTimeout

end Settings

end CircuitBreaker
