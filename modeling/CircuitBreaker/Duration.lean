namespace CircuitBreaker

structure Duration where
  nanos : Nat
deriving DecidableEq

namespace Duration

def zero : Duration := ⟨0⟩

def ofMillis (ms : Nat) : Duration := ⟨ms * 1000000⟩

def ofSeconds (seconds nanos : Nat) : Duration := ⟨seconds * 1000000000 + nanos⟩

def millis (d : Duration) : UInt64 := UInt64.ofNat (min (d.nanos / 1000000) (UInt64.size - 1))

theorem toNat_millis (d : Duration) : d.millis.toNat = min (d.nanos / 1000000) (UInt64.size - 1) := by
  rw [millis]
  exact UInt64.toNat_ofNat_of_lt' (Nat.lt_of_le_of_lt (Nat.min_le_right _ _) (by decide))

theorem millis_ofMillis (n : UInt64) : (ofMillis n.toNat).millis = n := by
  have hlt := n.toNat_lt_size
  apply UInt64.toNat.inj
  rw [toNat_millis, ofMillis, Nat.mul_div_cancel n.toNat (by decide), Nat.min_eq_left (by omega)]

def fractionDigits (places fraction : Nat) : List Char :=
  let digits := (Nat.toDigits 10 fraction)
  let padded := List.replicate (places - digits.length) '0' ++ digits
  (padded.reverse.dropWhile (· = '0')).reverse

def decimal (whole places fraction : Nat) : String :=
  if fraction = 0 then toString whole
  else toString whole ++ "." ++ String.ofList (fractionDigits places fraction)

def text (d : Duration) : String :=
  if 1000000000 ≤ d.nanos then decimal (d.nanos / 1000000000) 9 (d.nanos % 1000000000) ++ "s"
  else if 1000000 ≤ d.nanos then decimal (d.nanos / 1000000) 6 (d.nanos % 1000000) ++ "ms"
  else if 1000 ≤ d.nanos then decimal (d.nanos / 1000) 3 (d.nanos % 1000) ++ "µs"
  else toString d.nanos ++ "ns"

end Duration

end CircuitBreaker
