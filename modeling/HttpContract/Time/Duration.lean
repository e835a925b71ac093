import HttpContract.Number.Binary64

/-! Lengths of time in seconds and nanoseconds, with 64 bits for the seconds. -/
namespace HttpContract

structure Duration where
  seconds : Nat
  nanos : Nat
  seconds_lt : seconds < 18446744073709551616 := by decide
  nanos_lt : nanos < 1000000000 := by decide
  deriving DecidableEq

namespace Duration

def zero : Duration := { seconds := 0, nanos := 0 }

instance : Inhabited Duration := ⟨zero⟩

def ofParts? (seconds nanos : Nat) : Option Duration :=
  if h : seconds < 18446744073709551616 ∧ nanos < 1000000000 then
    some ⟨seconds, nanos, h.1, h.2⟩
  else none

/-- A number of milliseconds below the range of 64 bits. -/
def ofMillis (millis : Nat) : Duration :=
  { seconds := millis / 1000 % 18446744073709551616
    nanos := millis % 1000 * 1000000
    seconds_lt := Nat.mod_lt _ (by decide)
    nanos_lt := by omega }

def totalNanos (duration : Duration) : Nat := duration.seconds * 1000000000 + duration.nanos

/-- The sum, with a carry from the nanoseconds; none beyond the greatest duration. -/
def add? (a b : Duration) : Option Duration :=
  if a.nanos + b.nanos < 1000000000 then ofParts? (a.seconds + b.seconds) (a.nanos + b.nanos)
  else ofParts? (a.seconds + b.seconds + 1) (a.nanos + b.nanos - 1000000000)

def sum? (durations : List Duration) : Option Duration := durations.foldlM add? zero

/-- Milliseconds in binary floating point: the nanoseconds are rounded, then their millionth. -/
def millis (duration : Duration) : Binary64 :=
  (Binary64.ofNat duration.totalNanos).div (Binary64.ofNat 1000000)

end Duration
end HttpContract
