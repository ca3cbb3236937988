/-!
# FaultDrill.Duration.Basic

Lengths of time: whole nanoseconds, with at most sixty-four bits of seconds. A sum of two durations
may leave this range, and `add?` says so.
-/

namespace FaultDrill

/-- The nanoseconds of a second. -/
def nanosPerSecond : Nat := 1000000000

/-- The nanoseconds of a millisecond. -/
def nanosPerMilli : Nat := 1000000

/-- A length of time. -/
structure Duration where
  nanos : Nat
  nanos_lt : nanos < UInt64.size * nanosPerSecond := by decide
  deriving DecidableEq, Repr

namespace Duration

/-- No time at all. -/
def zero : Duration where
  nanos := 0

instance : Inhabited Duration := ⟨zero⟩

/-- A number of nanoseconds, if it is in range. -/
def ofNanos? (n : Nat) : Option Duration :=
  if h : n < UInt64.size * nanosPerSecond then some ⟨n, h⟩ else none

/-- A number of seconds. -/
def ofSecs (s : UInt64) : Duration where
  nanos := s.toNat * nanosPerSecond
  nanos_lt := Nat.mul_lt_mul_of_pos_right s.toNat_lt (by decide)

/-- A number of milliseconds. -/
def ofMillis (ms : UInt64) : Duration where
  nanos := ms.toNat * nanosPerMilli
  nanos_lt := by
    have := ms.toNat_lt
    simp only [nanosPerMilli, nanosPerSecond, UInt64.size]
    omega

/-- The whole seconds. -/
def secs (d : Duration) : Nat :=
  d.nanos / nanosPerSecond

/-- The nanoseconds beyond the whole seconds. -/
def subsecNanos (d : Duration) : Nat :=
  d.nanos % nanosPerSecond

/-- The whole milliseconds. -/
def millis (d : Duration) : Nat :=
  d.nanos / nanosPerMilli

/-- The whole milliseconds, or the greatest number of sixty-four bits if they exceed it. -/
def millisClamped (d : Duration) : Nat :=
  min d.millis (UInt64.size - 1)

/-- The sum, unless it is out of range. -/
def add? (a b : Duration) : Option Duration :=
  ofNanos? (a.nanos + b.nanos)

theorem add?_eq_none_iff {a b : Duration} :
    a.add? b = none ↔ UInt64.size * nanosPerSecond ≤ a.nanos + b.nanos := by
  unfold add? ofNanos?
  split <;> simp <;> omega

end Duration

end FaultDrill
