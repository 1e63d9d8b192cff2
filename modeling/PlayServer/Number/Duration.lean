/-!
# Durations

A span of time in whole nanoseconds. The longest has 2⁶⁴ - 1 seconds and 999 999 999 nanoseconds;
adding past it fails.
-/

namespace PlayServer

/-- A span of time. -/
structure Duration where
  nanos : Nat
  deriving DecidableEq, Repr, Inhabited

namespace Duration

/-- Nanoseconds in a second. -/
def nanosPerSecond : Nat := 1000000000

/-- No time. -/
def zero : Duration := ⟨0⟩

/-- Some seconds and nanoseconds. -/
def ofParts (seconds nanos : Nat) : Duration := ⟨seconds * nanosPerSecond + nanos⟩

/-- Whole seconds. -/
def ofSeconds (seconds : Nat) : Duration := ofParts seconds 0

/-- The bound below which durations lie. -/
def bound : Nat := UInt64.size * nanosPerSecond

/-- The sum of two durations, if it is one. -/
def add? (a b : Duration) : Option Duration :=
  if a.nanos + b.nanos < bound then some ⟨a.nanos + b.nanos⟩ else none

/-- Whole seconds of a duration. -/
def seconds (d : Duration) : Nat := d.nanos / nanosPerSecond

/-- The nanoseconds of a duration beyond its whole seconds. -/
def subsecNanos (d : Duration) : Nat := d.nanos % nanosPerSecond

/-- Whole microseconds of a duration, as a 64-bit counter holds them. -/
def micros (d : Duration) : UInt64 := UInt64.ofNat (d.nanos / 1000)

/-- A duration as a floating-point number of seconds. -/
def toFloat (d : Duration) : Float :=
  (UInt64.ofNat d.seconds).toFloat + (UInt64.ofNat d.subsecNanos).toFloat / 1000000000.0

/-- The time between two ticks at a number of ticks a second, which counts as 1 when it is 0: the
floating-point quotient, rounded to the nearest nanosecond and to an even one in the middle. -/
def tickInterval (rate : UInt32) : Duration :=
  let quotient : Float := 1.0 / (max rate 1).toFloat
  let bits := quotient.toBits.toNat
  let hiddenBit := Nat.pow 2 52
  let significand := (bits % hiddenBit + hiddenBit) * nanosPerSecond
  let unit := Nat.pow 2 (1075 - bits / hiddenBit % 2048)
  let down := significand / unit
  let twice := 2 * (significand % unit)
  if twice < unit then ⟨down⟩
  else if unit < twice then ⟨down + 1⟩
  else ⟨down + down % 2⟩

end Duration

/-- Why a duration cannot be added. -/
inductive DurationError where
  | overflow
  deriving DecidableEq, Repr

/-- The wording of the overflow. -/
def DurationError.message : DurationError → String
  | overflow => "overflow when adding durations"

end PlayServer
