import GateRunner.Number.Decimal

/-!
# Durations

A span of time is whole seconds in 64 bits and a remainder of less than a second in nanoseconds. Both bounds are in the
type, so two durations are equal exactly when they are equally long. As a number of seconds a duration is a double; the
two ways of writing that double are `seconds2`, with two places, and `secondsShortest`, with the digits it needs.
-/

namespace GateRunner

/-- The nanoseconds of a second. -/
def nanosPerSecond : Nat := 1000000000

/-- A span of time. -/
structure Duration where
  secs : Nat
  nanos : Nat
  secs_lt : secs < wordBound := by decide
  nanos_lt : nanos < nanosPerSecond := by decide
deriving DecidableEq, Repr

namespace Duration

/-- No time at all. -/
def zero : Duration := ⟨0, 0, by decide, by decide⟩

/-- Five minutes. -/
def fiveMinutes : Duration := ⟨300, 0, by decide, by decide⟩

instance : Inhabited Duration := ⟨zero⟩

/-- Seconds and nanoseconds, whole seconds among the nanoseconds being carried; none past the last second. -/
def ofParts? (secs nanos : Nat) : Option Duration :=
  let total := secs + nanos / nanosPerSecond
  if h : total < wordBound then some ⟨total, nanos % nanosPerSecond, h, Nat.mod_lt _ (by decide)⟩ else none

/-- A number of whole seconds, none past the last. -/
def ofSecs? (secs : Nat) : Option Duration := ofParts? secs 0

/-- A number of milliseconds, none at all past the last second. -/
def ofMillis (millis : Nat) : Duration := (ofParts? (millis / 1000) (millis % 1000 * 1000000)).getD .zero

/-- The length in nanoseconds. -/
def toNanos (d : Duration) : Nat := d.secs * nanosPerSecond + d.nanos

/-- The length in seconds as a double: the seconds and the fraction are rounded, and then their sum. -/
def seconds (d : Duration) : Binary64 :=
  let fraction := (Binary64.ofRatio d.nanos nanosPerSecond).getD .zero
  ((Binary64.ofNat d.secs).add? fraction).getD .zero

/-- The length in seconds with two places, as `0.25`. -/
def seconds2 (d : Duration) : String := d.seconds.fixed 2

/-- The length in seconds with as few digits as name it, as `0.05` or `5`. -/
def secondsShortest (d : Duration) : String := d.seconds.shortest.positional

theorem ofParts?_eq_some (d : Duration) : ofParts? d.secs d.nanos = some d := by
  have h1 : d.nanos / nanosPerSecond = 0 := Nat.div_eq_of_lt d.nanos_lt
  have h2 : d.nanos % nanosPerSecond = d.nanos := Nat.mod_eq_of_lt d.nanos_lt
  simp only [ofParts?, h1, h2, Nat.add_zero, dif_pos d.secs_lt]

end Duration

end GateRunner
