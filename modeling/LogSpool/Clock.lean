/-!
# Clocks

This module holds the two clocks that a spool reads: the wall clock, which may be set to any time,
and the monotonic clock, which only advances.  Both count microseconds.
-/

namespace LogSpool

/-- The readings of both clocks, in microseconds. -/
structure Clock where
  wall : Int
  elapsed : Nat
  deriving Repr, DecidableEq

namespace Clock

/-- A wall clock that shows a millisecond, and a monotonic clock at its start. -/
def startingAt (ms : Int) : Clock :=
  ⟨ms * 1000, 0⟩

/-- The wall clock in milliseconds, rounded down. -/
def now (c : Clock) : Int :=
  c.wall / 1000

/-- Lets time pass on both clocks. -/
def advance (c : Clock) (micros : Nat) : Clock :=
  ⟨c.wall + micros, c.elapsed + micros⟩

/-- Sets the wall clock to a millisecond; the monotonic clock is not touched. -/
def setWall (c : Clock) (ms : Int) : Clock :=
  { c with wall := ms * 1000 }

end Clock

/-- A span of microseconds in seconds: whole seconds and the rest are converted on their own. -/
def secondsOf (micros : Nat) : Float :=
  Float.ofNat (micros / 1000000) + Float.ofNat (micros % 1000000 * 1000) / 1000000000.0

/-- A span of microseconds in milliseconds. -/
def millisOf (micros : Nat) : Float :=
  secondsOf micros * 1000.0

end LogSpool
