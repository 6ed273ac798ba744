/-!
# Clocks and durations

Times are nanoseconds since the origin of a clock, durations are nanoseconds. A manual clock moves
only when it is told to; its reading is a 64-bit number and wraps around.
-/

namespace Conduit

/-- A clock that is moved by hand. -/
structure Clock where
  /-- The time since the origin. -/
  elapsed : UInt64 := 0
  deriving DecidableEq, Repr, Inhabited

namespace Clock

/-- The longest time by which a clock moves at once. -/
def longestStep : Nat := UInt64.size - 1

/-- Moves the clock on by a duration, or by the longest step if that is shorter. -/
def advance (clock : Clock) (duration : Nat) : Clock :=
  ⟨clock.elapsed + UInt64.ofNat (min duration longestStep)⟩

/-- The reading of the clock. -/
def now (clock : Clock) : Nat :=
  clock.elapsed.toNat

end Clock

namespace Duration

/-- A number of units with a fraction of `digits` digits, whose trailing zeros are left out. -/
def decimal (whole fraction digits : Nat) : String :=
  let written := (Nat.toDigits 10 fraction).leftpad digits '0'
  let shown := (written.reverse.dropWhile (· = '0')).reverse
  toString whole ++ (if shown.isEmpty then "" else String.ofList ('.' :: shown))

/-- The inspection text of a duration, in the largest unit of which it has at least one. -/
def inspect (nanoseconds : Nat) : String :=
  let inUnit (digits : Nat) (unit : String) :=
    decimal (nanoseconds / Nat.pow 10 digits) (nanoseconds % Nat.pow 10 digits) digits ++ unit
  if 1000000000 ≤ nanoseconds then inUnit 9 "s"
  else if 1000000 ≤ nanoseconds then inUnit 6 "ms"
  else if 1000 ≤ nanoseconds then inUnit 3 "µs"
  else inUnit 0 "ns"

end Duration

end Conduit
