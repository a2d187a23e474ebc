import SqlGateway.Decimal.Layout

/-!
# Spans of Time

A span of time is a number of seconds and a number of nanoseconds below one second. A number
of seconds with decimals is converted exactly and rounded to the nearest nanosecond, to the
even one of two.
-/

namespace SqlGateway

/-- A span of time. -/
structure Duration where
  seconds : Nat
  nanoseconds : Nat
  deriving DecidableEq, Repr

namespace Duration

open Decimal (Double)

/-- A number of whole seconds. -/
def ofSeconds (seconds : Nat) : Duration := ⟨seconds, 0⟩

/-- The span of a number of seconds: none for what is no number, is infinite, is negative
after rounding, or does not fit sixty-four bits of seconds. -/
def ofDouble? (x : Double) : Option Duration :=
  if x.isFinite then
    let (num, den) := x.ratio
    let total := Double.roundHalfEven (num * 1000000000) den
    if x.isNegative && total != 0 then none
    else if total / 1000000000 < UInt64.size then some ⟨total / 1000000000, total % 1000000000⟩
    else none
  else none

/-- The span as a number of seconds: the nanoseconds are divided down first, and each of the
three steps rounds. -/
def toDouble (d : Duration) : Double :=
  Double.addMagnitudes (Double.ofNat d.seconds)
    (Double.divideMagnitudes (Double.ofNat d.nanoseconds) (Double.ofNat 1000000000))

/-- The span in nanoseconds. -/
def total (d : Duration) : Nat :=
  d.seconds * 1000000000 + d.nanoseconds

end Duration

end SqlGateway
