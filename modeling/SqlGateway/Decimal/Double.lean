/-!
# Double-Precision Numbers

A floating-point number is kept as its sixty-four bits, so that two numbers are equal
exactly when they are the same bit pattern, zero's sign and all. Its magnitude, when finite,
is `significand · 2 ^ exponent`, a fraction of natural numbers; arithmetic is done on such
fractions exactly and rounded once, to the nearest number and to the even one of two.
-/

namespace SqlGateway.Decimal

/-- A double-precision number, as its bits: one for the sign, eleven for the exponent and
fifty-two for the fraction. -/
structure Double where
  bits : UInt64
  deriving DecidableEq, Repr, Inhabited

namespace Double

/-- The bits without the sign. -/
def magnitudeBits (x : Double) : Nat :=
  x.bits.toNat % 0x8000000000000000

/-- Whether the sign bit is set. -/
def isNegative (x : Double) : Bool :=
  0x8000000000000000 ≤ x.bits.toNat

/-- The bits of positive infinity. -/
def infinityBits : Nat := 0x7FF * 0x10000000000000

/-- Whether the number is one of the two infinities. -/
def isInfinite (x : Double) : Bool :=
  x.magnitudeBits == infinityBits

/-- Whether the bits stand for no number. -/
def isNaN (x : Double) : Bool :=
  infinityBits < x.magnitudeBits

/-- Whether the number is neither infinite nor undefined. -/
def isFinite (x : Double) : Bool :=
  x.magnitudeBits < infinityBits

/-- Whether the number is a zero of either sign. -/
def isZero (x : Double) : Bool :=
  x.magnitudeBits == 0

/-- The exponent field of the bits. -/
def exponentField (x : Double) : Nat :=
  x.magnitudeBits / 0x10000000000000

/-- The whole number that the magnitude is a multiple of a power of two of. -/
def significand (x : Double) : Nat :=
  x.magnitudeBits % 0x10000000000000 + (if x.exponentField = 0 then 0 else 0x10000000000000)

/-- The power of two that the significand is taken times. -/
def exponent (x : Double) : Int :=
  (if x.exponentField = 0 then 1 else (x.exponentField : Int)) - 1075

/-- The magnitude of a finite number as a numerator and a denominator. -/
def ratio (x : Double) : Nat × Nat :=
  (x.significand * Nat.pow 2 x.exponent.toNat, Nat.pow 2 (-x.exponent).toNat)

/-- A number from its sign and the bits of its magnitude; a magnitude past the finite ones
is infinite. -/
def ofMagnitude (negative : Bool) (magnitude : Nat) : Double :=
  ⟨UInt64.ofNat (min magnitude infinityBits + (if negative then 0x8000000000000000 else 0))⟩

/-- The quotient of two natural numbers, rounded to the nearest whole number and to the even
one of two. -/
def roundHalfEven (num den : Nat) : Nat :=
  let quotient := num / den
  let twice := 2 * (num % den)
  if twice < den then quotient
  else if den < twice then quotient + 1
  else quotient + quotient % 2

/-- The exponent with which the significand of `num / den` has fifty-three bits, or the
least exponent if that one is smaller. -/
def exponentFor (num den : Nat) : Int :=
  let guess : Int := (num.log2 : Int) - den.log2 - 52
  let scaled := num * Nat.pow 2 (-guess).toNat
  let unit := den * Nat.pow 2 guess.toNat
  let exact := if scaled < unit * 0x10000000000000 then guess - 1 else guess
  max exact (-1074)

/-- The double nearest to `num / den`, the even one of two; infinite when too large. -/
def ofRatio (negative : Bool) (num den : Nat) : Double :=
  if num = 0 then ofMagnitude negative 0
  else
    let e := exponentFor num den
    let m := roundHalfEven (num * Nat.pow 2 (-e).toNat) (den * Nat.pow 2 e.toNat)
    ofMagnitude negative ((e + 1074).toNat * 0x10000000000000 + m)

/-- The double nearest to a natural number. -/
def ofNat (n : Nat) : Double :=
  ofRatio false n 1

/-- The double nearest to an integer. -/
def ofInt (n : Int) : Double :=
  ofRatio (n < 0) n.natAbs 1

/-- The sum of two finite numbers that are not negative. -/
def addMagnitudes (x y : Double) : Double :=
  let (a, b) := x.ratio
  let (c, d) := y.ratio
  ofRatio false (a * d + c * b) (b * d)

/-- The quotient of two finite numbers that are not negative, the second not zero. -/
def divideMagnitudes (x y : Double) : Double :=
  let (a, b) := x.ratio
  let (c, d) := y.ratio
  ofRatio false (a * d) (b * c)

end Double

end SqlGateway.Decimal
