import SqlGateway.Decimal.Shortest

/-!
# Decimal Text of a Number

A number's shortest digits can be laid out with a point or with an exponent. Each place that
writes numbers has its own conventions, and each is one `Layout`:

* `Layout.plain` never uses an exponent;
* `Layout.exact` marks whole numbers and uses an exponent for very large and very small ones;
* `Layout.data` is the form in structured data.
-/

namespace SqlGateway.Decimal

/-- The conventions for writing a number. -/
structure Layout where
  /-- The power of ten of the first digit below which an exponent is used, if any. -/
  lowest : Option Int
  /-- The power of ten of the first digit from which an exponent is used, if any. -/
  tooHigh : Option Int
  /-- What follows a whole number written without an exponent. -/
  wholeMark : String
  /-- Whether an exponent that is not negative has a plus sign. -/
  plusSign : Bool
  deriving Repr

/-- Positional throughout, whole numbers without a point. -/
def Layout.plain : Layout := ⟨none, none, "", false⟩

/-- Positional from `0.0001` to just below ten to the sixteenth, whole numbers with `.0`. -/
def Layout.exact : Layout := ⟨some (-4), some 16, ".0", false⟩

/-- Positional from `0.00001` to just below ten to the sixteenth, whole numbers with `.0`,
exponents signed. -/
def Layout.data : Layout := ⟨some (-5), some 16, ".0", true⟩

/-- Drops trailing zeros of the digits into the scale; the first argument bounds how many. -/
def Scaled.reduce : Nat → Scaled → Scaled
  | 0, d => d
  | n + 1, d => if d.digits % 10 = 0 ∧ d.digits ≠ 0 then
      Scaled.reduce n ⟨d.digits / 10, d.scale + 1⟩ else d

/-- The digits of a whole number. -/
def digitsText (n : Nat) : String :=
  String.ofList (Nat.toDigits 10 n)

/-- A run of zeros. -/
def zeros (n : Nat) : String :=
  String.ofList (List.replicate n '0')

/-- Writes digits with a point. -/
def positional (wholeMark : String) (d : Scaled) : String :=
  let digits := Nat.toDigits 10 d.digits
  if 0 ≤ d.scale then String.ofList digits ++ zeros d.scale.toNat ++ wholeMark
  else
    let places := (-d.scale).toNat
    if places < digits.length then
      String.ofList (digits.take (digits.length - places)) ++ "." ++
        String.ofList (digits.drop (digits.length - places))
    else "0." ++ zeros (places - digits.length) ++ String.ofList digits

/-- Writes digits with a point after the first one and an exponent. -/
def exponential (plusSign : Bool) (d : Scaled) : String :=
  let digits := Nat.toDigits 10 d.digits
  let power : Int := d.scale + digits.length - 1
  let point := if digits.length ≤ 1 then "" else "." ++ String.ofList (digits.drop 1)
  let sign := if power < 0 then "-" else if plusSign then "+" else ""
  String.ofList (digits.take 1) ++ point ++ "e" ++ sign ++ digitsText power.natAbs

/-- Writes the magnitude of a finite number. -/
def Layout.writeMagnitude (layout : Layout) (x : Double) : String :=
  if x.isZero then "0" ++ layout.wholeMark
  else
    let d := (shortest x).reduce 17
    let power : Int := d.scale + (Nat.toDigits 10 d.digits).length - 1
    if layout.lowest.any (power < ·) || layout.tooHigh.any (· ≤ power) then
      exponential layout.plusSign d
    else positional layout.wholeMark d

/-- Writes a number. -/
def Layout.write (layout : Layout) (x : Double) : String :=
  if x.isNaN then "NaN"
  else
    let sign := if x.isNegative then "-" else ""
    if x.isInfinite then sign ++ "inf" else sign ++ layout.writeMagnitude x

/-- Writes the magnitude of a finite number with one decimal, rounded to the nearest and to
the even one of two. -/
def writeTenths (x : Double) : String :=
  let (num, den) := x.ratio
  let tenths := Double.roundHalfEven (num * 10) den
  digitsText (tenths / 10) ++ "." ++ digitsText (tenths % 10)

/-- The sixteen hexadecimal digits of a number's bits. -/
def bitsText (x : Double) : String :=
  let digits := Nat.toDigits 16 x.bits.toNat
  zeros (16 - digits.length) ++ String.ofList digits

end SqlGateway.Decimal
