import SqlGateway.Decimal.Double
import SqlGateway.Text.Blank

/-!
# Reading Numbers

Numbers in settings are read strictly: no surrounding blanks, no digit separators. A whole
number may have a plus sign, and a signed one a minus sign; a floating-point number has
decimal digits with an optional point, at least one digit on one side of it, and an optional
exponent, or is one of the words for infinity and for no number. Decimal digits are converted
exactly and rounded once.
-/

namespace SqlGateway.Decimal

open Text

/-- Reads a whole number that is below a bound: an optional plus sign and digits. -/
def readBelow? (bound : Nat) (cs : List Char) : Option Nat :=
  let digits := match cs with
    | '+' :: rest => rest
    | _ => cs
  if isDigits digits then
    let n := digitsValue digits
    if n < bound then some n else none
  else none

/-- Reads a signed whole number of sixty-four bits. -/
def readInt64? (cs : List Char) : Option Int :=
  match cs with
  | '-' :: digits =>
    if isDigits digits && digitsValue digits ≤ 0x8000000000000000 then
      some (-(digitsValue digits : Int))
    else none
  | _ => (readBelow? 0x8000000000000000 cs).map Int.ofNat

/-- The double nearest to `digits · 10 ^ power`. Powers so large or so small that the result
cannot be finite, or cannot differ from zero, are not computed. -/
def ofDecimal (negative : Bool) (digits : Nat) (power : Int) : Double :=
  let size : Int := (Nat.toDigits 10 digits).length + power
  if digits = 0 then Double.ofMagnitude negative 0
  else if 400 < size then Double.ofMagnitude negative Double.infinityBits
  else if size < -400 then Double.ofMagnitude negative 0
  else Double.ofRatio negative (digits * Nat.pow 10 power.toNat) (Nat.pow 10 (-power).toNat)

/-- Splits a sign off: whether it is a minus sign, and the text after it. -/
def splitSign : List Char → Bool × List Char
  | '-' :: rest => (true, rest)
  | '+' :: rest => (false, rest)
  | cs => (false, cs)

/-- Reads an exponent: nothing, or a letter `e`, an optional sign and digits. -/
def readExponent? : List Char → Option Int
  | [] => some 0
  | c :: rest =>
    if c == 'e' || c == 'E' then
      let (negative, digits) := splitSign rest
      if isDigits digits then
        some (if negative then -(digitsValue digits : Int) else digitsValue digits)
      else none
    else none

/-- Reads digits with an optional point and an optional exponent. -/
def readMagnitude? (negative : Bool) (cs : List Char) : Option Double := do
  let whole := cs.takeWhile Char.isDigit
  let rest := cs.dropWhile Char.isDigit
  let (places, tail) := match rest with
    | '.' :: after => (after.takeWhile Char.isDigit, after.dropWhile Char.isDigit)
    | _ => ([], rest)
  if whole.isEmpty && places.isEmpty then none
  let power ← readExponent? tail
  return ofDecimal negative (digitsValue (whole ++ places)) (power - places.length)

/-- The quiet pattern that stands for no number. -/
def nanBits : UInt64 := 0x7FF8000000000000

/-- Reads a floating-point number. -/
def readDouble? (cs : List Char) : Option Double :=
  let (negative, rest) := splitSign cs
  let word := rest.map Char.toLower
  if word == "inf".toList || word == "infinity".toList then
    some (Double.ofMagnitude negative Double.infinityBits)
  else if word == "nan".toList then
    some ⟨if negative then nanBits + 0x8000000000000000 else nanBits⟩
  else readMagnitude? negative rest

end SqlGateway.Decimal
