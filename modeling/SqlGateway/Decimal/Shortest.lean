import SqlGateway.Decimal.Double

/-!
# Shortest Decimal Digits

The digits of a finite number, not zero: the fewest that still name it and no other, and of
these the ones nearest to it. A decimal names the number if it lies in the interval of the
reals that round to it; the ends of the interval belong to it when the significand is even.
For one digit, then two, up to seventeen, the two neighbours of the number on the grid of
decimals with that many digits are tried, all in exact arithmetic.
-/

namespace SqlGateway.Decimal

/-- A decimal with its digits as one number: `digits · 10 ^ scale`. -/
structure Scaled where
  digits : Nat
  scale : Int
  deriving DecidableEq, Repr, Inhabited

/-- Compares `a · 10 ^ p` with `b · 2 ^ s`. -/
def compareScaled (a : Nat) (p : Int) (b : Nat) (s : Int) : Ordering :=
  compare (a * Nat.pow 10 p.toNat * Nat.pow 2 (-s).toNat)
    (b * Nat.pow 2 s.toNat * Nat.pow 10 (-p).toNat)

/-- Whether a decimal rounds to the number `m · 2 ^ q`. The step to the next smaller number
is half as wide when `m` is the least significand of its exponent. -/
def namesDouble (m : Nat) (q : Int) (d : Scaled) : Bool :=
  let below := if m = 0x10000000000000 ∧ -1074 < q then 1 else 2
  let low := compareScaled d.digits d.scale (4 * m - below) (q - 2)
  let high := compareScaled d.digits d.scale (4 * m + 2) (q - 2)
  let even := m % 2 == 0
  (low == .gt || (even && low == .eq)) && (high == .lt || (even && high == .eq))

/-- The power of ten of the first digit of `num / den`: the largest `k` with
`10 ^ k ≤ num / den`, found by correcting a guess from the binary logarithms. -/
def leadingPower (num den : Nat) : Int :=
  let bits : Int := (num.log2 : Int) - den.log2
  let guess : Int := (bits * 30103).fdiv 100000
  let reaches (k : Int) : Bool := den * Nat.pow 10 k.toNat ≤ num * Nat.pow 10 (-k).toNat
  if reaches (guess + 1) then guess + 1
  else if reaches guess then guess
  else guess - 1

/-- The neighbours of `num / den` on the grid of multiples of `10 ^ scale`: the largest
multiple that is not above it, and the next one; and whether the second is the nearer. -/
def gridNeighbours (num den : Nat) (scale : Int) : Nat × Bool :=
  let n := num * Nat.pow 10 (-scale).toNat
  let d := den * Nat.pow 10 scale.toNat
  let floor := n / d
  let twice := 2 * (n % d)
  (floor, d < twice || (twice == d && floor % 2 == 1))

/-- Tries grids of growing fineness, `tries` of them. -/
def shortestFrom (m : Nat) (q : Int) (num den : Nat) (scale : Int) : Nat → Scaled
  | 0 => ⟨(gridNeighbours num den scale).1, scale⟩
  | tries + 1 =>
    let (floor, upIsNearer) := gridNeighbours num den scale
    let down : Scaled := ⟨floor, scale⟩
    let up : Scaled := ⟨floor + 1, scale⟩
    match namesDouble m q down, namesDouble m q up with
    | true, true => if upIsNearer then up else down
    | true, false => down
    | false, true => up
    | false, false => shortestFrom m q num den (scale - 1) tries

/-- The shortest decimal that names a finite number, not zero. -/
def shortest (x : Double) : Scaled :=
  let (num, den) := x.ratio
  shortestFrom x.significand x.exponent num den (leadingPower num den) 17

end SqlGateway.Decimal
