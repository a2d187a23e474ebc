import Mathlib.Data.Nat.Log
import Mathlib.Tactic.Ring
import Mathlib.Tactic.SplitIfs
import SqlGateway.Decimal.Double

/-!
# Which Double a Natural Number Is Rounded to

The significand of a double has fifty-three bits. So the doubles of the size of a natural number
`n` of more bits are the multiples of `2 ^ (n.log2 - 52)`, and the double of `n` is the nearest of
them, the even one of two. The rounded significand may be the next power of two, which has a bit
more; as the bits of a double are a sum, this bit carries over into the exponent, and the result
is the double with the next exponent and the least significand.

Nothing is claimed here of numbers below `2 ^ 52`, which are doubles themselves, nor of those
from `2 ^ 1023`, which may be rounded to infinity.

## Main results

* `ratio_ofNat`: the magnitude of the double of a natural number.
* `ofNat_inj_iff`: two numbers have the same double exactly if they are rounded alike.
* `exists_ne_roundHalfEven_eq`: no number is the only one to be rounded as it is.
-/

namespace SqlGateway.Decimal.Double

variable {num den m n k bound : Nat}

/-! ### Rounded quotients -/

/-- A quotient is rounded to one of the two whole numbers next to it. -/
theorem roundHalfEven_bounds (num den : Nat) :
    num / den ≤ roundHalfEven num den ∧ roundHalfEven num den ≤ num / den + 1 := by
  simp only [roundHalfEven]
  split_ifs <;> omega

theorem roundHalfEven_le (h : num < bound * den) : roundHalfEven num den ≤ bound := by
  have hquotient : num / den < bound := Nat.div_lt_of_lt_mul (Nat.mul_comm bound den ▸ h)
  have hround := (roundHalfEven_bounds num den).2
  omega

theorem le_roundHalfEven (hden : 0 < den) (h : bound * den ≤ num) :
    bound ≤ roundHalfEven num den :=
  ((Nat.le_div_iff_mul_le hden).mpr h).trans (roundHalfEven_bounds num den).1

/-- **No number is the only one to be rounded as it is**: one of its two neighbours has the same
quotient and is rounded alike. -/
theorem exists_ne_roundHalfEven_eq (n : Nat) :
    ∃ m, m ≠ n ∧ m / 2048 = n / 2048 ∧ roundHalfEven m 2048 = roundHalfEven n 2048 := by
  simp only [roundHalfEven]
  -- The neighbour on the side that the number is rounded to is rounded alike. Only at the end of
  -- the block on this side it has another quotient; there the other neighbour serves.
  by_cases hup : 1024 < n % 2048 ∨ n % 2048 = 1024 ∧ n / 2048 % 2 = 1
  · by_cases hend : n % 2048 = 2047
    · exact ⟨n - 1, by omega, by omega, by split_ifs <;> omega⟩
    · exact ⟨n + 1, by omega, by omega, by split_ifs <;> omega⟩
  · by_cases hend : n % 2048 = 0
    · exact ⟨n + 1, by omega, by omega, by split_ifs <;> omega⟩
    · exact ⟨n - 1, by omega, by omega, by split_ifs <;> omega⟩

/-! ### Doubles from their bits -/

theorem infinityBits_lt : infinityBits < 0x8000000000000000 := by decide

theorem toNat_bits_ofMagnitude (negative : Bool) (magnitude : Nat) :
    (ofMagnitude negative magnitude).bits.toNat =
      min magnitude infinityBits + if negative then 0x8000000000000000 else 0 := by
  have hbound := infinityBits_lt
  rw [ofMagnitude, UInt64.toNat_ofNat', Nat.mod_eq_of_lt]
  split <;> omega

theorem isNegative_ofMagnitude (magnitude : Nat) :
    (ofMagnitude false magnitude).isNegative = false := by
  have hbound := infinityBits_lt
  rw [isNegative, toNat_bits_ofMagnitude, decide_eq_false_iff_not, if_neg Bool.false_ne_true]
  omega

theorem magnitudeBits_ofMagnitude {magnitude : Nat} (h : magnitude ≤ infinityBits) :
    (ofMagnitude false magnitude).magnitudeBits = magnitude := by
  have hbound := infinityBits_lt
  rw [magnitudeBits, toNat_bits_ofMagnitude, if_neg Bool.false_ne_true]
  omega

/-- **A significand of fifty-three bits and an exponent** are the magnitude of a double. The next
power of two is a significand too: the bits carry over into the exponent. -/
theorem ratio_ofMagnitude (hlow : 2 ^ 52 ≤ m) (hhigh : m ≤ 2 ^ 53) (hk : k ≤ 970) :
    (ofMagnitude false ((k + 1074) * 0x10000000000000 + m)).ratio = (m * 2 ^ k, 1) := by
  set x := ofMagnitude false ((k + 1074) * 0x10000000000000 + m)
  have hbits : x.magnitudeBits = (k + 1074) * 0x10000000000000 + m :=
    magnitudeBits_ofMagnitude (by rw [infinityBits]; omega)
  obtain hlt | rfl := hhigh.lt_or_eq
  · have hfield : x.exponentField = k + 1075 := by
      rw [exponentField, hbits]
      omega
    have hsignificand : x.significand = m := by
      rw [significand, hbits, hfield, if_neg (by omega)]
      omega
    have hexponent : x.exponent = k := by
      rw [exponent, hfield, if_neg (by omega)]
      omega
    simp [ratio, hsignificand, hexponent]
  · have hfield : x.exponentField = k + 1076 := by
      rw [exponentField, hbits]
      omega
    have hsignificand : x.significand = 2 ^ 52 := by
      rw [significand, hbits, hfield, if_neg (by omega)]
      omega
    have hexponent : x.exponent = (k + 1 : Nat) := by
      rw [exponent, hfield, if_neg (by omega)]
      omega
    have hcarry : 2 ^ 52 * 2 ^ (k + 1) = 2 ^ 53 * 2 ^ k := by ring
    rw [ratio, hsignificand, hexponent]
    exact Prod.ext hcarry rfl

/-! ### Natural numbers -/

theorem exponentFor_one (h : 2 ^ 52 ≤ n) : exponentFor n 1 = ((n.log2 - 52 : Nat) : Int) := by
  have hlog : 52 ≤ n.log2 := (Nat.le_log2 (by omega)).mpr h
  have hguess : (n.log2 : Int) - (Nat.log2 1 : Nat) - 52 = ((n.log2 - 52 : Nat) : Int) := by
    rw [show Nat.log2 1 = 0 from rfl]
    omega
  have hreach : ¬ n < 2 ^ (n.log2 - 52) * 0x10000000000000 := by
    have hself := Nat.log2_self_le (n := n) (by omega)
    rw [show (0x10000000000000 : Nat) = 2 ^ 52 from rfl, ← Nat.pow_add, Nat.sub_add_cancel hlog]
    omega
  simp only [exponentFor, hguess]
  simp [hreach]

/-- The bits of the double of a natural number of at least fifty-three bits. -/
theorem ofNat_eq_ofMagnitude (h : 2 ^ 52 ≤ n) :
    ofNat n = ofMagnitude false
      ((n.log2 - 52 + 1074) * 0x10000000000000 + roundHalfEven n (2 ^ (n.log2 - 52))) := by
  have hfield : (((n.log2 - 52 : Nat) : Int) + 1074).toNat = n.log2 - 52 + 1074 := by omega
  have hneg : (-((n.log2 - 52 : Nat) : Int)).toNat = 0 := by omega
  rw [ofNat, ofRatio, if_neg (by omega)]
  simp only [exponentFor_one h, hfield, hneg, Int.toNat_natCast]
  simp

/-- **The double of a natural number** of at least fifty-three bits is the nearest multiple of the
unit of its significand. -/
theorem ratio_ofNat (h : 2 ^ 52 ≤ n) (hlog : n.log2 < 1023) :
    (ofNat n).ratio = (roundHalfEven n (2 ^ (n.log2 - 52)) * 2 ^ (n.log2 - 52), 1) := by
  have hlog' : 52 ≤ n.log2 := (Nat.le_log2 (by omega)).mpr h
  rw [ofNat_eq_ofMagnitude h]
  refine ratio_ofMagnitude (le_roundHalfEven (Nat.two_pow_pos _) ?_) (roundHalfEven_le ?_)
    (by omega)
  · rw [← Nat.pow_add, Nat.add_sub_cancel' hlog']
    exact Nat.log2_self_le (by omega)
  · rw [← Nat.pow_add, show 53 + (n.log2 - 52) = n.log2 + 1 by omega]
    exact Nat.lt_log2_self

/-- Two numbers with as many bits **have the same double exactly if they are rounded alike**. -/
theorem ofNat_inj_iff (hm : 2 ^ 52 ≤ m) (hn : 2 ^ 52 ≤ n) (hsize : m.log2 = n.log2)
    (hlog : n.log2 < 1023) :
    ofNat m = ofNat n ↔
      roundHalfEven m (2 ^ (n.log2 - 52)) = roundHalfEven n (2 ^ (n.log2 - 52)) := by
  constructor
  · intro heq
    have hratio := congrArg (·.ratio.1) heq
    simp only [ratio_ofNat hm (hsize ▸ hlog), ratio_ofNat hn hlog, hsize] at hratio
    exact Nat.eq_of_mul_eq_mul_right (Nat.two_pow_pos _) hratio
  · intro hround
    rw [ofNat_eq_ofMagnitude hm, ofNat_eq_ofMagnitude hn, hsize, hround]

end SqlGateway.Decimal.Double
