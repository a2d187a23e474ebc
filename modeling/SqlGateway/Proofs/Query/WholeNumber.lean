import SqlGateway.Proofs.Decimal.Digits
import SqlGateway.Proofs.Decimal.Rounding
import SqlGateway.Query.Value

/-!
# Whole Numbers as Values

A whole number of sixty-four bits, with a sign or without one, becomes a value in one of two
ways. As a number of the program (`ofInteger`) it is a signed whole number if it fits, and its
digits otherwise; either way its text can be read off the value. As structured data
(`Value.ofJson`) it is a signed whole number if it fits, too. But otherwise it becomes a double,
and the doubles of that size are the multiples of 2048: the value tells what the number was
rounded to, and not which number it was.

## Main results

* `ofInteger_eq`, `ofJson_ofInt`: what a whole number becomes in either way.
* `number_display_ofInteger`: the text that structured data has for the number is the display of
  its value.
* `ofJson_ofInt_eq_iff`: which numbers become the same value as structured data.
* `integer_conversions_agree_iff`: the two ways agree, and the second one tells the number, exactly
  for the numbers that fit a signed whole number.
-/

namespace SqlGateway

/-! ### The text of a whole number -/

namespace Json

theorem wholeNumber?_digitsText (n : Nat) :
    wholeNumber? (Decimal.digitsText n) = some (n : Int) := by
  have hdigits := Decimal.isDigits_digitsText n
  unfold wholeNumber?
  split
  · rename_i heq
    rw [heq] at hdigits
    cases hdigits
  · rw [if_pos hdigits, Decimal.digitsValue_digitsText]

/-- A whole number is read from its text, minus sign included. -/
theorem wholeNumber?_display_int (n : Int) : wholeNumber? (Value.int n).display = some n := by
  rw [Value.display]
  split
  · rename_i hneg
    have htext : ("-" ++ Decimal.digitsText n.natAbs).toList =
        '-' :: (Decimal.digitsText n.natAbs).toList := String.toList_append
    rw [wholeNumber?, htext]
    simp only [Decimal.isDigits_digitsText, Decimal.digitsValue_digitsText, Bool.true_and]
    rw [if_pos (by simpa using (show n ≠ 0 by omega))]
    congr 1
    omega
  · rw [wholeNumber?_digitsText]
    congr 1
    omega

theorem doubleOf_digitsText {n : Nat} (h : n < 2 ^ 64) :
    doubleOf (Decimal.digitsText n) = Decimal.Double.ofNat n := by
  have hlength : (Nat.toDigits 10 n).length ≤ 20 :=
    (Nat.length_toDigits_le_iff (by decide) (by decide)).mpr (h.trans (by decide))
  rw [doubleOf, Decimal.readDouble?_digitsText (by omega), Option.getD_some]

end Json

namespace Value

open Decimal.Double (roundHalfEven)

variable {m n : Int}

/-- Whether a whole number has sixty-four bits, with a sign or without one. -/
def IsWord (n : Int) : Prop :=
  -2 ^ 63 ≤ n ∧ n < 2 ^ 64

instance : Decidable (IsWord n) :=
  inferInstanceAs (Decidable (_ ∧ _))

/-- A number of the program as a value: as a signed one if it is one, and else as one without a
sign. -/
def ofInteger (n : Int) : Value :=
  if fitsInt64 n then ofInt n else ofNat n.toNat

/-- Whether a number can be recovered from what it is converted to: no other one is converted to
the same value. -/
def Recovers (convert : Int → Value) (n : Int) : Prop :=
  ∀ m, IsWord m → convert m = convert n → m = n

/-! ### The two conversions -/

theorem fitsInt64_iff (h : IsWord n) : fitsInt64 n = true ↔ n < 2 ^ 63 := by
  obtain ⟨hlow, -⟩ := h
  rw [fitsInt64, Bool.and_eq_true, decide_eq_true_iff, decide_eq_true_iff]
  omega

theorem display_int_of_nonneg (h : 0 ≤ n) : (int n).display = Decimal.digitsText n.toNat := by
  rw [display, if_neg (by omega), show n.natAbs = n.toNat by omega]

/-- What becomes of a number of the program. -/
theorem ofInteger_eq (h : IsWord n) :
    ofInteger n = if n < 2 ^ 63 then .int n else .string (Decimal.digitsText n.toNat) := by
  by_cases hfits : n < 2 ^ 63
  · rw [ofInteger, if_pos ((fitsInt64_iff h).mpr hfits), if_pos hfits, ofInt]
  · rw [ofInteger, if_neg (mt (fitsInt64_iff h).mp hfits), if_neg hfits, ofNat, if_neg (by omega)]

/-- What becomes of a number that is given as structured data. -/
theorem ofJson_ofInt (h : IsWord n) :
    ofJson (Json.ofInt n) =
      if n < 2 ^ 63 then .int n else .float (Decimal.Double.ofNat n.toNat) := by
  have hliteral : ofJson (Json.ofInt n) =
      if fitsInt64 n then .int n else .float (Json.doubleOf (int n).display) := by
    change ofLiteral (int n).display = _
    rw [ofLiteral, Json.wholeNumber?_display_int]
  rw [hliteral]
  by_cases hfits : n < 2 ^ 63
  · rw [if_pos ((fitsInt64_iff h).mpr hfits), if_pos hfits]
  · have hhigh := h.2
    rw [if_neg (mt (fitsInt64_iff h).mp hfits), if_neg hfits, display_int_of_nonneg (by omega),
      Json.doubleOf_digitsText (by omega)]

/-! ### A number of the program -/

/-- The text that structured data has for a number is the display of its value. -/
theorem number_display_ofInteger (h : IsWord n) :
    Json.number (ofInteger n).display = Json.ofInt n := by
  change _ = Json.number (int n).display
  rw [ofInteger_eq h]
  split
  · rfl
  · rw [display_int_of_nonneg (by omega), display]

/-- **A number of the program can be recovered** from its value: its text is read as the number. -/
theorem recovers_ofInteger (h : IsWord n) : Recovers ofInteger n := by
  intro m hm heq
  have hdata : Json.ofInt m = Json.ofInt n := by
    rw [← number_display_ofInteger hm, ← number_display_ofInteger h, heq]
  have hread : Json.wholeNumber? (int m).display = Json.wholeNumber? (int n).display :=
    congrArg Json.wholeNumber? (Json.number.inj hdata)
  rw [Json.wholeNumber?_display_int, Json.wholeNumber?_display_int] at hread
  exact Option.some.inj hread

/-! ### A number as structured data -/

theorem log2_toNat (hlow : 2 ^ 63 ≤ n) (h : IsWord n) : n.toNat.log2 = 63 := by
  have hhigh := h.2
  exact (Nat.log2_eq_iff (by omega)).mpr ⟨by omega, by omega⟩

/-- The double of a large number is the nearest multiple of 2048. -/
theorem ratio_ofNat_toNat (hlow : 2 ^ 63 ≤ n) (h : IsWord n) :
    (Decimal.Double.ofNat n.toNat).ratio = (roundHalfEven n.toNat 2048 * 2048, 1) := by
  have hlog := log2_toNat hlow h
  have hratio := Decimal.Double.ratio_ofNat (n := n.toNat) (by omega) (by omega)
  rwa [hlog] at hratio

/-- **Which numbers become the same value** as structured data: large ones with the same nearest
multiple of 2048. -/
theorem ofJson_ofInt_eq_iff (hm : IsWord m) (hn : IsWord n) :
    ofJson (Json.ofInt m) = ofJson (Json.ofInt n) ↔
      m = n ∨ (2 ^ 63 ≤ m ∧ 2 ^ 63 ≤ n ∧
        roundHalfEven m.toNat 2048 = roundHalfEven n.toNat 2048) := by
  rw [ofJson_ofInt hm, ofJson_ofInt hn]
  by_cases hfitsm : m < 2 ^ 63 <;> by_cases hfitsn : n < 2 ^ 63
  · rw [if_pos hfitsm, if_pos hfitsn, int.injEq]
    omega
  · rw [if_pos hfitsm, if_neg hfitsn]
    simp only [reduceCtorEq, false_iff]
    omega
  · rw [if_neg hfitsm, if_pos hfitsn]
    simp only [reduceCtorEq, false_iff]
    omega
  · have hlogm := log2_toNat (not_lt.mp hfitsm) hm
    have hlogn := log2_toNat (not_lt.mp hfitsn) hn
    have hround := Decimal.Double.ofNat_inj_iff (m := m.toNat) (n := n.toNat) (by omega) (by omega)
      (hlogm.trans hlogn.symm) (by omega)
    rw [hlogn] at hround
    rw [if_neg hfitsm, if_neg hfitsn, float.injEq, hround]
    constructor
    · exact fun heq => .inr ⟨not_lt.mp hfitsm, not_lt.mp hfitsn, heq⟩
    · rintro (rfl | ⟨-, -, heq⟩)
      · rfl
      · exact heq

/-- A number as structured data can be recovered exactly if it fits a signed whole number. -/
theorem recovers_ofJson_iff (h : IsWord n) :
    Recovers (fun m => ofJson (Json.ofInt m)) n ↔ n < 2 ^ 63 := by
  constructor
  · intro hrecovers
    by_contra hlarge
    have hhigh := h.2
    obtain ⟨m, hne, hquotient, hround⟩ := Decimal.Double.exists_ne_roundHalfEven_eq n.toNat
    have hm : IsWord m := ⟨by omega, by omega⟩
    have heq := hrecovers m hm ((ofJson_ofInt_eq_iff hm h).mpr
      (.inr ⟨by omega, by omega, by rwa [Int.toNat_natCast]⟩))
    omega
  · intro hfits m hm heq
    rcases (ofJson_ofInt_eq_iff hm h).mp heq with heq | ⟨-, hlarge, -⟩
    · exact heq
    · omega

/-! ### Both conversions -/

/-- **Where the two conversions agree**: for every whole number of sixty-four bits, with a sign or
without one, exactly if it fits a signed one. So far a number can be recovered from what it becomes
as structured data; beyond, it becomes a double, the nearest multiple of 2048, and some other
number becomes the same. As a number of the program it can always be recovered, and its text is
the display of its value. -/
theorem integer_conversions_agree_iff (h : IsWord n) :
    (ofJson (Json.ofInt n) = ofInteger n ↔ n < 2 ^ 63) ∧
      (Recovers (fun m => ofJson (Json.ofInt m)) n ↔ n < 2 ^ 63) ∧
      (2 ^ 63 ≤ n → ∃ x, ofJson (Json.ofInt n) = .float x ∧ x.isNegative = false ∧
        x.ratio = (roundHalfEven n.toNat 2048 * 2048, 1)) ∧
      Recovers ofInteger n ∧ Json.number (ofInteger n).display = Json.ofInt n := by
  refine ⟨?_, recovers_ofJson_iff h, ?_, recovers_ofInteger h, number_display_ofInteger h⟩
  · rw [ofJson_ofInt h, ofInteger_eq h]
    by_cases hfits : n < 2 ^ 63
    · rw [if_pos hfits, if_pos hfits]
      exact iff_of_true rfl hfits
    · rw [if_neg hfits, if_neg hfits]
      exact iff_of_false Value.noConfusion hfits
  · intro hlarge
    refine ⟨Decimal.Double.ofNat n.toNat, ?_, ?_, ratio_ofNat_toNat hlarge h⟩
    · rw [ofJson_ofInt h, if_neg (by omega)]
    · rw [Decimal.Double.ofNat_eq_ofMagnitude (by omega)]
      exact Decimal.Double.isNegative_ofMagnitude _

/-- A number half-way between two doubles goes to the even one. -/
theorem integer_conversions_agree_of_tie :
    IsWord 9223372036854776832 ∧
      ¬ Recovers (fun m => ofJson (Json.ofInt m)) 9223372036854776832 ∧
      ∃ x, ofJson (Json.ofInt 9223372036854776832) = .float x ∧
        x.ratio = (9223372036854775808, 1) := by
  have hword : IsWord 9223372036854776832 := by decide
  obtain ⟨-, hrecovers, hdouble, -⟩ := integer_conversions_agree_iff hword
  obtain ⟨x, hx, -, hratio⟩ := hdouble (by decide)
  exact ⟨hword, mt hrecovers.mp (by decide), x, hx, hratio⟩

/-- The largest number without a sign becomes a double, and so does the one before it, whereas
its digits are kept if it is a number of the program. -/
theorem integer_conversions_differ :
    IsWord 18446744073709551615 ∧
      ofJson (Json.ofInt 18446744073709551615) ≠ ofInteger 18446744073709551615 ∧
      ofInteger 18446744073709551615 = .string "18446744073709551615" ∧
      ofJson (Json.ofInt 18446744073709551615) = .float ⟨0x43F0000000000000⟩ ∧
      ofJson (Json.ofInt 18446744073709551614) = ofJson (Json.ofInt 18446744073709551615) := by
  decide +kernel

end Value

end SqlGateway
