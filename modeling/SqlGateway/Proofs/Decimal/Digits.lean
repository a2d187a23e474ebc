import SqlGateway.Decimal.Layout
import SqlGateway.Decimal.Read
import SqlGateway.Proofs.Text.Letter
import SqlGateway.Proofs.Text.Word

/-!
# The Digits of a Whole Number

A whole number is written by its decimal digits (`digitsText`), and what reads numbers gets it
back from them: as a natural number below a bound, or as the double next to it. Digits have
neither blanks nor a sign, so nothing is trimmed from them and nothing is split off.

## Main results

* `digitsValue_digitsText`, `digitsText_injective`: the digits name one number.
* `readBelow?_digitsText`: a number below the bound is read as it was written.
* `readDouble?_digitsText`: read as a double, the digits are the double of their number.
-/

namespace SqlGateway.Decimal

open Text

variable {cs : List Char}

theorem isDigit_of_mem_digitsText {n : Nat} {c : Char} (h : c ∈ (digitsText n).toList) :
    c.isDigit = true := by
  rw [digitsText, String.toList_ofList] at h
  exact Nat.isDigit_of_mem_toDigits (by decide) (by decide) h

theorem isDigits_digitsText (n : Nat) : isDigits (digitsText n).toList = true := by
  rw [isDigits, Bool.and_eq_true, List.all_eq_true]
  refine ⟨?_, fun c hc => isDigit_of_mem_digitsText hc⟩
  rw [digitsText, String.toList_ofList, Bool.not_eq_true', List.isEmpty_eq_false_iff]
  exact Nat.toDigits_ne_nil

theorem digitsValue_digitsText (n : Nat) : digitsValue (digitsText n).toList = n := by
  rw [digitsText, String.toList_ofList]
  calc digitsValue (Nat.toDigits 10 n)
      = Nat.ofDigitChars 10 (Nat.toDigits 10 n) 0 := by
        simp only [digitsValue, Nat.ofDigitChars, Nat.mul_comm 10]
        rfl
    _ = n := Nat.ofDigitChars_ten_toDigits

theorem digitsText_injective : Function.Injective digitsText := by
  intro m n h
  rw [← digitsValue_digitsText m, h, digitsValue_digitsText]

/-! ### Signs and blanks -/

/-- A digit is not blank. -/
theorem isBlank_of_isDigit {c : Char} (h : c.isDigit = true) : isBlank c = false := by
  obtain ⟨hlow, hhigh⟩ := Char.isDigit_iff_toNat.mp h
  have hlow' : 48 ≤ c.toNat := hlow
  have hhigh' : c.toNat ≤ 57 := hhigh
  simp only [isBlank, Bool.or_eq_false_iff, Bool.and_eq_false_iff, decide_eq_false_iff_not,
    beq_eq_false_iff_ne]
  omega

theorem trimString_digitsText (n : Nat) : trimString (digitsText n) = digitsText n := by
  rw [trimString, trim_of_unblank fun c hc => isBlank_of_isDigit (isDigit_of_mem_digitsText hc),
    String.ofList_toList]

theorem isDigit_of_isDigits (h : isDigits cs = true) {c : Char} (hc : c ∈ cs) :
    c.isDigit = true := by
  rw [isDigits, Bool.and_eq_true, List.all_eq_true] at h
  exact h.2 c hc

/-- Digits have no sign. -/
theorem splitSign_of_isDigits (h : isDigits cs = true) : splitSign cs = (false, cs) := by
  unfold splitSign
  split
  · cases h
  · cases h
  · rfl

/-- A digit has no letter case. -/
theorem toLower_of_isDigit {c : Char} (h : c.isDigit = true) : c.toLower = c := by
  have hascii : c.toNat < 0x80 := (Char.isDigit_iff_toNat.mp h).2.trans_lt (by decide)
  exact of_ascii (p := fun c => c.isDigit = true → c.toLower = c) (by decide) hascii h

/-! ### Reading whole numbers -/

/-- **A number is read as it was written**, if it is below the bound. -/
theorem readBelow?_digitsText {bound n : Nat} (h : n < bound) :
    readBelow? bound (digitsText n).toList = some n := by
  have hdigits := isDigits_digitsText n
  have hsign : ∀ rest, (digitsText n).toList = '+' :: rest → False := by
    intro rest heq
    rw [heq] at hdigits
    cases hdigits
  rw [readBelow?, if_pos hdigits, digitsValue_digitsText]
  · exact if_pos h
  · exact hsign

/-- A number that is read is below the bound. -/
theorem lt_of_readBelow? {bound n : Nat} {cs : List Char} (h : readBelow? bound cs = some n) :
    n < bound := by
  simp only [readBelow?] at h
  split_ifs at h with _ hlt
  exact Option.some.inj h ▸ hlt

/-! ### Reading doubles -/

/-- A decimal without places, and not too long to be computed, is a natural number. -/
theorem ofDecimal_zero {n : Nat} (h : (Nat.toDigits 10 n).length ≤ 400) :
    ofDecimal false n 0 = Double.ofNat n := by
  by_cases hzero : n = 0
  · subst hzero
    rfl
  · simp only [ofDecimal]
    rw [if_neg hzero, if_neg (by omega), if_neg (by omega)]
    simp [Double.ofNat]

theorem readDouble?_of_isDigits (h : isDigits cs = true) :
    readDouble? cs = some (ofDecimal false (digitsValue cs) 0) := by
  have htake : cs.takeWhile Char.isDigit = cs :=
    List.takeWhile_eq_self_iff.mpr fun _ => isDigit_of_isDigits h
  have hdrop : cs.dropWhile Char.isDigit = [] :=
    List.dropWhile_eq_nil_iff.mpr fun _ => isDigit_of_isDigits h
  have hlower : cs.map Char.toLower = cs := by
    rw [List.map_congr_left fun c hc => toLower_of_isDigit (isDigit_of_isDigits h hc), List.map_id']
  have hword (word : List Char) (hw : isDigits word = false) : (cs == word) = false := by
    rw [beq_eq_false_iff_ne]
    rintro rfl
    exact Bool.false_ne_true (hw.symm.trans h)
  have hne : cs.isEmpty = false := by
    rw [isDigits, Bool.and_eq_true, Bool.not_eq_true'] at h
    exact h.1
  simp only [readDouble?, splitSign_of_isDigits h, hlower, hword "inf".toList (by decide),
    hword "infinity".toList (by decide), hword "nan".toList (by decide), Bool.or_false,
    Bool.false_eq_true, if_false]
  simp [readMagnitude?, htake, hdrop, hne, readExponent?]

/-- **The digits of a number are read as its double.** -/
theorem readDouble?_digitsText {n : Nat} (h : (Nat.toDigits 10 n).length ≤ 400) :
    readDouble? (digitsText n).toList = some (Double.ofNat n) := by
  rw [readDouble?_of_isDigits (isDigits_digitsText n), digitsValue_digitsText, ofDecimal_zero h]

end SqlGateway.Decimal
