import Mathlib
import SqlGateway.Text.Pattern

/-!
# Kinds of Characters

Letters, blanks and name characters: a blank stands in no name, and the letters of a word that
a pattern is looked for with are word characters in every form.

## Main results

* `isAlpha_of_isUpper_toUpper`: what becomes a capital letter is a letter.
* `isBlank_of_isNameChar`: a name character is no blank.
* `isWordChar_of_sameLetter`: every form of a capital letter is a word character.
-/

namespace SqlGateway.Text

/-- What holds of the first 128 code points holds of every character in ASCII. -/
theorem of_ascii {p : Char → Prop} (h : ∀ n < 0x80, p (Char.ofNat n)) {c : Char}
    (hc : c.toNat < 0x80) : p c := by
  have hp := h c.toNat hc
  rwa [Char.ofNat_toNat] at hp

/-- Only letters in ASCII become capital letters in ASCII. -/
theorem isAlpha_of_isUpper_toUpper {c : Char} (h : c.toUpper.isUpper = true) :
    c.toNat < 0x80 ∧ c.isAlpha = true := by
  have hascii : c.toNat < 0x80 := by
    rw [Char.toUpper] at h
    split at h
    · rename_i hlower
      exact Nat.lt_of_le_of_lt (UInt32.le_iff_toNat_le.mp hlower.2) (by decide)
    · rw [Char.isUpper, decide_eq_true_eq] at h
      exact Nat.lt_of_le_of_lt (UInt32.le_iff_toNat_le.mp h.2) (by decide)
  exact ⟨hascii, of_ascii (p := fun c => c.toUpper.isUpper = true → c.isAlpha = true)
    (by decide) hascii h⟩

/-- A letter in ASCII is no blank. -/
theorem isBlank_of_isAlpha {c : Char} (hascii : c.toNat < 0x80) (h : c.isAlpha = true) :
    isBlank c = false :=
  of_ascii (p := fun c => c.isAlpha = true → isBlank c = false) (by decide) hascii h

/-! ### Blanks and names -/

/-- The code points of the blanks. -/
def blankCodes : List Nat :=
  [9, 10, 11, 12, 13, 0x20, 0x85, 0xA0, 0x1680, 0x2000, 0x2001, 0x2002, 0x2003, 0x2004, 0x2005,
    0x2006, 0x2007, 0x2008, 0x2009, 0x200A, 0x2028, 0x2029, 0x202F, 0x205F, 0x3000]

theorem mem_blankCodes {c : Char} (h : isBlank c = true) : c.toNat ∈ blankCodes := by
  simp only [isBlank, Bool.or_eq_true, Bool.and_eq_true, decide_eq_true_eq, beq_iff_eq] at h
  simp only [blankCodes, List.mem_cons, List.not_mem_nil, or_false]
  omega

/-- A space is a blank. -/
theorem isBlank_of_mem_space : ∀ c ∈ [' '], isBlank c = true :=
  List.all_eq_true.mp (by decide)

/-- No blank stands in a name. -/
theorem isNameChar_of_isBlank {c : Char} (h : isBlank c = true) : isNameChar c = false := by
  have hall : ∀ n ∈ blankCodes, isNameChar (Char.ofNat n) = false := by decide +kernel
  have hc := hall c.toNat (mem_blankCodes h)
  rwa [Char.ofNat_toNat] at hc

theorem isBlank_of_isNameChar {c : Char} (h : isNameChar c = true) : isBlank c = false := by
  by_contra hblank
  rw [isNameChar_of_isBlank (Bool.not_eq_false _ ▸ hblank)] at h
  cases h

theorem isNameChar_of_isWordChar {c : Char} (h : isWordChar c = true) : isNameChar c = true := by
  rw [isNameChar, h, Bool.true_or]

/-- No blank stands in a word. -/
theorem isWordChar_of_isBlank {c : Char} (h : isBlank c = true) : isWordChar c = false := by
  rw [← Bool.not_eq_true]
  intro hword
  rw [isBlank_of_isNameChar (isNameChar_of_isWordChar hword)] at h
  cases h

theorem toNat_lt_of_isAlphanum {c : Char} (h : c.isAlphanum = true) : c.toNat < 0x80 := by
  simp only [Char.isAlphanum, Char.isAlpha, Char.isUpper, Char.isLower, Char.isDigit,
    Bool.or_eq_true, Bool.and_eq_true, decide_eq_true_eq, UInt32.le_iff_toNat_le, ge_iff_le] at h
  change ((65 ≤ c.toNat ∧ c.toNat ≤ 90) ∨ (97 ≤ c.toNat ∧ c.toNat ≤ 122)) ∨
    (48 ≤ c.toNat ∧ c.toNat ≤ 57) at h
  omega

/-! ### Letters of a pattern -/

theorem isWordChar_of_isAlpha {c : Char} (hascii : c.toNat < 0x80) (h : c.isAlpha = true) :
    isWordChar c = true := by
  simp [isWordChar, hascii, Char.isAlphanum, h]

/-- Every form of a capital letter is a word character. -/
theorem isWordChar_of_sameLetter {capital c : Char} (hcapital : capital.isUpper = true)
    (h : sameLetter capital c = true) : isWordChar c = true := by
  simp only [sameLetter, Bool.or_eq_true, Bool.and_eq_true, beq_iff_eq] at h
  rcases h with (rfl | ⟨-, rfl⟩) | ⟨-, rfl⟩
  · obtain ⟨hascii, halpha⟩ := isAlpha_of_isUpper_toUpper hcapital
    exact isWordChar_of_isAlpha hascii halpha
  · decide +kernel
  · decide +kernel

end SqlGateway.Text
