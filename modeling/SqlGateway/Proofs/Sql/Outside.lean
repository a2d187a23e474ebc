import SqlGateway.Proofs.Sql.Number
import SqlGateway.Proofs.Sql.Operator

/-!
# Tokens Outside Quotes

`ReadsOutside cs t u` says that outside quotes `t` is read from `cs` and `u` is left. It has one
case for each kind of token that is no quoted section, and each case has what must hold of the
text behind the token: no more letters behind a word, no more digits behind a parameter. A
variable (`@…`) is not among them.

## Main results

* `readsOutside_readPlain`, `readPlain_of_readsOutside`: the reader is the relation.
-/

namespace SqlGateway.Sql

open Text

/-- The tokens of one character that always stand for themselves. -/
def mark? (c : Char) : Option Token :=
  if c = '(' then some .openParen
  else if c = ')' then some .closeParen
  else if c = ',' then some .comma
  else if c = ';' then some .semicolon
  else none

/-- Whether a character outside quotes is a sign of its own that is no operator. -/
def isOther (c : Char) : Bool :=
  !isBlank c && !isWordPart c && !isOperatorChar c &&
    !(['.', '(', ')', ',', ';', '?'].contains c)

/-- `ReadsOutside cs t u`: outside quotes `t` is read from `cs` and `u` is left. -/
inductive ReadsOutside : List Char → Token → List Char → Prop
  | blank {c : Char} {u : List Char} (hblank : isBlank c = true) (hascii : c.toNat < 0x80) :
      ReadsOutside (c :: u) .blank u
  | mark {c : Char} {t : Token} {u : List Char} (hmark : mark? c = some t) :
      ReadsOutside (c :: u) t u
  | parameter {digits u : List Char} (hdigits : ∀ c ∈ digits, isNumeric c = true)
      (hu : ∀ c ∈ u.head?, isNumeric c = false) :
      ReadsOutside ('?' :: digits ++ u) (.sign ('?' :: digits)) u
  | word {c : Char} {w u : List Char} (hstart : isWordStart c = true) (hat : c ≠ '@')
      (hw : ∀ d ∈ w, isWordPart d = true) (hu : ∀ d ∈ u.head?, isWordPart d = false) :
      ReadsOutside (c :: w ++ u) (.word (c :: w)) u
  | number {c : Char} {rest u : List Char} {t : Token} (hstart : (c.isDigit || c == '.') = true)
      (hread : ReadsNumber (c :: rest) t u) : ReadsOutside (c :: rest) t u
  | operator {c : Char} {rest op u : List Char} (hstart : isOperatorChar c = true)
      (hsplit : splitOperator? (c :: rest) = some (op, u)) :
      ReadsOutside (c :: rest) (operatorToken op) u
  | other {c : Char} {u : List Char} (hother : isOther c = true) :
      ReadsOutside (c :: u) (.sign [c]) u

/-- No operator starts with another sign. -/
theorem splitOperator?_of_isOther {c : Char} (h : isOther c = true) (rest : List Char) :
    splitOperator? (c :: rest) = none := by
  simp only [isOther, Bool.and_eq_true, Bool.not_eq_true'] at h
  rw [Option.eq_none_iff_forall_not_mem]
  rintro ⟨op, u⟩ hsplit
  obtain ⟨hop, hsource⟩ := of_splitOperator? hsplit
  cases op with
  | nil =>
      have hlength := length_lt_of_splitOperator? hsplit
      rw [hsource] at hlength
      simp at hlength
  | cons d op =>
      cases hsource
      have hat : c ≠ '@' := by
        rintro rfl
        exact absurd h.1.1.2 (by decide)
      have hoperator := isOperatorChar_of_mem hop (c := c) (by simp) hat
      rw [h.1.2] at hoperator
      cases hoperator

/-- **The reader outside quotes as a relation**, with one case for each kind of token. -/
theorem readPlain_of_readsOutside {c : Char} {rest u : List Char} {t : Token}
    (h : ReadsOutside (c :: rest) t u) : readPlain c rest = (t, u) := by
  generalize hcs : c :: rest = cs at h
  cases h with
  | blank hblank hascii =>
      cases hcs
      exact readPlain_of_isBlank hblank hascii rest
  | mark hmark =>
      cases hcs
      rw [mark?] at hmark
      split_ifs at hmark with h₁ h₂ h₃ h₄ <;> cases hmark
      · rw [h₁]
        rfl
      · rw [h₂]
        rfl
      · rw [h₃]
        rfl
      · rw [h₄]
        rfl
  | parameter hdigits hu =>
      cases hcs
      have htake := takeWhile_run hdigits hu
      have hdrop := dropWhile_run hdigits hu
      simp [readPlain, readSign, htake, hdrop]
  | word hstart hat hw hu =>
      cases hcs
      have hall : ∀ d ∈ c :: _, isWordPart d = true := List.forall_mem_cons.mpr
        ⟨by rw [isWordPart, hstart, Bool.true_or], hw⟩
      rw [readPlain_of_isWordStart hstart hat, readWord]
      exact Prod.ext (congrArg Token.word (takeWhile_run hall hu)) (dropWhile_run hall hu)
  | number hstart hread =>
      cases hcs
      have hblank : (c == ' ' || c == '\t' || c == '\n' || c == '\r') = false := by
        rw [Bool.eq_false_iff]
        intro hc
        simp only [Bool.or_eq_true, beq_iff_eq] at hc
        rcases hc with ((rfl | rfl) | rfl) | rfl <;> exact absurd hstart (by decide)
      rw [readPlain, hblank, hstart, readNumber_of_readsNumber hread]
      rfl
  | operator hstart hsplit =>
      cases hcs
      exact readPlain_of_isOperatorChar hstart hsplit
  | other hother =>
      cases hcs
      have hnone := splitOperator?_of_isOther hother rest
      simp only [isOther, Bool.and_eq_true, Bool.not_eq_true', List.contains_eq_mem,
        decide_eq_false_iff_not, List.mem_cons, List.not_mem_nil, or_false, not_or, isWordPart,
        Bool.or_eq_false_iff] at hother
      obtain ⟨⟨⟨hblank, hword, hdigit⟩, -⟩, hpoint, hopen, hclose, hcomma, hsemi, hmark⟩ := hother
      have hne : ∀ d, isBlank d = true ∨ isWordStart d = true → (c == d) = false := by
        rintro d hd
        rw [beq_eq_false_iff_ne]
        rintro rfl
        rw [hblank, hword] at hd
        simp at hd
      rw [readPlain, readSign, hne ' ' (by decide), hne '\t' (by decide), hne '\n' (by decide),
        hne '\r' (by decide), hne '@' (by decide), hnone, hword, hdigit, hblank]
      simp [hpoint, hopen, hclose, hcomma, hsemi, hmark]

/-- What is read outside quotes, character by character. -/
theorem readsOutside_readPlain {c : Char} (hascii : c.toNat < 0x80) (hat : c ≠ '@')
    (rest : List Char) : ReadsOutside (c :: rest) (readPlain c rest).1 (readPlain c rest).2 := by
  suffices hread : ∃ t u, ReadsOutside (c :: rest) t u by
    obtain ⟨t, u, hread⟩ := hread
    rwa [readPlain_of_readsOutside hread]
  by_cases hblank : isBlank c = true
  · exact ⟨_, _, .blank hblank hascii⟩
  by_cases hnumber : (c.isDigit || c == '.') = true
  · exact ⟨_, _, .number hnumber (readsNumber_readNumber hnumber rest)⟩
  by_cases hword : isWordStart c = true
  · have happ := List.takeWhile_append_dropWhile (p := isWordPart) (l := rest)
    have hread : ReadsOutside (c :: rest.takeWhile isWordPart ++ rest.dropWhile isWordPart) _ _ :=
      .word hword hat (fun d hd => List.mem_takeWhile_imp hd) head?_dropWhile
    rw [List.cons_append, happ] at hread
    exact ⟨_, _, hread⟩
  by_cases hoperator : isOperatorChar c = true
  · obtain ⟨op, u, hsplit⟩ := exists_splitOperator? hoperator rest
    exact ⟨_, _, .operator hoperator hsplit⟩
  by_cases hquestion : c = '?'
  · subst hquestion
    have happ := List.takeWhile_append_dropWhile (p := isNumeric) (l := rest)
    have hread : ReadsOutside ('?' :: rest.takeWhile isNumeric ++ rest.dropWhile isNumeric) _ _ :=
      .parameter (fun d hd => List.mem_takeWhile_imp hd) head?_dropWhile
    rw [List.cons_append, happ] at hread
    exact ⟨_, _, hread⟩
  by_cases hmark : (mark? c).isSome = true
  · obtain ⟨t, ht⟩ := Option.isSome_iff_exists.mp hmark
    exact ⟨_, _, .mark ht⟩
  · refine ⟨_, _, .other ?_⟩
    rw [Bool.not_eq_true] at hblank hword hoperator
    simp only [Bool.or_eq_true, beq_iff_eq, not_or, Bool.not_eq_true] at hnumber
    simp only [mark?] at hmark
    split_ifs at hmark with h₁ h₂ h₃ h₄
    · exact absurd rfl hmark
    · exact absurd rfl hmark
    · exact absurd rfl hmark
    · exact absurd rfl hmark
    · simp [isOther, isWordPart, hblank, hword, hoperator, hnumber.1, hnumber.2, hquestion, h₁, h₂,
        h₃, h₄]

end SqlGateway.Sql
