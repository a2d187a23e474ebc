import SqlGateway.Proofs.Sql.Number
import SqlGateway.Proofs.Sql.Operator

/-!
# What a Token Is Read From

A token does not tell the text it was read from: a string may be written in several ways, and so
may a blank. But a word is read from itself, a mark from its character and a blank from some blank
character. So the words of a statement stand in the text where they stand among the tokens.

## Main results

* `Reads.exists_source`: what is taken from the text for a token.
* `Scans.split`: a scan of several tokens can be stopped after any of them.
-/

namespace SqlGateway.Sql

open Text

/-- What a token can be read from. Nothing is said of numbers, strings and operators. -/
def Token.IsFrom (chars : List Char) : Token → Prop
  | .blank => ∃ c, chars = [c] ∧ isBlank c = true
  | .openParen => chars = ['(']
  | .semicolon => chars = [';']
  | .word value => chars = value
  | _ => True

/-- A number is read as such, or as a word, from itself. -/
theorem ReadsNumber.exists_source {cs u : List Char} {t : Token} (h : ReadsNumber cs t u) :
    ∃ chars, cs = chars ++ u ∧ t.IsFrom chars := by
  cases h with
  | @hex digits => exact ⟨'0' :: 'x' :: digits, rfl, trivial⟩
  | period => exact ⟨['.'], rfl, trivial⟩
  | @plain m => exact ⟨m, rfl, trivial⟩
  | @word m w => exact ⟨m ++ w, rfl, rfl⟩
  | @exponent m e => exact ⟨m ++ e, rfl, trivial⟩
  | @long m e => exact ⟨m ++ e ++ ['L'], by simp, trivial⟩

theorem exists_source_readWord (cs : List Char) :
    ∃ chars, cs = chars ++ (readWord cs).2 ∧ (readWord cs).1.IsFrom chars :=
  ⟨cs.takeWhile isWordPart, List.takeWhile_append_dropWhile.symm, rfl⟩

theorem exists_source_readAt (rest : List Char) :
    ∃ chars, '@' :: rest = chars ++ (readAt rest).2 ∧ (readAt rest).1.IsFrom chars := by
  have hname : ∀ c : Char, ∀ more front : List Char,
      ∃ chars, front ++ c :: more = chars ++ more.dropWhile isWordPart ∧
        (Token.word (front ++ c :: more.takeWhile isWordPart)).IsFrom chars := fun c more front =>
    ⟨front ++ c :: more.takeWhile isWordPart, by simp [List.takeWhile_append_dropWhile], rfl⟩
  unfold readAt
  split
  · exact ⟨['@'], rfl, trivial⟩
  · exact ⟨['@', '>'], rfl, trivial⟩
  · exact ⟨['@', '?'], rfl, trivial⟩
  · exact ⟨['@'], rfl, trivial⟩
  · split
    · exact ⟨['@', '@'], rfl, trivial⟩
    · exact ⟨['@', '@'], rfl, trivial⟩
    · exact hname _ _ ['@', '@']
  · exact hname _ _ ['@']

theorem exists_source_operator {cs op u : List Char} (h : splitOperator? cs = some (op, u)) :
    ∃ chars, cs = chars ++ u ∧ (operatorToken op).IsFrom chars := by
  refine ⟨op, (of_splitOperator? h).2, ?_⟩
  rw [operatorToken]
  split <;> trivial

theorem exists_source_readPlain (c : Char) (rest : List Char) :
    ∃ chars, c :: rest = chars ++ (readPlain c rest).2 ∧ (readPlain c rest).1.IsFrom chars := by
  rw [readPlain]
  split
  · rename_i hc
    have hblank : isBlank c = true := by
      have hcases : c = ' ' ∨ c = '\t' ∨ c = '\n' ∨ c = '\r' := by simpa [or_assoc] using hc
      rcases hcases with rfl | rfl | rfl | rfl <;> decide
    exact ⟨[c], rfl, c, rfl, hblank⟩
  split
  · rename_i hc
    exact (readsNumber_readNumber hc rest).exists_source
  rw [readSign]
  split
  · rename_i hc
    obtain rfl : c = '(' := by simpa using hc
    exact ⟨['('], rfl, rfl⟩
  split
  · exact ⟨[c], rfl, trivial⟩
  split
  · exact ⟨[c], rfl, trivial⟩
  split
  · rename_i hc
    obtain rfl : c = ';' := by simpa using hc
    exact ⟨[';'], rfl, rfl⟩
  split
  · rename_i hc
    obtain rfl : c = '@' := by simpa using hc
    exact exists_source_readAt rest
  split
  · rename_i hc
    obtain rfl : c = '?' := by simpa using hc
    exact ⟨'?' :: rest.takeWhile isNumeric, by simp [List.takeWhile_append_dropWhile], trivial⟩
  split
  · exact exists_source_readWord _
  split
  · rename_i hsplit
    exact exists_source_operator hsplit
  split
  · rename_i hblank
    exact ⟨[c], rfl, c, rfl, hblank⟩
  · exact ⟨[c], rfl, trivial⟩

/-- **What is taken from a text for a token**: a word itself, a mark, or a blank. -/
theorem Reads.exists_source {c : Char} {rest last : List Char} {t : Token}
    (h : Reads c rest t last) : ∃ chars, c :: rest = chars ++ last ∧ t.IsFrom chars := by
  have hstring : ∀ t : Token, (∀ chars, t.IsFrom chars) →
      last <:+ rest → ∃ chars, c :: rest = chars ++ last ∧ t.IsFrom chars := by
    rintro t ht ⟨before, rfl⟩
    exact ⟨c :: before, rfl, ht _⟩
  have hsuffix := h.suffix
  cases h with
  | quoted =>
      refine hstring _ (fun chars => ?_) hsuffix
      rw [sectionToken]
      split <;> trivial
  | lettered => exact hstring _ (fun _ => trivial) hsuffix
  | escaped => exact hstring _ (fun _ => trivial) hsuffix
  | plain => exact exists_source_readPlain c rest

/-- A scan can be stopped after any token. -/
theorem Scans.split {cs last : List Char} {tokens tokens' : List Token}
    (h : Scans cs (tokens ++ tokens') last) :
    ∃ mid, Scans cs tokens mid ∧ Scans mid tokens' last := by
  induction tokens generalizing cs with
  | nil => exact ⟨cs, .done cs, h⟩
  | cons t tokens ih =>
      cases h with
      | cons hread hscan =>
          obtain ⟨mid, hfirst, hsecond⟩ := ih hscan
          exact ⟨mid, .cons hread hfirst, hsecond⟩

end SqlGateway.Sql
