import Mathlib
import SqlGateway.Sql.Token

/-!
# Readers Outside Quotes Stop at Breaks

What a reader takes depends on the text only up to the first *break*, a quote or a
semicolon: no reader outside quotes goes over one. So a reader that meets a break does what
it does at the end of the text, and what stands behind the break is left as it is.

The exception is the sign `@`, which takes the next character whatever it is. The
statements about it ask that no break stands in that place.

## Main results

* `readNumber_append`, `readSign_append`: the readers of the tokenizer, one by one.
* `readPlain_append`: any token that is no quoted section.
-/

namespace SqlGateway.Sql

open Text

/-! ### Breaks -/

/-- Whether a character is a break: a quote or a semicolon. -/
def isBreak (c : Char) : Bool :=
  isQuote c || c == ';'

/-- A text that is empty or starts with a break. -/
def AtBreak (u : List Char) : Prop :=
  ∀ c ∈ u.head?, isBreak c = true

theorem isQuote_iff {c : Char} : isQuote c = true ↔ c = '\'' ∨ c = '"' ∨ c = '`' := by
  simp [isQuote, or_assoc]

theorem isBreak_iff {c : Char} :
    isBreak c = true ↔ c = '\'' ∨ c = '"' ∨ c = '`' ∨ c = ';' := by
  simp [isBreak, isQuote, or_assoc]

theorem isBreak_of_isQuote {c : Char} (h : isQuote c = true) : isBreak c = true := by
  simp [isBreak, h]

/-- No quote is a backslash. -/
theorem ne_backslash_of_isQuote {c : Char} (h : isQuote c = true) : c ≠ '\\' := by
  rintro rfl
  revert h
  decide

theorem AtBreak.nil : AtBreak [] := by
  simp [AtBreak]

theorem AtBreak.cons {c : Char} (h : isBreak c = true) (rest : List Char) :
    AtBreak (c :: rest) := by
  simpa [AtBreak] using h

/-- No break stands in a word. -/
theorem isWordPart_of_isBreak {c : Char} (h : isBreak c = true) : isWordPart c = false := by
  rcases isBreak_iff.mp h with rfl | rfl | rfl | rfl <;> decide

/-- No break is a digit. -/
theorem isDigit_of_isBreak {c : Char} (h : isBreak c = true) : c.isDigit = false := by
  rcases isBreak_iff.mp h with rfl | rfl | rfl | rfl <;> decide

/-- No break is a hexadecimal digit. -/
theorem isHexDigit_of_isBreak {c : Char} (h : isBreak c = true) : isHexDigit c = false := by
  rcases isBreak_iff.mp h with rfl | rfl | rfl | rfl <;> decide

/-- No break is numeric. -/
theorem isNumeric_of_isBreak {c : Char} (h : isBreak c = true) : isNumeric c = false := by
  rcases isBreak_iff.mp h with rfl | rfl | rfl | rfl <;> decide

section

variable {u : List Char} {p : Char → Bool}

/-- A run of characters ends before a break that does not belong to it. -/
theorem takeWhile_append_of_atBreak (hp : ∀ c, isBreak c = true → p c = false)
    (hu : AtBreak u) (cs : List Char) : (cs ++ u).takeWhile p = cs.takeWhile p := by
  induction cs with
  | nil =>
      cases u with
      | nil => rfl
      | cons c rest => simp [hp c (hu c rfl)]
  | cons c cs ih => by_cases h : p c <;> simp [h, ih]

/-- What follows a run of characters keeps what stands behind a break. -/
theorem dropWhile_append_of_atBreak (hp : ∀ c, isBreak c = true → p c = false)
    (hu : AtBreak u) (cs : List Char) : (cs ++ u).dropWhile p = cs.dropWhile p ++ u := by
  induction cs with
  | nil =>
      cases u with
      | nil => rfl
      | cons c rest => simp [hp c (hu c rfl)]
  | cons c cs ih => by_cases h : p c <;> simp [h, ih]

end

/-! ### Readers outside quotes stop at a break -/

/-- A number without a point that is not written in hexadecimal. -/
theorem readNumber_of_plain {cs : List Char}
    (hx : ¬ (cs.takeWhile Char.isDigit = ['0'] ∧ (cs.dropWhile Char.isDigit).head? = some 'x'))
    (hp : (cs.dropWhile Char.isDigit).head? ≠ some '.') :
    readNumber cs =
      finishNumber (cs.takeWhile Char.isDigit) (cs.dropWhile Char.isDigit) := by
  rw [readNumber]
  dsimp only
  split
  · rename_i after hwhole hrest
    exact absurd ⟨hwhole, by simp [hrest]⟩ hx
  · rename_i after hrest
    exact absurd (by simp [hrest]) hp
  · rfl

section

variable {u : List Char} (hu : AtBreak u)

include hu

theorem splitExponent?_append (cs : List Char) :
    splitExponent? (cs ++ u) = (splitExponent? cs).map fun r => (r.1, r.2 ++ u) := by
  have htake := takeWhile_append_of_atBreak (fun _ => isDigit_of_isBreak) hu
  have hdrop := dropWhile_append_of_atBreak (fun _ => isDigit_of_isBreak) hu
  match cs with
  | [] =>
      cases u with
      | nil => rfl
      | cons c rest =>
          rcases isBreak_iff.mp (hu c rfl) with rfl | rfl | rfl | rfl <;> rfl
  | [e] =>
      cases u with
      | nil => cases h : splitExponent? [e] <;> simp [h]
      | cons c rest =>
          rcases isBreak_iff.mp (hu c rfl) with rfl | rfl | rfl | rfl <;>
            by_cases he : (e == 'e' || e == 'E') <;> simp [splitExponent?]
  | e :: d :: more =>
      have key : ∀ sign : List Char, sign.length ≤ 1 →
          (if ((d :: more ++ u).drop sign.length).takeWhile Char.isDigit |>.isEmpty then none
            else some (e :: sign ++ ((d :: more ++ u).drop sign.length).takeWhile Char.isDigit,
              ((d :: more ++ u).drop sign.length).dropWhile Char.isDigit)) =
          (if ((d :: more).drop sign.length).takeWhile Char.isDigit |>.isEmpty then none
            else some (e :: sign ++ ((d :: more).drop sign.length).takeWhile Char.isDigit,
              ((d :: more).drop sign.length).dropWhile Char.isDigit)).map
            fun r => (r.1, r.2 ++ u) := by
        intro sign hs
        rw [List.drop_append_of_le_length (by simp; omega), htake, hdrop]
        split <;> rfl
      by_cases he : (e == 'e' || e == 'E')
      · by_cases hp : d = '+'
        · subst hp
          simpa [splitExponent?, he] using key ['+'] (by simp)
        by_cases hm : d = '-'
        · subst hm
          simpa [splitExponent?, he] using key ['-'] (by simp)
        · simpa [splitExponent?, he, hp, hm] using key [] (by simp)
      · simp [splitExponent?, he]
/-- A number ends before a break. -/
theorem finishNumber_append (digits rest : List Char) :
    finishNumber digits (rest ++ u) =
      ((finishNumber digits rest).1, (finishNumber digits rest).2 ++ u) := by
  have htake := takeWhile_append_of_atBreak (fun _ => isWordPart_of_isBreak) hu rest
  have hdrop := dropWhile_append_of_atBreak (fun _ => isWordPart_of_isBreak) hu rest
  have hstart : startsWithE (rest ++ u) = startsWithE rest := by
    cases rest with
    | nil =>
        cases u with
        | nil => rfl
        | cons c _ => rcases isBreak_iff.mp (hu c rfl) with rfl | rfl | rfl | rfl <;> rfl
    | cons _ _ => rfl
  simp only [finishNumber, splitExponent?_append hu rest, hstart, htake, hdrop]
  rcases splitExponent? rest with _ | ⟨exponent, after⟩
  · simp only [Option.map_none]
    split
    · rfl
    · split <;> rfl
  · cases after with
    | nil =>
        cases u with
        | nil => rfl
        | cons c _ => rcases isBreak_iff.mp (hu c rfl) with rfl | rfl | rfl | rfl <;> rfl
    | cons d more => by_cases hd : d = 'L' <;> simp [hd]

/-- A number, or a point, ends before a break. -/
theorem readNumber_append (cs : List Char) :
    readNumber (cs ++ u) = ((readNumber cs).1, (readNumber cs).2 ++ u) := by
  have htake := takeWhile_append_of_atBreak (fun _ => isDigit_of_isBreak) hu
  have hdrop := dropWhile_append_of_atBreak (fun _ => isDigit_of_isBreak) hu
  have hhead : ∀ d, isBreak d = false →
      ((cs.dropWhile Char.isDigit ++ u).head? = some d ↔
        (cs.dropWhile Char.isDigit).head? = some d) := by
    intro d hd
    cases cs.dropWhile Char.isDigit with
    | nil =>
        refine ⟨fun h => ?_, by simp⟩
        rw [List.nil_append] at h
        rw [hu d h] at hd
        cases hd
    | cons _ _ => simp
  by_cases hx : cs.takeWhile Char.isDigit = ['0'] ∧ (cs.dropWhile Char.isDigit).head? = some 'x'
  · obtain ⟨after, hafter⟩ := List.head?_eq_some_iff.mp hx.2
    have hhex := takeWhile_append_of_atBreak (fun _ => isHexDigit_of_isBreak) hu after
    have hhexDrop := dropWhile_append_of_atBreak (fun _ => isHexDigit_of_isBreak) hu after
    simp [readNumber, htake, hdrop, hx.1, hafter, hhex, hhexDrop]
  by_cases hp : (cs.dropWhile Char.isDigit).head? = some '.'
  · obtain ⟨after, hafter⟩ := List.head?_eq_some_iff.mp hp
    have hfin := finishNumber_append hu
      (cs.takeWhile Char.isDigit ++ '.' :: after.takeWhile Char.isDigit)
      (after.dropWhile Char.isDigit)
    simp only [readNumber, htake, hdrop, hafter, List.cons_append, hfin]
    split <;> rfl
  · rw [readNumber_of_plain (by rwa [htake, hdrop, hhead 'x' (by decide)])
      (by rwa [hdrop, Ne, hhead '.' (by decide)]), readNumber_of_plain hx hp, htake, hdrop,
      finishNumber_append hu]

/-- A start that has no break is found in front of a break or not at all. -/
theorem dropStart?_append {start : List Char} (hstart : ∀ c ∈ start, isBreak c = false)
    (cs : List Char) : dropStart? start (cs ++ u) = (dropStart? start cs).map (· ++ u) := by
  induction start generalizing cs with
  | nil => rfl
  | cons x xs ih =>
      cases cs with
      | nil =>
          cases u with
          | nil => rfl
          | cons c rest =>
              have hx : x ≠ c := fun h => by
                have := hstart x List.mem_cons_self
                rw [h, hu c rfl] at this
                cases this
              simp [dropStart?, hx]
      | cons c cs =>
          by_cases hx : x = c
          · simpa [dropStart?, hx] using ih (fun d hd => hstart d (List.mem_cons_of_mem x hd)) cs
          · simp [dropStart?, hx]

/-- No operator has a break in it. -/
theorem splitOperator?_append (cs : List Char) :
    splitOperator? (cs ++ u) = (splitOperator? cs).map fun r => (r.1, r.2 ++ u) := by
  have hops : ∀ op ∈ operators, ∀ c ∈ op.toList, isBreak c = false := by
    have hall : ∀ op ∈ operators, op.toList.all (!isBreak ·) = true := by decide
    intro op hop c hc
    simpa using List.all_eq_true.mp (hall op hop) c hc
  unfold splitOperator?
  rw [List.map_findSome?]
  generalize operators = list at hops ⊢
  induction list with
  | nil => rfl
  | cons op ops ih =>
      have hop := dropStart?_append hu (hops op List.mem_cons_self) cs
      have hrest := ih fun o ho => hops o (List.mem_cons_of_mem op ho)
      simp only [List.findSome?_cons, hop, hrest, Function.comp_apply]
      cases dropStart? op.toList cs <;> rfl

/-- What starts with `@` stops at a break that does not follow the sign itself. -/
theorem readAt_append {rest : List Char} (hne : u ≠ [] → rest ≠ [] ∧ rest ≠ ['@']) :
    readAt (rest ++ u) = ((readAt rest).1, (readAt rest).2 ++ u) := by
  have htake := takeWhile_append_of_atBreak (fun _ => isWordPart_of_isBreak) hu
  have hdrop := dropWhile_append_of_atBreak (fun _ => isWordPart_of_isBreak) hu
  by_cases hu₀ : u = []
  · simp [hu₀]
  obtain ⟨hnil, hat⟩ := hne hu₀
  cases rest with
  | nil => exact absurd rfl hnil
  | cons c more =>
      by_cases hgt : c = '>'
      · subst hgt; rfl
      by_cases hq : c = '?'
      · subst hq; rfl
      by_cases hs : c = ' '
      · subst hs; rfl
      by_cases ha : c = '@'
      · subst ha
        cases more with
        | nil => exact absurd rfl hat
        | cons d more =>
            by_cases hd : d = ' '
            · subst hd; rfl
            · simp [readAt, htake, hdrop]
      · simp [readAt, htake, hdrop]

/-- What is neither a string nor a number stops at a break that does not follow the sign
`@` itself. -/
theorem readSign_append {c : Char} {rest : List Char}
    (hat : c = '@' → u ≠ [] → rest ≠ [] ∧ rest ≠ ['@']) :
    readSign c (rest ++ u) = ((readSign c rest).1, (readSign c rest).2 ++ u) := by
  have hword := takeWhile_append_of_atBreak (fun _ => isWordPart_of_isBreak) hu (c :: rest)
  have hwordDrop := dropWhile_append_of_atBreak (fun _ => isWordPart_of_isBreak) hu (c :: rest)
  have hnum := takeWhile_append_of_atBreak (fun _ => isNumeric_of_isBreak) hu rest
  have hnumDrop := dropWhile_append_of_atBreak (fun _ => isNumeric_of_isBreak) hu rest
  have hop := splitOperator?_append hu (c :: rest)
  simp only [List.cons_append] at hword hwordDrop hop
  unfold readSign
  split; · rfl
  split; · rfl
  split; · rfl
  split; · rfl
  split
  · rename_i h
    exact readAt_append hu (hat (by simpa using h))
  split
  · rw [hnum, hnumDrop]
  split
  · rw [readWord, hword, hwordDrop, readWord]
  · rw [hop]
    cases splitOperator? (c :: rest) with
    | none =>
        dsimp only [Option.map_none]
        split <;> rfl
    | some _ => rfl

end

/-! ### Tokens that are no quoted sections -/

/-- Reads a token that is no quoted section, from its first character. -/
def readPlain (c : Char) (rest : List Char) : TokenStep :=
  if c == ' ' || c == '\t' || c == '\n' || c == '\r' then (.blank, rest)
  else if c.isDigit || c == '.' then readNumber (c :: rest)
  else readSign c rest

/-- A reader outside quotes stops at a break that does not follow the sign `@` itself. -/
theorem readPlain_append {u : List Char} (hu : AtBreak u) {c : Char} {rest : List Char}
    (hat : c = '@' → u ≠ [] → rest ≠ [] ∧ rest ≠ ['@']) :
    readPlain c (rest ++ u) = ((readPlain c rest).1, (readPlain c rest).2 ++ u) := by
  unfold readPlain
  split; · rfl
  split
  · exact readNumber_append hu (c :: rest)
  · exact readSign_append hu hat

/-! ### What a reader outside quotes leaves is the end of the text -/

theorem suffix_of_splitExponent? {cs : List Char} {r : List Char × List Char}
    (h : splitExponent? cs = some r) : r.2 <:+ cs := by
  cases cs with
  | nil => cases h
  | cons e rest =>
      have key : ∀ sign : List Char,
          (rest.drop sign.length).dropWhile Char.isDigit <:+ e :: rest := fun sign =>
        (List.dropWhile_suffix _).trans ((List.drop_suffix _ _).trans (List.suffix_cons e rest))
      simp only [splitExponent?] at h
      split at h
      · split at h <;> (split at h <;> cases h; exact key _)
      · cases h

theorem finishNumber_suffix (digits rest : List Char) :
    (finishNumber digits rest).2 <:+ rest := by
  rw [finishNumber]
  split
  · rename_i h
    exact (List.suffix_cons 'L' _).trans (suffix_of_splitExponent? h)
  · rename_i h
    exact suffix_of_splitExponent? h
  · dsimp only
    split
    · exact List.suffix_rfl
    · split
      · exact List.suffix_rfl
      · exact List.dropWhile_suffix _

/-- A number takes its first character. -/
theorem readNumber_suffix {c : Char} {rest : List Char} (h : c.isDigit || c == '.') :
    (readNumber (c :: rest)).2 <:+ rest := by
  have hdrop : (c :: rest).dropWhile Char.isDigit <:+ rest ∨
      (c :: rest).dropWhile Char.isDigit = '.' :: rest := by
    by_cases hd : c.isDigit
    · left
      rw [List.dropWhile_cons_of_pos hd]
      exact List.dropWhile_suffix _
    · right
      have hc : c = '.' := by simpa [hd] using h
      subst hc
      rfl
  rw [readNumber]
  dsimp only
  split
  · rename_i after _ heq
    rcases hdrop with hl | he
    · rw [heq] at hl
      exact (List.dropWhile_suffix _).trans ((List.suffix_cons 'x' after).trans hl)
    · rw [heq] at he
      simp at he
  · rename_i after heq
    have hafter : after <:+ rest := by
      rcases hdrop with hl | he
      · rw [heq] at hl
        exact (List.suffix_cons '.' after).trans hl
      · rw [heq] at he
        cases he
        exact List.suffix_rfl
    split
    · exact hafter
    · exact (finishNumber_suffix _ _).trans ((List.dropWhile_suffix _).trans hafter)
  · rename_i hdot _
    rcases hdrop with hl | he
    · exact (finishNumber_suffix _ _).trans hl
    · exact absurd he (hdot rest)

theorem readAt_suffix (rest : List Char) : (readAt rest).2 <:+ rest := by
  unfold readAt
  split
  · exact List.suffix_rfl
  · exact List.suffix_cons _ _
  · exact List.suffix_cons _ _
  · exact List.suffix_rfl
  · split
    · exact List.suffix_cons _ _
    · exact List.suffix_cons _ _
    · rename_i c more _
      exact (List.dropWhile_suffix _).trans
        ((List.suffix_cons c more).trans (List.suffix_cons '@' _))
  · rename_i c more _ _ _ _
    exact (List.dropWhile_suffix _).trans (List.suffix_cons c more)

theorem readSign_suffix (c : Char) (rest : List Char) : (readSign c rest).2 <:+ rest := by
  rw [readSign]
  split; · exact List.suffix_rfl
  split; · exact List.suffix_rfl
  split; · exact List.suffix_rfl
  split; · exact List.suffix_rfl
  split; · exact readAt_suffix rest
  split; · exact List.dropWhile_suffix _
  split
  · rename_i h
    have hp : isWordPart c = true := by simp [isWordPart, h]
    rw [readWord, List.dropWhile_cons_of_pos hp]
    exact List.dropWhile_suffix _
  · split
    · rename_i op after h
      obtain ⟨op', hop, hr⟩ := List.exists_of_findSome?_eq_some h
      obtain ⟨after', hafter, heq⟩ := Option.map_eq_some_iff.mp hr
      cases heq
      have hall : ∀ op ∈ operators, op.toList ≠ [] := by decide
      have happ := dropStart?_eq_some hafter
      obtain ⟨x, xs, hx⟩ := List.exists_cons_of_ne_nil (hall op' hop)
      rw [hx] at happ
      exact ⟨xs, (List.cons.inj happ).2.symm⟩
    · split <;> exact List.suffix_rfl

/-- A token that is no quoted section takes its first character, and what it leaves is the
end of the text. -/
theorem readPlain_suffix (c : Char) (rest : List Char) : (readPlain c rest).2 <:+ rest := by
  rw [readPlain]
  split; · exact List.suffix_rfl
  split
  · rename_i h
    exact readNumber_suffix h
  · exact readSign_suffix c rest

end SqlGateway.Sql
