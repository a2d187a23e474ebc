import SqlGateway.Proofs.Gate.Answer
import SqlGateway.Proofs.Gate.Pattern

/-!
# Blocked Patterns Between Blanks

A blocked pattern may be any text that is not blank. It stands on its own in a text where there is
a blank or nothing on each side of it. If the pattern starts and ends with a word character, it is
found there. Otherwise it is not: next to another character the word boundary that is looked for
needs a word character on the other side. So a text may consist of little else than the pattern
without being reported.

## Main results

* `hasPattern_of_delimited`: a pattern that starts and ends with word characters is found.
* `hasWordEnds_of_hasPattern`: where another pattern stands at the end of a comment, it is not.
* `delimited_reported`: which patterns are reported wherever they stand on their own.
-/

namespace SqlGateway.Gate

open Sql Text Statement Policy

/-- The text `cs` has the pattern in it, apart from the case of letters in ASCII, with a blank or
nothing on each side. -/
def Delimited (pattern cs : List Char) : Prop :=
  ∃ before found after, cs = before ++ (found ++ after) ∧
    found.map Char.toLower = pattern.map Char.toLower ∧
    (∀ c ∈ before.getLast?, isBlank c = true) ∧ ∀ c ∈ after.head?, isBlank c = true

/-- The text starts and ends with a word character. -/
def HasWordEnds (cs : List Char) : Prop :=
  startsWord cs = true ∧ cs.getLast?.any isWordChar = true

instance (cs : List Char) : Decidable (HasWordEnds cs) :=
  inferInstanceAs (Decidable (_ ∧ _))

/-- A pattern as it is kept: trimmed, in upper case and not empty. -/
structure IsKept (pattern : List Char) : Prop where
  trimmed : trim pattern = pattern
  capital : upper pattern = pattern
  ne_nil : pattern ≠ []

theorem isKept_of_mem {policy : Policy} (hpolicy : policy.Reachable) {pattern : String}
    (hpattern : pattern ∈ policy.blockedPatterns) : IsKept pattern.toList := by
  obtain ⟨value, hvalue⟩ := hpolicy.patternsAreRead
  rw [hvalue] at hpattern
  obtain ⟨htrim, hupper⟩ := trim_upper_of_mem_readPatterns hpattern
  exact ⟨htrim, hupper, htrim ▸ trim_of_mem_readPatterns hpattern⟩

namespace IsKept

variable {pattern : List Char}

theorem head (h : IsKept pattern) : ∀ c ∈ pattern.head?, isBlank c = false := by
  rw [← h.trimmed]
  exact head?_trim pattern

theorem getLast (h : IsKept pattern) : ∀ c ∈ pattern.getLast?, isBlank c = false := by
  rw [← h.trimmed]
  exact getLast?_trim pattern

theorem exists_last (h : IsKept pattern) :
    ∃ last, pattern.getLast? = some last ∧ isBlank last = false :=
  ⟨_, List.getLast?_eq_some_getLast h.ne_nil, h.getLast _ (List.getLast?_eq_some_getLast h.ne_nil)⟩

/-- Such a pattern is its words with blanks between them. -/
theorem spread (h : IsKept pattern) : Spread IsBlanks (words pattern) pattern := by
  obtain ⟨last, hlast, hblank⟩ := h.exists_last
  have hspread := spread_words hlast hblank
  rwa [dropWhile_of_head h.head] at hspread

/-- Behind blanks, such a pattern is the only place where its words stand. -/
theorem eq_of_spread (h : IsKept pattern) {gap before phrase after : List Char}
    (hgap : ∀ c ∈ gap, isBlank c = true) (hsplit : gap ++ pattern = before ++ (phrase ++ after))
    (hspread : Spread IsBlanks (words pattern) phrase) :
    (∀ c ∈ before, isBlank c = true) ∧ phrase = pattern ∧ after = [] := by
  have hws := areWords_words pattern
  -- The words take up all characters that are no blanks.
  have hcount := congrArg (fun cs => (cs.filter fun c => !isBlank c).length) hsplit
  have hnone : gap.filter (fun c => !isBlank c) = [] :=
    List.filter_eq_nil_iff.mpr fun c hc => by simp [hgap c hc]
  simp only [List.filter_append, List.length_append, hnone, List.length_nil,
    hspread.filter_eq hws, h.spread.filter_eq hws] at hcount
  have hblank : ∀ cs : List Char, (cs.filter fun c => !isBlank c).length = 0 →
      ∀ c ∈ cs, isBlank c = true := by
    intro cs hzero
    simpa [List.filter_eq_nil_iff] using List.length_eq_zero_iff.mp hzero
  have hbefore := hblank before (by omega)
  have hafter : after = [] := by
    rcases List.eq_nil_or_concat after with hnil | ⟨front, c, rfl⟩
    · exact hnil
    · obtain ⟨last, hlast, hnot⟩ := h.exists_last
      have hends := congrArg List.getLast? hsplit
      rw [List.getLast?_append, hlast] at hends
      have heq : last = c := by simpa using hends
      rw [heq, hblank (front.concat c) (by omega) c (by simp)] at hnot
      cases hnot
  obtain ⟨c, rest, hhead, hc⟩ := hspread.exists_nonblank_head hws
  have hdrop := congrArg (List.dropWhile isBlank) hsplit
  rw [hafter, List.append_nil, dropWhile_run hgap h.head, dropWhile_run hbefore] at hdrop
  · exact ⟨hbefore, hdrop.symm, hafter⟩
  · rw [hhead]
    exact fun d hd => Option.some.inj hd ▸ hc

end IsKept

/-! ### Patterns that are found -/

/-- **A pattern that starts and ends with word characters is found** where it stands on its own. -/
theorem hasPattern_of_delimited {pattern : String} (hkept : IsKept pattern.toList)
    (hends : HasWordEnds pattern.toList) {cs : List Char} (h : Delimited pattern.toList cs) :
    hasPattern pattern (upper cs) = true := by
  obtain ⟨before, found, after, rfl, hfound, hbefore, hafter⟩ := h
  have hsame : upper found = pattern.toList := by
    rw [← upper_map_toLower, hfound, upper_map_toLower, hkept.capital]
  have hfront := getLast?_upper upperChar_of_isBlank hbefore
  have hback := head?_upper upperChar_of_isBlank hafter
  refine (hasPattern_iff hkept.spread.ne_nil).mpr
    ⟨upper before, pattern.toList, upper after, ?_, hkept.spread, ?_, ?_⟩
  · rw [upper_append, upper_append, hsame]
  · rw [isWordBoundary_of_before fun c hc => isWordChar_of_isBlank (hfront c hc)]
    obtain ⟨c, rest, hsplit⟩ := List.exists_cons_of_ne_nil hkept.ne_nil
    have hstart := hends.1
    rw [hsplit] at hstart ⊢
    exact hstart
  · rw [isWordBoundary_of_after fun c hc => isWordChar_of_isBlank (hback c hc)]
    exact hends.2

/-- A text that has a pattern in upper case is not blank. -/
theorem exists_nonblank_of_hasPattern {pattern : String} (hne : words pattern.toList ≠ [])
    {cs : List Char} (h : hasPattern pattern (upper cs) = true) :
    ∃ c ∈ cs, isBlank c = false := by
  by_contra! hblank
  simp only [Bool.ne_false_iff] at hblank
  rw [upper_of_isBlank hblank] at h
  obtain ⟨before, phrase, after, rfl, hspread, -⟩ := (hasPattern_iff hne).mp h
  obtain ⟨c, rest, rfl, hc⟩ := hspread.exists_nonblank_head (areWords_words pattern.toList)
  rw [hblank c (by simp)] at hc
  cases hc

/-! ### Patterns that are not found -/

/-- A comment to the end of the text, with a pattern at its end. -/
def commentOn (pattern : List Char) : List Char :=
  '#' :: ' ' :: pattern

theorem delimited_commentOn (pattern : List Char) : Delimited pattern (commentOn pattern) :=
  ⟨['#', ' '], pattern, [], by simp [commentOn], rfl, by simp [isBlank], by simp⟩

/-- **Where a pattern stands at the end of a comment**, it is found only if it starts and ends with
word characters. -/
theorem hasWordEnds_of_hasPattern {pattern : String} (hkept : IsKept pattern.toList)
    (h : hasPattern pattern (commentOn pattern.toList) = true) : HasWordEnds pattern.toList := by
  obtain ⟨before, phrase, after, hsplit, hspread, hfront, hback⟩ :=
    (hasPattern_iff hkept.spread.ne_nil).mp h
  cases before with
  | nil =>
      -- No word starts with the number sign.
      rw [List.nil_append] at hsplit
      rw [← hsplit] at hfront
      cases hfront
  | cons d before =>
      rw [commentOn, List.cons_append, List.cons.injEq] at hsplit
      obtain ⟨rfl, hrest⟩ := hsplit
      obtain ⟨hbefore, rfl, rfl⟩ := hkept.eq_of_spread isBlank_of_mem_space hrest hspread
      rw [isWordBoundary_of_before, List.append_nil] at hfront
      · rw [isWordBoundary_of_after (by simp)] at hback
        exact ⟨hfront, hback⟩
      · intro c hc
        rcases List.mem_cons.mp (List.mem_of_getLast? hc) with rfl | hc
        · decide
        · exact isWordChar_of_isBlank (hbefore c hc)

/-- Nothing is left of such a comment. -/
theorem normalized_commentOn {pattern : List Char} (hline : '\n' ∉ pattern) :
    (parse (String.ofList (commentOn pattern))).normalized = "" := by
  have hdrop : (' ' :: pattern).dropWhile (· != '\n') = [] := by
    rw [List.dropWhile_eq_nil_iff]
    intro c hc
    rcases List.mem_cons.mp hc with rfl | hc
    · decide
    · exact bne_iff_ne.mpr fun heq => hline (heq ▸ hc)
  have hcuts : Cuts false '#' (' ' :: pattern) _ := .hash rfl
  have hstrip : stripComments (commentOn pattern) = [] := by
    rw [stripComments, commentOn, pieces, nextPiece_eq_iff.mpr hcuts, hdrop]
    simp [pieces, Piece.kept]
  rw [parse, String.toList_ofList, hstrip]
  rfl

/-- What is reported of a pattern is there in the text or in its normal form. -/
theorem hasPattern_of_mem_violations {sql : String} {policy : Policy} {pattern : String}
    (h : ⟨.pattern, "blocked pattern '" ++ pattern ++ "' found"⟩ ∈ (check sql policy).violations) :
    hasPattern pattern (upper sql.toList) = true ∨
      hasPattern pattern (upper (parse sql).normalized.toList) = true := by
  have hmem : _ ∈ reports sql (parse sql) policy .pattern :=
    mem_reports_of_check h rfl (by decide)
  rw [reports, patternViolations] at hmem
  split at hmem
  · obtain ⟨found, hfound, heq⟩ := List.mem_map.mp hmem
    have hmessage := congrArg (fun v => v.message.toList) heq
    have hsame : found = pattern := by
      simpa [String.toList_append, String.toList_inj] using hmessage
    rw [← hsame, ← Bool.or_eq_true]
    exact (List.mem_filter.mp hfound).2
  · cases hmem

/-! ### Patterns that are reported -/

/-- **Which patterns are reported wherever they stand on their own**, with the query check on: each
that starts and ends with word characters, and no other that is short enough to stand in a text at
all and has no line break. -/
theorem delimited_reported {policy : Policy} (hpolicy : policy.Reachable)
    (hcheck : policy.queryCheck = true) {pattern : String}
    (hpattern : pattern ∈ policy.blockedPatterns) :
    (HasWordEnds pattern.toList → ∀ sql : String, Delimited pattern.toList sql.toList →
      sql.toList.length ≤ policy.maxLength →
      ⟨.pattern, "blocked pattern '" ++ pattern ++ "' found"⟩ ∈ (check sql policy).violations) ∧
    (¬ HasWordEnds pattern.toList → '\n' ∉ pattern.toList →
      pattern.toList.length + 2 ≤ policy.maxLength →
      ∃ sql : String, Delimited pattern.toList sql.toList ∧
        sql.toList.length ≤ policy.maxLength ∧
        ⟨.pattern, "blocked pattern '" ++ pattern ++ "' found"⟩ ∉
          (check sql policy).violations) := by
  have hkept := isKept_of_mem hpolicy hpattern
  constructor
  · intro hends sql hsql hlength
    have hfound := hasPattern_of_delimited hkept hends hsql
    obtain ⟨c, hc, hblank⟩ := exists_nonblank_of_hasPattern hkept.spread.ne_nil hfound
    have hread := rejection?_eq_none hc hblank hlength
    rw [String.ofList_toList] at hread
    exact mem_violations_of_hasPattern hread hcheck hpattern (.inl hfound)
  · intro hends hline hlength
    refine ⟨String.ofList (commentOn pattern.toList), ?_, ?_, fun hmem => hends ?_⟩
    · rw [String.toList_ofList]
      exact delimited_commentOn _
    · rwa [String.toList_ofList]
    · have hupper : upper (commentOn pattern.toList) = commentOn pattern.toList := by
        have hfront : upper (['#', ' '] ++ pattern.toList) = ['#', ' '] ++ pattern.toList := by
          rw [upper_append, hkept.capital]
          rfl
        exact hfront
      rcases hasPattern_of_mem_violations hmem with hfound | hfound
      · rw [String.toList_ofList, hupper] at hfound
        exact hasWordEnds_of_hasPattern hkept hfound
      · rw [normalized_commentOn hline] at hfound
        cases hfound

/-- A pattern of words, in a text in other letter case, and one that starts with two signs. -/
theorem delimited_reported_of_two :
    ⟨.pattern, "blocked pattern 'DROP TABLE' found"⟩ ∈
        (check "SELECT 1; Drop table" (after [[("MYSQL_BLOCKED_PATTERNS",
          "drop table, @@version")]])).violations ∧
      ∃ sql : String, Delimited "@@VERSION".toList sql.toList ∧
        ⟨.pattern, "blocked pattern '@@VERSION' found"⟩ ∉ (check sql
          (after [[("MYSQL_BLOCKED_PATTERNS", "drop table, @@version")]])).violations := by
  obtain ⟨hwords, -⟩ := @delimited_reported _
    (reachable_after [[("MYSQL_BLOCKED_PATTERNS", "drop table, @@version")]]) (by decide +kernel)
    "DROP TABLE" (by decide +kernel)
  obtain ⟨-, hsigns⟩ := @delimited_reported _
    (reachable_after [[("MYSQL_BLOCKED_PATTERNS", "drop table, @@version")]]) (by decide +kernel)
    "@@VERSION" (by decide +kernel)
  have htext : Delimited "DROP TABLE".toList "SELECT 1; Drop table".toList :=
    ⟨"SELECT 1; ".toList, "Drop table".toList, [], by decide, by decide,
      by simpa using (by decide : isBlank ' ' = true), by simp⟩
  obtain ⟨sql, hsql, -, hmem⟩ := hsigns (by decide +kernel) (by decide) (by decide +kernel)
  exact ⟨hwords (by decide +kernel) _ htext (by decide +kernel), sql, hsql, hmem⟩

/-- A statement with a pattern on its own that starts with two signs is allowed. -/
theorem not_mem_violations_of_signs :
    ∃ policy : Policy, policy.Reachable ∧ policy.queryCheck = true ∧
      "@@VERSION" ∈ policy.blockedPatterns ∧
      Delimited "@@VERSION".toList "SELECT @@version LIMIT 1".toList ∧
      "SELECT @@version LIMIT 1".toList.length ≤ policy.maxLength ∧
      ⟨.pattern, "blocked pattern '@@VERSION' found"⟩ ∉
        (check "SELECT @@version LIMIT 1" policy).violations ∧
      (check "SELECT @@version LIMIT 1" policy).allowed = true :=
  ⟨after [[("MYSQL_BLOCKED_PATTERNS", "@@VERSION")]], reachable_after _, by decide +kernel,
    by decide +kernel, ⟨"SELECT ".toList, "@@version".toList, " LIMIT 1".toList, by decide,
      by decide, by simpa using (by decide : isBlank ' ' = true),
      by simpa using (by decide : isBlank ' ' = true)⟩, by decide +kernel, by decide +kernel,
    by decide +kernel⟩

end SqlGateway.Gate
