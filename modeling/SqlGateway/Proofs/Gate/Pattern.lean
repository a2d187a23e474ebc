import SqlGateway.Proofs.Gate.Search
import SqlGateway.Proofs.Policy.History
import SqlGateway.Proofs.Statement.Shown

/-!
# Blocked Patterns Behind Comments and Blanks

A blocked pattern is looked for in the text as it stands there and in its normal form. Where nothing
but blanks stands between its words, the text shows it; where comments stand there, the normal form
does.

## Main results

* `hasPattern_of_shows`: a text that shows the words of a pattern has it.
* `mem_violations_of_spread`: a pattern is found, whatever blanks and comments stand between its
  words, unless a number in hexadecimal may hide in the first of them.
-/

namespace SqlGateway

namespace Text

/-! ### Words of a pattern -/

/-- A plain word without small letters is in upper case. -/
theorem IsPlainWord.upper_eq {w : List Char} (h : IsPlainWord w)
    (hlower : ∀ c ∈ w, c.isLower = false) : upper w = w := by
  rw [upper_of_ascii fun c hc => (h.of_mem hc).1]
  refine (List.map_congr_left fun c hc => ?_).trans (List.map_id w)
  exact of_ascii (p := fun c => c.isLower = false → c.toUpper = id c) (by decide) (h.of_mem hc).1
    (hlower c hc)

end Text

namespace Gate

open Sql Text Statement Policy

/-- **A text that shows the words of a pattern has it.** -/
theorem hasPattern_of_shows {pattern : String} {cs : List Char}
    (hwords : ∀ w ∈ words pattern.toList, IsPlainWord w) (h : Shows (words pattern.toList) cs) :
    hasPattern pattern cs = true := by
  obtain ⟨before, phrase, after, rfl, hspread, hbefore, hafter⟩ := h
  refine (hasPattern_iff hspread.ne_nil).mpr ⟨before, phrase, after, rfl, hspread, ?_, ?_⟩
  · obtain ⟨c, rest, hhead, -, hc, -⟩ := hspread.exists_head hwords after
    rw [isWordBoundary_of_before fun d hd => isWordChar_of_endsPlainWord (hbefore d hd), hhead]
    exact hc
  · obtain ⟨w, hw, hlast⟩ := hspread.exists_getLast?_eq (areWords_words pattern.toList)
    have hne := (hwords w hw).ne_nil
    rw [isWordBoundary_of_after fun d hd => isWordChar_of_endsPlainWord (hafter d hd), hlast,
      List.getLast?_eq_some_getLast hne, Option.any_some]
    exact ((hwords w hw).of_mem (List.getLast_mem hne)).2

/-- The words of a configured pattern are in upper case. -/
theorem upper_eq_of_mem_words {policy : Policy} (hpolicy : policy.Reachable) {pattern : String}
    (hpattern : pattern ∈ policy.blockedPatterns) {w : List Char} (hw : w ∈ words pattern.toList)
    (hplain : IsPlainWord w) : upper w = w := by
  obtain ⟨value, hvalue⟩ := hpolicy.patternsAreRead
  rw [hvalue] at hpattern
  exact hplain.upper_eq fun c hc => isLower_of_mem_readPatterns hpattern c (mem_of_mem_words hw hc)

/-- A text that is neither blank nor too long is read. -/
theorem rejection?_eq_none {cs : List Char} {policy : Policy} {c : Char} (hc : c ∈ cs)
    (hblank : isBlank c = false) (hlength : cs.length ≤ policy.maxLength) :
    rejection? (String.ofList cs) policy = none := by
  have hne : (trim cs).isEmpty = false := by
    rw [Bool.eq_false_iff, ne_eq, List.isEmpty_iff, trim_eq_nil_iff]
    intro hall
    rw [hall c hc] at hblank
    cases hblank
  rw [rejection?, String.toList_ofList, hne, if_neg Bool.false_ne_true,
    if_neg (Nat.not_lt.mpr hlength)]

/-- A pattern that the text or its normal form has is reported, if the text is read. -/
theorem mem_violations_of_hasPattern {sql : String} {policy : Policy} {pattern : String}
    (hread : rejection? sql policy = none) (hcheck : policy.queryCheck = true)
    (hpattern : pattern ∈ policy.blockedPatterns)
    (h : hasPattern pattern (upper sql.toList) = true ∨
      hasPattern pattern (upper (parse sql).normalized.toList) = true) :
    ⟨.pattern, "blocked pattern '" ++ pattern ++ "' found"⟩ ∈ (check sql policy).violations := by
  have hmem : (⟨.pattern, "blocked pattern '" ++ pattern ++ "' found"⟩ : Violation) ∈
      patternViolations sql (parse sql) policy := by
    rw [patternViolations, if_pos hcheck]
    refine List.mem_map_of_mem (List.mem_filter.mpr ⟨hpattern, ?_⟩)
    rwa [Bool.or_eq_true]
  rw [check, hread]
  simp only [Option.getD_none, judge, violationsOf, List.mem_append]
  exact .inl (.inl (.inl (.inl hmem)))

/-- **Blanks and comments do not hide a blocked pattern.** -/
theorem mem_violations_of_spread {policy : Policy} (hpolicy : policy.Reachable)
    (hcheck : policy.queryCheck = true) {pattern : String}
    (hpattern : pattern ∈ policy.blockedPatterns)
    (hwords : ∀ w ∈ words pattern.toList, IsPlainWord w)
    {front phrase rest : List Char} {ws : List (List Char)}
    (htext : IsTame (front ++ (phrase ++ rest))) (hunquoted : endsUnquoted front = true)
    (hspread : Spread IsGap ws phrase)
    (hcase : ws.map upper = (words pattern.toList).map upper)
    (hfront : ∀ c ∈ front.getLast?, isWordChar c = false)
    (hrest : ∀ c ∈ rest.head?, isWordChar c = false)
    (hlength : (front ++ (phrase ++ rest)).length ≤ policy.maxLength)
    (hfree : Spread IsBlanks ws phrase ∨ front.getLast? ≠ some '.' ∨
      ∀ w ∈ ws.head?, ¬ HidesHex w) :
    ⟨.pattern, "blocked pattern '" ++ pattern ++ "' found"⟩ ∈
      (check (String.ofList (front ++ (phrase ++ rest))) policy).violations := by
  have hupper : ∀ w ∈ words pattern.toList, upper w = w := fun w hw =>
    upper_eq_of_mem_words hpolicy hpattern hw (hwords w hw)
  have hcase' : ws.map upper = words pattern.toList := by
    rw [hcase]
    exact (List.map_congr_left hupper).trans (List.map_id _)
  have hws : ∀ w ∈ ws, IsPlainWord w := by
    intro w hw
    have hmem : upper w ∈ words pattern.toList := hcase' ▸ List.mem_map_of_mem hw
    refine isPlainWord_of_upper_eq (fun c hc => (htext c ?_).1) (hwords _ hmem) (hupper _ hmem).symm
    simp [hspread.mem_of_mem hw hc]
  have hfront' : ∀ c ∈ front.getLast?, endsPlainWord c = true := fun c hc =>
    endsPlainWord_iff.mpr ⟨(htext c (by simp [List.mem_of_getLast? hc])).1, hfront c hc⟩
  have hrest' : ∀ c ∈ rest.head?, endsPlainWord c = true := fun c hc =>
    endsPlainWord_iff.mpr ⟨(htext c (by simp [List.mem_of_mem_head? hc])).1, hrest c hc⟩
  obtain ⟨c, more, hhead, -, hc, -⟩ := hspread.exists_head hws rest
  have hread : rejection? (String.ofList (front ++ (phrase ++ rest))) policy = none :=
    rejection?_eq_none (c := c) (by simp [hhead])
      (isBlank_of_isNameChar (isNameChar_of_isWordChar hc)) hlength
  refine mem_violations_of_hasPattern hread hcheck hpattern ?_
  by_cases hblanks : Spread IsBlanks ws phrase
  · -- The text itself shows the words.
    refine .inl (hasPattern_of_shows hwords ?_)
    rw [← hcase', String.toList_ofList]
    exact Shows.upper ⟨front, phrase, rest, rfl, hblanks, hfront', hrest'⟩
  · -- A comment stands between two words, and the normal form shows them.
    refine .inr (hasPattern_of_shows hwords ?_)
    rw [← hcase']
    cases ws with
    | nil => exact absurd rfl hspread.ne_nil
    | cons w ws =>
        cases ws with
        | nil =>
            cases hspread with
            | last => exact absurd (.last phrase) hblanks
            | cons _ h => exact absurd rfl h.ne_nil
        | cons w' ws =>
            refine shows_normalized htext hunquoted hws hspread hfront' hrest' ?_
            exact (hfree.resolve_left hblanks).imp_right fun h => h w rfl

/-- A block comment, a blank and two comments to the end of their lines, between words in other
letter case, behind another statement and in a text that the tokenizer refuses. -/
theorem mem_violations_of_spread_drop :
    ⟨.pattern, "blocked pattern 'DROP TABLE' found"⟩ ∈
      (check "SELECT 1;Drop/* x */ -- y\n#z\nTable t '" .initial).violations := by
  have hgap : IsGap "/* x */ -- y\n#z\n".toList :=
    .cons (@IsFiller.block " x ".toList ⟨by decide, by decide⟩) (.cons (.blank rfl) (.cons
      (@IsFiller.dashes " y".toList (by decide) rfl)
      (.one (@IsFiller.hash "z".toList (by decide)))))
  have hspread : Spread IsGap ["Drop".toList, "Table".toList]
      "Drop/* x */ -- y\n#z\nTable".toList := .cons hgap (.last "Table".toList)
  have htame : IsTame ("SELECT 1;".toList ++
      ("Drop/* x */ -- y\n#z\nTable".toList ++ " t '".toList)) := by
    simp [IsTame]
  have hpattern : "DROP TABLE" ∈ Policy.initial.blockedPatterns := by decide
  have hwords : words "DROP TABLE".toList = ["DROP".toList, "TABLE".toList] := by cbv
  have hfound := mem_violations_of_spread .initial rfl hpattern (by rw [hwords]; decide) htame
    (by decide +kernel) hspread (by rw [hwords]; decide)
    (by simpa using (by decide : isWordChar ';' = false))
    (by simpa using (by decide : isWordChar ' ' = false)) (by decide) (.inr (.inl (by decide)))
  exact hfound

/-- A number in hexadecimal hides in the first word: behind the point in front of it the word is
read as the exponent of a long number and a number in hexadecimal, which is written as a string. So
the pattern is not found, and the text is allowed. -/
theorem not_mem_violations_of_hidden :
    ∃ policy : Policy, policy.Reachable ∧ policy.queryCheck = true ∧
      "E5L0X41 TABLE" ∈ policy.blockedPatterns ∧
      (∀ w ∈ words "E5L0X41 TABLE".toList, IsPlainWord w) ∧
      IsTame ("SELECT 1.".toList ++ ("E5L0x41/**/TABLE".toList ++ " LIMIT 1".toList)) ∧
      endsUnquoted "SELECT 1.".toList = true ∧
      Spread IsGap ["E5L0x41".toList, "TABLE".toList] "E5L0x41/**/TABLE".toList ∧
      ["E5L0x41".toList, "TABLE".toList].map upper = (words "E5L0X41 TABLE".toList).map upper ∧
      (∀ c ∈ "SELECT 1.".toList.getLast?, isWordChar c = false) ∧
      (∀ c ∈ " LIMIT 1".toList.head?, isWordChar c = false) ∧
      "SELECT 1.E5L0x41/**/TABLE LIMIT 1".toList.length ≤ policy.maxLength ∧
      ⟨.pattern, "blocked pattern 'E5L0X41 TABLE' found"⟩ ∉
        (check "SELECT 1.E5L0x41/**/TABLE LIMIT 1" policy).violations ∧
      (check "SELECT 1.E5L0x41/**/TABLE LIMIT 1" policy).allowed = true := by
  have hwords : words "E5L0X41 TABLE".toList = ["E5L0X41".toList, "TABLE".toList] := by cbv
  have hgap : IsGap "/**/".toList := .one (@IsFiller.block [] ⟨by decide, by decide⟩)
  rw [hwords]
  refine ⟨after [[("MYSQL_BLOCKED_PATTERNS", "E5L0X41 TABLE")]], reachable_after _,
    by decide +kernel, by decide +kernel, by decide, by simp [IsTame], by decide +kernel,
    .cons hgap (.last "TABLE".toList), by decide,
    by simpa using (by decide : isWordChar '.' = false),
    by simpa using (by decide : isWordChar ' ' = false), by decide +kernel, by decide +kernel,
    by decide +kernel⟩

end Gate

end SqlGateway
