import SqlGateway.Proofs.Statement.Boundary
import SqlGateway.Proofs.Text.Case

/-!
# Texts Put Together at a Semicolon

Let `a` be a text without `@` that ends outside of quotes and comments. Then the comments of
`a ++ ";" ++ b` are those of `a` and those of `b`, its tokens are theirs with a semicolon in
between, and the statements described are those of `a` and then those of `b`, with one
exception. Two tests decide that nothing is left of a text: the first, on the whole text,
knows all blanks, and the second, on the pieces between semicolons, knows the blanks in ASCII
only. A text of blanks that are not all in ASCII (`isHiddenBlank`) has no statements when it
stands alone, and a nameless one when it stands beside others.

The verbs that are refused whatever the policy allows do not depend on the exception.

## Main results

* `tokenize_concat`: the tokens of a text put together.
* `statements_concat`: the statements of a text put together, and the exact condition.
-/

namespace SqlGateway

open Sql Text

/-- Whether a text has something besides comments and blanks in ASCII, and nothing besides
comments and blanks. -/
def isHiddenBlank (sql : String) : Bool :=
  (trim (stripComments sql.toList)).isEmpty &&
    (stripComments sql.toList).any fun c => 0x80 ≤ c.toNat

namespace Sql

/-! ### Tokens of a text put together -/

/-- **The tokens of a text put together** are those of its two sides. -/
theorem tokenize_concat {a b : String} {ta tb : List Token} (hat : '@' ∉ a.toList)
    (hend : EndsOutside a.toList) (ha : tokenize (stripComments a.toList) = .ok ta)
    (hb : tokenize (stripComments b.toList) = .ok tb) :
    tokenize (stripComments (a ++ ";" ++ b).toList) = .ok (ta ++ .semicolon :: tb) := by
  have hat' : '@' ∉ stripComments a.toList := by
    intro h
    rcases mem_stripComments h with h | h
    · exact hat h
    · cases h
  have hlist : (a ++ ";" ++ b).toList = a.toList ++ ';' :: b.toList := by simp
  have hscan := (tokenize_eq_ok_iff.mp ha).append (u := ';' :: stripComments b.toList)
    (by simp) hat'
  have hsemi : Reads ';' (stripComments b.toList) .semicolon (stripComments b.toList) :=
    .plain (by decide) (by simp [letterForm?])
  rw [hlist, stripComments_append hend, tokenize_eq_ok_iff]
  exact hscan.trans (.cons hsemi (tokenize_eq_ok_iff.mp hb))

/-! ### Blank texts -/

/-- What a token of a blank text can be: a blank, or a word of blanks past ASCII. -/
def Token.isBlankWord : Token → Bool
  | .blank => true
  | .word value => !value.isEmpty && value.all fun c => isBlank c && 0x80 ≤ c.toNat
  | _ => false

/-- No blank in ASCII stands in a word. -/
theorem past_ascii_of_isWordPart {c : Char} (hb : isBlank c = true) (hw : isWordPart c = true) :
    0x80 ≤ c.toNat := by
  by_contra hc
  rcases eq_of_isBlank_of_ascii hb (Nat.not_le.mp hc) with rfl | rfl | rfl | rfl | rfl | rfl <;>
    exact absurd hw (by decide)

/-- **The tokens of a blank text** are blanks and words of blanks, and they are all blanks
exactly if the text is in ASCII. -/
theorem Scans.of_isBlank {cs last : List Char} {tokens : List Token} (h : Scans cs tokens last)
    (hlast : last = []) (hblank : ∀ c ∈ cs, isBlank c = true) :
    (∀ t ∈ tokens, t.isBlankWord = true) ∧
      tokens.any (· != .blank) = cs.any fun c => 0x80 ≤ c.toNat := by
  induction h with
  | done cs =>
      subst hlast
      simp
  | @cons c rest mid _ t tokens hread _ ih =>
      have hc : isBlank c = true := hblank c List.mem_cons_self
      have hmid : ∀ d ∈ mid, isBlank d = true := fun d hd =>
        hblank d (List.mem_cons_of_mem c (hread.suffix.subset hd))
      obtain ⟨hwords, hany⟩ := ih hlast hmid
      rcases hread.of_isBlank hc with ⟨hascii, heq⟩ | ⟨hpast, heq⟩
      · cases heq
        refine ⟨?_, ?_⟩
        · intro t ht
          rcases List.mem_cons.mp ht with rfl | ht
          · rfl
          · exact hwords t ht
        · rw [List.any_cons, List.any_cons, hany, decide_eq_false (Nat.not_le.mpr hascii)]
          rfl
      · have hword : isWordPart c = true := by
          simp [isWordPart, isWordStart_of_isBlank hc hpast]
        have ht : t = .word (c :: rest.takeWhile isWordPart) := by
          rw [readWord, List.takeWhile_cons_of_pos hword] at heq
          exact (Prod.mk.injEq .. ▸ heq).1
        subst ht
        refine ⟨?_, by simp [hpast]⟩
        intro t ht
        rcases List.mem_cons.mp ht with rfl | ht
        · have hbody : ∀ d ∈ rest.takeWhile isWordPart, isBlank d = true ∧ 0x80 ≤ d.toNat := by
            intro d hd
            have hbd := hblank d (List.mem_cons_of_mem c ((List.takeWhile_prefix _).subset hd))
            exact ⟨hbd, past_ascii_of_isWordPart hbd (List.mem_takeWhile_imp hd)⟩
          simpa [Token.isBlankWord, hc, hpast] using hbody
        · exact hwords t ht

end Sql

namespace Statement

/-! ### Statements of blank words -/

/-- A token of a blank text that is no blank is a word of blanks. -/
theorem keyword?_of_isBlankWord {t : Token} (h : t.isBlankWord = true) (hne : t ≠ .blank) :
    ∃ word, t.keyword? = some word ∧ t ≠ .openParen ∧ ∀ c ∈ word.toList, isBlank c = true := by
  cases t with
  | blank => exact absurd rfl hne
  | word value =>
      simp only [Token.isBlankWord, Bool.and_eq_true, List.all_eq_true, decide_eq_true_eq] at h
      refine ⟨String.ofList value, ?_, by simp, ?_⟩
      · rw [Token.keyword?, upper_of_isBlank fun c hc => (h.2 c hc).1]
      · simpa using fun c hc => (h.2 c hc).1
  | _ => cases h

/-- A word of blanks is no keyword. -/
theorem ne_of_isBlank {word name : String} (h : ∀ c ∈ word.toList, isBlank c = true)
    (hname : (name.toList.any fun c => !isBlank c) = true) : word ≠ name := by
  rintro rfl
  obtain ⟨c, hc, hnot⟩ := List.any_eq_true.mp hname
  rw [h c hc] at hnot
  cases hnot

/-- A statement of blank words is not refused for its verb. -/
theorem isHardBlocked_analyze_of_isBlankWord {tokens : List Token}
    (h : ∀ t ∈ tokens, t.isBlankWord = true) :
    isHardBlocked (analyze tokens).operation = false := by
  have hword : ∀ t ∈ tokens.filter (· != .blank), ∃ word, t.keyword? = some word ∧
      t ≠ .openParen ∧ ∀ c ∈ word.toList, isBlank c = true := by
    intro t ht
    obtain ⟨hmem, hne⟩ := List.mem_filter.mp ht
    exact keyword?_of_isBlankWord (h t hmem) (by simpa using hne)
  rw [analyze]
  generalize String.ofList (render tokens) = normalized
  generalize tokens.filter (· != .blank) = body at hword
  have hblocked : ∀ word : String, (∀ c ∈ word.toList, isBlank c = true) →
      isHardBlocked word = false := by
    intro word hall
    rw [isHardBlocked, Text.firstWord_of_isBlank hall]
    decide
  have hbody : body.dropWhile (· == .openParen) = body := by
    cases body with
    | nil => rfl
    | cons t rest =>
        obtain ⟨-, -, hparen, -⟩ := hword t List.mem_cons_self
        exact List.dropWhile_cons_of_neg (by simpa using hparen)
  rw [analyzeBody]
  split
  · rename_i more hexplained
    exfalso
    rw [hbody] at hexplained
    rcases body with _ | ⟨first, _ | ⟨second, rest⟩⟩
    · cases hexplained
    · cases hexplained
    · obtain ⟨word, hkey, -, hall⟩ := hword first List.mem_cons_self
      have hne : word ≠ "EXPLAIN" := ne_of_isBlank hall (by decide)
      simp [explained?, Token.isWord, hkey, hne] at hexplained
  · refine hblocked _ ?_
    rw [hbody]
    change ∀ c ∈ (verbOf body).toList, isBlank c = true
    cases body with
    | nil => simp [verbOf]
    | cons first rest =>
        obtain ⟨word, hkey, -, hall⟩ := hword first List.mem_cons_self
        rwa [verbOf_cons hkey (ne_of_isBlank hall (by decide)) (ne_of_isBlank hall (by decide))]

/-! ### Statements of a text put together -/

/-- What the pieces of the tokens of a text are described as. -/
def tokenStatements (tokens : List Token) : List Statement :=
  (splitStatements tokens).map analyze

/-- The statements of tokens put together at a semicolon. -/
theorem tokenStatements_concat (ta tb : List Token) :
    tokenStatements (ta ++ .semicolon :: tb) = tokenStatements ta ++ tokenStatements tb := by
  rw [tokenStatements, splitStatements_concat, List.map_append, tokenStatements, tokenStatements]

section

variable {sql : String} {tokens : List Token}
  (htokens : tokenize (stripComments sql.toList) = .ok tokens)

include htokens

/-- The tokens of a blank text make up at most one statement, which is nameless. -/
theorem tokenStatements_of_isBlank
    (hblank : ∀ c ∈ stripComments sql.toList, isBlank c = true) :
    tokenStatements tokens =
        (if (stripComments sql.toList).any fun c => 0x80 ≤ c.toNat then [analyze tokens] else []) ∧
      isHardBlocked (analyze tokens).operation = false := by
  obtain ⟨hwords, hany⟩ := (tokenize_eq_ok_iff.mp htokens).of_isBlank rfl hblank
  refine ⟨?_, isHardBlocked_analyze_of_isBlankWord hwords⟩
  have hsemi : ∀ t ∈ tokens, (t == Token.semicolon) = false := by
    intro t ht
    rw [beq_eq_false_iff_ne]
    rintro rfl
    cases hwords _ ht
  rw [tokenStatements, splitStatements, cutAtSemicolons_eq_splitOnP,
    List.splitOnP_eq_singleton hsemi, List.filter_singleton, hany]
  cases (stripComments sql.toList).any fun c => decide (0x80 ≤ c.toNat) <;> rfl

/-- The statements of a text are those of its tokens, but for a hidden blank: that has none,
and its tokens have one. -/
theorem statements_eq_tokenStatements :
    statements sql = if isHiddenBlank sql then [] else tokenStatements tokens := by
  rw [statements_of_tokenize htokens, isHiddenBlank]
  by_cases hempty : (trim (stripComments sql.toList)).isEmpty = true
  · have hall := trim_eq_nil_iff.mp (List.isEmpty_iff.mp hempty)
    rw [if_pos hempty, hempty, Bool.true_and, (tokenStatements_of_isBlank htokens hall).1]
    split <;> rfl
  · rw [if_neg hempty, Bool.eq_false_of_not_eq_true hempty]
    rfl

/-- The tokens of a hidden blank make up one statement, which is nameless. -/
theorem tokenStatements_of_isHiddenBlank (h : isHiddenBlank sql = true) :
    tokenStatements tokens = [analyze tokens] ∧
      isHardBlocked (analyze tokens).operation = false := by
  rw [isHiddenBlank, Bool.and_eq_true] at h
  have hall := trim_eq_nil_iff.mp (List.isEmpty_iff.mp h.1)
  obtain ⟨hstatements, hblocked⟩ := tokenStatements_of_isBlank htokens hall
  rw [if_pos h.2] at hstatements
  exact ⟨hstatements, hblocked⟩

/-- A hidden blank has one statement more among others than alone. -/
theorem length_tokenStatements :
    (tokenStatements tokens).length =
      (statements sql).length + if isHiddenBlank sql then 1 else 0 := by
  rw [statements_eq_tokenStatements htokens]
  by_cases h : isHiddenBlank sql = true
  · rw [(tokenStatements_of_isHiddenBlank htokens h).1, if_pos h, if_pos h]
    rfl
  · rw [if_neg h, if_neg h]
    rfl

/-- The number of statements of a text that is no hidden blank. -/
theorem count_parse_of_tokenize (h : isHiddenBlank sql = false) :
    (parse sql).count = (splitStatements tokens).length := by
  rw [count_parse, statements_eq_tokenStatements htokens, h]
  exact List.length_map analyze

/-- The verbs that are refused are those of the statements, hidden blank or not. -/
theorem find?_isHardBlocked_tokenStatements :
    ((tokenStatements tokens).map operation).find? isHardBlocked =
      ((statements sql).map operation).find? isHardBlocked := by
  rw [statements_eq_tokenStatements htokens]
  by_cases h : isHiddenBlank sql = true
  · obtain ⟨hstatements, hblocked⟩ := tokenStatements_of_isHiddenBlank htokens h
    rw [if_pos h, hstatements]
    simp [hblocked]
  · rw [if_neg h]

end

/-- A text with a semicolon outside of quotes and comments is no blank. -/
theorem not_isHiddenBlank_concat {a : String} (hend : EndsOutside a.toList) (b : String) :
    isHiddenBlank (a ++ ";" ++ b) = false := by
  have hlist : (a ++ ";" ++ b).toList = a.toList ++ ';' :: b.toList := by simp
  by_contra h
  rw [Bool.not_eq_false, isHiddenBlank, Bool.and_eq_true, hlist, stripComments_append hend] at h
  have hall := trim_eq_nil_iff.mp (List.isEmpty_iff.mp h.1)
  cases hall ';' (by simp)

/-- A text with statements is no hidden blank. -/
theorem not_isHiddenBlank_of_count {sql : String} (h : 1 ≤ (parse sql).count) :
    isHiddenBlank sql = false := by
  by_contra hhidden
  rw [Bool.not_eq_false, isHiddenBlank, Bool.and_eq_true] at hhidden
  have hempty : statements sql = [] := by
    rw [statements]
    exact if_pos hhidden.1
  rw [count_parse, hempty] at h
  cases h

/-- **The statements of a text put together** at a semicolon are those of its two sides, and
their number is the sum, exactly if no side is a hidden blank. The first verb that is refused
is that of the left side, or else that of the right side, in any case; and if both sides have
statements, the risk is the higher one, the tables are those of both, and a clause is found if
one side has it. -/
theorem statements_concat {a b : String} {ta tb : List Token} (hat : '@' ∉ a.toList)
    (hend : EndsOutside a.toList) (ha : tokenize (stripComments a.toList) = .ok ta)
    (hb : tokenize (stripComments b.toList) = .ok tb) :
    (statements (a ++ ";" ++ b) = statements a ++ statements b ↔
        isHiddenBlank a = false ∧ isHiddenBlank b = false) ∧
      ((parse (a ++ ";" ++ b)).count = (parse a).count + (parse b).count ↔
        isHiddenBlank a = false ∧ isHiddenBlank b = false) ∧
      (parse (a ++ ";" ++ b)).hardBlocked? =
        (parse a).hardBlocked?.or (parse b).hardBlocked? ∧
      (1 ≤ (parse a).count → 1 ≤ (parse b).count →
        (parse (a ++ ";" ++ b)).risk = (parse a).risk.max (parse b).risk ∧
        (parse (a ++ ";" ++ b)).tables = (parse a).tables.insertAll (parse b).tables.names ∧
        (parse (a ++ ";" ++ b)).hasWhere = ((parse a).hasWhere || (parse b).hasWhere) ∧
        (parse (a ++ ";" ++ b)).hasLimit = ((parse a).hasLimit || (parse b).hasLimit)) := by
  have hconcat : statements (a ++ ";" ++ b) = tokenStatements ta ++ tokenStatements tb := by
    rw [statements_eq_tokenStatements (tokenize_concat hat hend ha hb),
      not_isHiddenBlank_concat hend, tokenStatements_concat]
    rfl
  have hcountIff : (parse (a ++ ";" ++ b)).count = (parse a).count + (parse b).count ↔
      isHiddenBlank a = false ∧ isHiddenBlank b = false := by
    rw [count_parse, count_parse, count_parse, hconcat, List.length_append,
      length_tokenStatements ha, length_tokenStatements hb]
    cases isHiddenBlank a <;> cases isHiddenBlank b <;> simp
    omega
  have hsame : isHiddenBlank a = false ∧ isHiddenBlank b = false →
      statements (a ++ ";" ++ b) = statements a ++ statements b := by
    rintro ⟨hna, hnb⟩
    rw [hconcat, statements_eq_tokenStatements ha, statements_eq_tokenStatements hb, hna, hnb]
    rfl
  refine ⟨⟨fun h => hcountIff.mp ?_, hsame⟩, hcountIff, ?_, fun hcA hcB => ?_⟩
  · rw [count_parse, count_parse, count_parse, h, List.length_append]
  · rw [hardBlocked?_parse, hardBlocked?_parse, hardBlocked?_parse, hconcat, List.map_append,
      List.find?_append, find?_isHardBlocked_tokenStatements ha,
      find?_isHardBlocked_tokenStatements hb]
  · obtain ⟨fallback, hparse⟩ := parse_eq_combine (a ++ ";" ++ b)
    obtain ⟨fallbackA, hparseA⟩ := parse_eq_combine a
    obtain ⟨fallbackB, hparseB⟩ := parse_eq_combine b
    have hstatements := hsame
      ⟨not_isHiddenBlank_of_count hcA, not_isHiddenBlank_of_count hcB⟩
    rw [count_parse] at hcA hcB
    have hneA : statements a ≠ [] := List.ne_nil_of_length_pos hcA
    have hneB : statements b ≠ [] := List.ne_nil_of_length_pos hcB
    rw [hparse, hparseA, hparseB, hstatements]
    refine ⟨?_, ?_, ?_, ?_⟩
    · exact risk_combine_append _ _ _ _ _ _ _ _ hneA hneB
    · exact tables_combine_append _ _ _ _ _ _ _ _
    · rw [hasWhere_combine, hasWhere_combine, hasWhere_combine, List.any_append]
    · rw [hasLimit_combine, hasLimit_combine, hasLimit_combine, List.any_append]

/-- A statement in front of another keeps its verb. -/
theorem statements_concat_of_delete :
    (parse ("DELETE FROM t" ++ ";" ++ "SELECT 'a;'")).count =
        (parse "DELETE FROM t").count + (parse "SELECT 'a;'").count ∧
      (parse ("DELETE FROM t" ++ ";" ++ "SELECT 'a;'")).hardBlocked? =
        (parse "DELETE FROM t").hardBlocked?.or (parse "SELECT 'a;'").hardBlocked? := by
  have hend : EndsOutside "DELETE FROM t".toList := ⟨by cbv, by cbv⟩
  have ha : tokenize (stripComments "DELETE FROM t".toList) =
      .ok [.word "DELETE".toList, .blank, .word "FROM".toList, .blank, .word "t".toList] := by
    cbv
  have hb : tokenize (stripComments "SELECT 'a;'".toList) =
      .ok [.word "SELECT".toList, .blank, .string .single "a;".toList] := by
    cbv
  obtain ⟨-, hcount, hblocked, -⟩ := statements_concat (by decide) hend ha hb
  exact ⟨hcount.mpr ⟨by cbv, by cbv⟩, hblocked⟩

set_option maxRecDepth 4000 in
/-- A blank past ASCII behind a semicolon counts as a statement, though alone it is none. -/
theorem count_concat_noBreakSpace :
    '@' ∉ "SELECT 1 LIMIT 1".toList ∧ '@' ∉ "\u00a0".toList ∧
      EndsOutside "SELECT 1 LIMIT 1".toList ∧
      (∃ ta, tokenize (stripComments "SELECT 1 LIMIT 1".toList) = .ok ta) ∧
      (∃ tb, tokenize (stripComments "\u00a0".toList) = .ok tb) ∧
      (parse ("SELECT 1 LIMIT 1" ++ ";" ++ "\u00a0")).count = 2 ∧
      (parse "SELECT 1 LIMIT 1").count + (parse "\u00a0").count = 1 := by
  have hat : '@' ∉ "SELECT 1 LIMIT 1".toList := by decide
  have hend : EndsOutside "SELECT 1 LIMIT 1".toList := ⟨by cbv, by cbv⟩
  have ha : tokenize (stripComments "SELECT 1 LIMIT 1".toList) =
      .ok [.word "SELECT".toList, .blank, .number ['1'] false, .blank, .word "LIMIT".toList,
        .blank, .number ['1'] false] := by
    cbv
  have hb : tokenize (stripComments "\u00a0".toList) = .ok [.word "\u00a0".toList] := by
    cbv
  have hcountA : (parse "SELECT 1 LIMIT 1").count = 1 := by
    rw [count_parse_of_tokenize ha (by cbv)]
    decide
  have hcountB : (parse "\u00a0").count = 0 := by
    rw [count_parse, statements, if_pos (by cbv), List.length_nil]
  refine ⟨hat, by decide, hend, ⟨_, ha⟩, ⟨_, hb⟩, ?_, by rw [hcountA, hcountB]⟩
  rw [count_parse_of_tokenize (tokenize_concat hat hend ha hb) (not_isHiddenBlank_concat hend _)]
  decide

end Statement

end SqlGateway
