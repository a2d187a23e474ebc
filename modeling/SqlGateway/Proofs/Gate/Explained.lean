import SqlGateway.Proofs.Gate.Refusal

/-!
# Statements That Are Explained and Run

`EXPLAIN ANALYZE` runs the statement it explains, so such a statement counts as the one that is
explained if that one writes rows. What is explained may be explained again, and the whole then
counts as the statement behind all of these words (`innermost`), which is found by dropping
`EXPLAIN ANALYZE` and opening parentheses from the front, and nothing else.

So a deletion or a change of rows is reported as a verb that is never run exactly if it is the
verb of the innermost statement. It is if that statement starts with a main verb or with `WITH`
directly behind the words `EXPLAIN ANALYZE`. It is not if something else stands between them, an
option such as `FORMAT=TREE` for instance: then the first word of the option is taken for the
verb, and the statement counts as one that only inspects the server.

## Main results

* `operation_analyzeBody_of_explained`: the verb of an explained statement.
* `breaks_hardBlock_iff`: what the gate reports as a verb that is never run.
* `hardBlock_of_explained`: explained statements that delete or change rows.
-/

namespace SqlGateway

open Sql Text

namespace Statement

/-! ### The innermost statement -/

/-- The tokens of a statement behind opening parentheses. -/
abbrev behindParens (tokens : List Token) : List Token :=
  tokens.dropWhile (· == .openParen)

/-- The statement behind all of `EXPLAIN ANALYZE`. -/
def innermost (tokens : List Token) : List Token :=
  match h : explained? (behindParens tokens) with
  | some rest =>
    have : rest.length < tokens.length :=
      Nat.lt_of_lt_of_le (length_lt_of_explained? h) (length_dropWhile_le _ _)
    innermost rest
  | none => behindParens tokens
termination_by tokens.length

theorem innermost_of_none {tokens : List Token} (h : explained? (behindParens tokens) = none) :
    innermost tokens = behindParens tokens := by
  rw [innermost]
  split
  · rename_i hsome
    rw [h] at hsome
    cases hsome
  · rfl

theorem innermost_of_some {tokens rest : List Token}
    (h : explained? (behindParens tokens) = some rest) : innermost tokens = innermost rest := by
  rw [innermost]
  split
  · rename_i hsome
    rw [h] at hsome
    cases hsome
    rfl
  · rename_i hnone
    rw [h] at hnone
    cases hnone

/-- Whether a statement with a verb counts as itself when it is explained and run. -/
def writesRows (operation : String) : Bool :=
  Category.ofOperation operation == .manipulation && operation != "SELECT"

/-- A statement that starts with the two words has the verb `EXPLAIN`. -/
theorem verbOf_of_explained {body rest : List Token} (h : explained? body = some rest) :
    verbOf body = "EXPLAIN" := by
  rcases body with _ | ⟨first, _ | ⟨second, more⟩⟩
  · cases h
  · cases h
  · rw [explained?] at h
    split at h
    · rename_i hwords
      rw [Bool.and_eq_true, Token.isWord, beq_iff_eq] at hwords
      exact verbOf_cons hwords.1 (by decide) (by decide) _
    · cases h

/-- **The verb of an explained statement** is that of the innermost one if it writes rows, by
induction on how often it is explained. -/
theorem operation_analyzeBody_of_explained (normalized : String) {tokens rest : List Token}
    (h : explained? (behindParens tokens) = some rest) :
    (analyzeBody normalized tokens).operation =
      if writesRows (verbOf (innermost tokens)) then verbOf (innermost tokens) else "EXPLAIN" := by
  induction hlength : tokens.length using Nat.strong_induction_on generalizing tokens rest with
  | h n ih =>
      have hshort : rest.length < n := by
        have hlt := length_lt_of_explained? h
        have hle : (behindParens tokens).length ≤ tokens.length := length_dropWhile_le _ _
        omega
      -- What is explained counts as its innermost statement, or as a mere explanation.
      have hinner : ∀ operation, (analyzeBody normalized rest).operation = operation →
          (analyzeBody normalized tokens).operation =
            if writesRows operation then operation else "EXPLAIN" := by
        rintro operation rfl
        have hcategory := (isSingle_analyzeBody normalized rest).category_eq
        rw [analyzeBody_eq, h, writesRows, ← hcategory]
        dsimp only
        split
        · rfl
        · exact verbOf_of_explained h
      rw [innermost_of_some h]
      cases hrest : explained? (behindParens rest) with
      | none =>
          refine hinner _ ?_
          rw [analyzeBody_eq, hrest, innermost_of_none hrest]
          rfl
      | some more =>
          have hoperation := ih rest.length hshort hrest rfl
          rw [hinner _ hoperation]
          have hexplain : writesRows "EXPLAIN" = false := by decide +kernel
          split_ifs with hwrites hverb <;> simp_all

/-- The verbs that write or read rows, apart from two, are not among those that are never run. -/
theorem isHardBlocked_of_manipulation {operation : String}
    (h : Category.ofOperation operation = .manipulation) :
    isHardBlocked operation = true ↔ firstWord operation ∈ ["DELETE", "UPDATE"] := by
  rw [Category.ofOperation, Category.ofVerb] at h
  rw [isHardBlocked]
  generalize firstWord operation = word at h
  have hmem : word ∈ ["SELECT", "INSERT", "UPDATE", "DELETE", "MERGE"] := by
    split_ifs at h with _ hcontains
    simpa using hcontains
  clear h
  revert word
  decide

/-- An explained statement is refused for its verb exactly if the innermost one deletes or changes
rows. -/
theorem isHardBlocked_of_explained (normalized : String) {tokens rest : List Token}
    (h : explained? (behindParens tokens) = some rest) :
    isHardBlocked (analyzeBody normalized tokens).operation = true ↔
      firstWord (verbOf (innermost tokens)) ∈ ["DELETE", "UPDATE"] := by
  rw [operation_analyzeBody_of_explained normalized h]
  generalize verbOf (innermost tokens) = verb
  by_cases hwrites : writesRows verb = true
  · rw [if_pos hwrites]
    rw [writesRows, Bool.and_eq_true, beq_iff_eq] at hwrites
    exact isHardBlocked_of_manipulation hwrites.1
  · rw [if_neg hwrites]
    refine iff_of_false (by decide +kernel) fun hmem => hwrites ?_
    have hcategory : ∀ word ∈ ["DELETE", "UPDATE"], Category.ofVerb word = .manipulation := by
      decide
    rw [writesRows, Category.ofOperation, hcategory _ hmem, Bool.and_eq_true, bne_iff_ne]
    refine ⟨rfl, ?_⟩
    rintro rfl
    exact absurd hmem (by decide +kernel)

/-! ### Nothing between the words and the statement -/

/-- The two words, any number of times. -/
inductive IsExplaining : List Token → Prop
  | nil : IsExplaining []
  | cons {first second : Token} {more : List Token} (hfirst : first.isWord "EXPLAIN" = true)
      (hsecond : second.isWord "ANALYZE" = true) (hmore : IsExplaining more) :
      IsExplaining (first :: second :: more)

/-- A statement that starts with a main verb or with a clause in front of one. -/
def startsMain (tokens : List Token) : Prop :=
  ∃ first rest word, tokens = first :: rest ∧ first.keyword? = some word ∧
    word ∈ "WITH" :: mainVerbs

theorem behindParens_of_keyword {first : Token} {word : String} (h : first.keyword? = some word)
    (rest : List Token) : behindParens (first :: rest) = first :: rest := by
  cases first with
  | word v => rfl
  | _ => cases h

/-- Directly behind the two words stands the innermost statement. -/
theorem innermost_append {words tokens : List Token} (hwords : IsExplaining words)
    (hstart : startsMain tokens) : innermost (words ++ tokens) = tokens := by
  obtain ⟨first, rest, word, rfl, hkey, hmem⟩ := hstart
  induction hwords with
  | nil =>
      have hne : word ≠ "EXPLAIN" := by
        rintro rfl
        exact absurd hmem (by decide)
      rw [List.nil_append, innermost_of_none, behindParens_of_keyword hkey]
      rw [behindParens_of_keyword hkey]
      cases rest with
      | nil => rfl
      | cons second rest => simp [explained?, Token.isWord, hkey, hne]
  | @cons e a more he ha _ ih =>
      have hkeyword : e.keyword? = some "EXPLAIN" := beq_iff_eq.mp he
      rw [List.cons_append, List.cons_append, innermost_of_some _, ih]
      rw [behindParens_of_keyword hkeyword, explained?, he, ha]
      rfl

/-- The two words are no main verbs. -/
theorem find?_topLevelWords_append {words : List Token} (hwords : IsExplaining words)
    (tokens : List Token) : (topLevelWords (words ++ tokens)).find? mainVerbs.contains =
      (topLevelWords tokens).find? mainVerbs.contains := by
  have hskip : ∀ {t : Token} {name : String} (rest : List Token), t.isWord name = true →
      ¬mainVerbs.contains name = true →
      (topLevelWords (t :: rest)).find? mainVerbs.contains =
        (topLevelWords rest).find? mainVerbs.contains := by
    intro t name rest ht hname
    rw [topLevelWords_cons (beq_iff_eq.mp ht), List.find?_cons_of_neg hname, topLevelWords]
  induction hwords with
  | nil => rfl
  | cons he ha _ ih =>
      rw [List.cons_append, List.cons_append, hskip _ he (by decide), hskip _ ha (by decide), ih]

/-- The verb of a statement that starts with a main verb or `WITH` is the first main verb. -/
theorem verbOf_of_startsMain {tokens : List Token} {verb : String} (hstart : startsMain tokens)
    (hverb : (topLevelWords tokens).find? mainVerbs.contains = some verb) :
    verbOf tokens = verb := by
  obtain ⟨first, rest, word, rfl, hkey, hmem⟩ := hstart
  rw [topLevelWords_cons hkey] at hverb
  rcases List.mem_cons.mp hmem with rfl | hmain
  · rw [List.find?_cons_of_neg (by decide)] at hverb
    rw [verbOf_with hkey, hverb, Option.getD_some]
  · rw [List.find?_cons_of_pos (List.contains_iff_mem.mpr hmain), Option.some_inj] at hverb
    have hne : ∀ main ∈ mainVerbs, main ≠ "SHOW" ∧ main ≠ "WITH" := by decide
    rw [verbOf_cons hkey (hne word hmain).1 (hne word hmain).2, hverb]

/-! ### Texts of one statement -/

/-- The tokenizer reads the text as one statement, and these are its tokens without blanks. -/
structure IsStatement (sql : String) (body : List Token) : Prop where
  exists_piece : ∃ tokens piece, tokenize (stripComments sql.toList) = .ok tokens ∧
    splitStatements tokens = [piece] ∧ body = piece.filter (· != .blank)
  count_eq : (parse sql).count = 1

theorem IsStatement.statements_eq {sql : String} {body : List Token} (h : IsStatement sql body) :
    ∃ normalized, statements sql = [analyzeBody normalized body] := by
  obtain ⟨tokens, piece, htokens, hpiece, rfl⟩ := h.exists_piece
  have hcount := h.count_eq
  rw [count_parse, statements_of_tokenize htokens] at hcount
  rw [statements_of_tokenize htokens, hpiece]
  split at hcount
  · cases hcount
  · rename_i hblank
    exact ⟨_, if_neg hblank⟩

end Statement

namespace Gate

open Statement

/-- Only the last check reports verbs that are never run. -/
theorem rule_ne_hardBlock {sql : String} {s : Statement} {policy : Policy} {v : Violation}
    (h : v ∈ patternViolations sql s policy ++ validityViolations s ++
      (Scope.check sql policy).map (fun m => ⟨.scope, m⟩) ++ riskViolations s.risk policy) :
    (v.rule == .hardBlock) = false := by
  simp only [List.mem_append] at h
  rcases h with ((hpattern | hvalidity) | hscope) | hrisk
  · rw [rule_of_mem_patternViolations hpattern]
    rfl
  · rcases rule_of_mem_validityViolations hvalidity with hrule | hrule <;> rw [hrule] <;> rfl
  · obtain ⟨_, -, rfl⟩ := List.mem_map.mp hscope
    rfl
  · rw [rule_of_mem_riskViolations hrisk]
    rfl

/-- **The gate reports a verb that is never run** exactly if the text has one. -/
theorem breaks_hardBlock_iff {sql : String} {policy : Policy}
    (hread : rejection? sql policy = none) :
    (check sql policy).breaks .hardBlock = true ↔ (parse sql).hardBlocked?.isSome = true := by
  rw [check, hread, Option.getD_none, judge, Decision.breaks]
  dsimp only
  rw [violationsOf, List.any_append,
    List.any_eq_false.mpr fun v hv => Bool.eq_false_iff.mp (rule_ne_hardBlock hv), Bool.false_or,
    hardBlockViolations]
  cases (parse sql).hardBlocked? <;> rfl

/-- **Explained statements that delete or change rows.** Let the first main verb of an explained
statement, outside parentheses, be one that deletes or changes rows. Then the gate reports it
exactly if it is the verb of the innermost statement, and that is so if nothing stands between the
words `EXPLAIN ANALYZE` and a main verb or `WITH`. -/
theorem hardBlock_of_explained {sql : String} {body rest : List Token} {verb : String}
    {policy : Policy} (hbody : IsStatement sql body)
    (hexplained : explained? (behindParens body) = some rest)
    (hverb : (topLevelWords body).find? mainVerbs.contains = some verb)
    (hwrite : verb ∈ ["DELETE", "UPDATE"]) (hread : rejection? sql policy = none) :
    ((check sql policy).breaks .hardBlock = true ↔
        firstWord (verbOf (innermost body)) ∈ ["DELETE", "UPDATE"]) ∧
      ∀ words inner, body = words ++ inner → IsExplaining words → startsMain inner →
        (check sql policy).breaks .hardBlock = true := by
  obtain ⟨normalized, hstatements⟩ := hbody.statements_eq
  have hiff : (check sql policy).breaks .hardBlock = true ↔
      firstWord (verbOf (innermost body)) ∈ ["DELETE", "UPDATE"] := by
    rw [breaks_hardBlock_iff hread, hardBlocked?_parse, hstatements, List.map_singleton,
      ← isHardBlocked_of_explained normalized hexplained]
    simp
  refine ⟨hiff, ?_⟩
  rintro words inner rfl hwords hstart
  have hfirst : ∀ word ∈ ["DELETE", "UPDATE"], firstWord word = word := by decide +kernel
  rw [find?_topLevelWords_append hwords] at hverb
  rw [hiff, innermost_append hwords hstart, verbOf_of_startsMain hstart hverb, hfirst verb hwrite]
  exact hwrite

/-- What is explained twice is reported. -/
theorem hardBlock_of_explained_twice :
    (check "EXPLAIN ANALYZE explain analyze DELETE FROM t" .initial).breaks .hardBlock = true := by
  have hbody : IsStatement "EXPLAIN ANALYZE explain analyze DELETE FROM t"
      ([.word "EXPLAIN".toList, .word "ANALYZE".toList, .word "explain".toList,
        .word "analyze".toList] ++
        [.word "DELETE".toList, .word "FROM".toList, .word "t".toList]) :=
    { exists_piece := ⟨[.word "EXPLAIN".toList, .blank, .word "ANALYZE".toList, .blank,
        .word "explain".toList, .blank, .word "analyze".toList, .blank, .word "DELETE".toList,
        .blank, .word "FROM".toList, .blank, .word "t".toList], _, by decide +kernel, rfl, rfl⟩
      count_eq := by decide +kernel }
  have hexplained : explained? (behindParens ([.word "EXPLAIN".toList, .word "ANALYZE".toList,
      .word "explain".toList, .word "analyze".toList] ++
        [.word "DELETE".toList, .word "FROM".toList, .word "t".toList])) =
      some [.word "explain".toList, .word "analyze".toList, .word "DELETE".toList,
        .word "FROM".toList, .word "t".toList] := by
    decide +kernel
  have hread : rejection? "EXPLAIN ANALYZE explain analyze DELETE FROM t" .initial = none := by
    decide +kernel
  have hverb : (topLevelWords ([.word "EXPLAIN".toList, .word "ANALYZE".toList,
      .word "explain".toList, .word "analyze".toList] ++
        [.word "DELETE".toList, .word "FROM".toList, .word "t".toList])).find?
      mainVerbs.contains = some "DELETE" := by
    decide +kernel
  have hreport := hardBlock_of_explained hbody hexplained hverb (by decide) hread
  refine hreport.2 _ _ rfl ?_ ⟨_, _, "DELETE", rfl, by decide +kernel, by decide⟩
  exact .cons (by decide +kernel) (by decide +kernel)
    (.cons (by decide +kernel) (by decide +kernel) .nil)

/-- **An option hides what is explained**: a deletion with an option in front is not reported, and
it is allowed. -/
theorem not_hardBlock_of_option :
    (parse "EXPLAIN ANALYZE FORMAT=TREE DELETE FROM t").count = 1 ∧
      (parse "EXPLAIN ANALYZE FORMAT=TREE DELETE FROM t").usedFallback = false ∧
      rejection? "EXPLAIN ANALYZE FORMAT=TREE DELETE FROM t" .initial = none ∧
      (check "EXPLAIN ANALYZE FORMAT=TREE DELETE FROM t" .initial).breaks .hardBlock = false ∧
      (check "EXPLAIN ANALYZE FORMAT=TREE DELETE FROM t" .initial).allowed = true := by
  decide +kernel

end Gate

end SqlGateway
