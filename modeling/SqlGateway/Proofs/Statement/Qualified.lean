import SqlGateway.Proofs.Sql.Bare
import SqlGateway.Proofs.Sql.Outside
import SqlGateway.Proofs.Statement.Concatenation

/-!
# Words Behind a Period

A word behind a period is part of a name. Where tables are looked for it is read so; but the
clauses of a statement, and the main verb behind `WITH`, are found among all unquoted words
outside parentheses, whatever stands before them. A column that is named like a clause therefore
counts as that clause.

What such a word can count as is its *role*: `WHERE`, `LIMIT`, a main verb, or nothing. The
verb, the category, the clauses and the risk of a statement depend on the words behind periods by
their roles only, since the first word of a statement, the words that complete `SHOW` and the two
words `EXPLAIN ANALYZE` never stand behind one. And they do depend on them: two identifiers can be
exchanged behind a period in every statement exactly if they have the same role.

## Main results

* `Renamed.readAlike_analyzeBody`: statements that differ in words behind periods only.
* `readAlike_of_renamed`: a text that is one statement.
* `exchangeable_iff`: the words that can be exchanged behind a period.
-/

namespace SqlGateway.Statement

open Sql Text

/-! ### Roles -/

/-- The words that count wherever they stand outside parentheses. -/
def countedWords : List String :=
  "WHERE" :: "LIMIT" :: mainVerbs

/-- What an unquoted word counts as, if it counts as anything. -/
def role? (value : List Char) : Option String :=
  let word := String.ofList (upper value)
  if countedWords.contains word then some word else none

/-- Lists of tokens that are equal apart from words directly behind a period, which have the same
role in both. -/
inductive Renamed : List Token → List Token → Prop
  | nil : Renamed [] []
  | same (t : Token) {l l' : List Token} (hrest : Renamed l l') : Renamed (t :: l) (t :: l')
  | behind {v w : List Char} {l l' : List Token} (hrole : role? v = role? w)
      (hrest : Renamed l l') : Renamed (.period :: .word v :: l) (.period :: .word w :: l')

/-- Descriptions with the same verb, category, clauses and risk. -/
structure ReadAlike (s s' : Statement) : Prop where
  operation_eq : s.operation = s'.operation
  category_eq : s.category = s'.category
  hasWhere_eq : s.hasWhere = s'.hasWhere
  hasLimit_eq : s.hasLimit = s'.hasLimit
  risk_eq : s.risk = s'.risk

theorem ReadAlike.symm {s s' : Statement} (h : ReadAlike s s') : ReadAlike s' s :=
  ⟨h.operation_eq.symm, h.category_eq.symm, h.hasWhere_eq.symm, h.hasLimit_eq.symm,
    h.risk_eq.symm⟩

theorem ReadAlike.trans {s s' s'' : Statement} (h : ReadAlike s s') (h' : ReadAlike s' s'') :
    ReadAlike s s'' :=
  ⟨h.operation_eq.trans h'.operation_eq, h.category_eq.trans h'.category_eq,
    h.hasWhere_eq.trans h'.hasWhere_eq, h.hasLimit_eq.trans h'.hasLimit_eq,
    h.risk_eq.trans h'.risk_eq⟩

/-- A single statement is read by its verb and its clauses. -/
theorem IsSingle.readAlike {s s' : Statement} (h : s.IsSingle) (h' : s'.IsSingle)
    (hoperation : s.operation = s'.operation) (hwhere : s.hasWhere = s'.hasWhere)
    (hlimit : s.hasLimit = s'.hasLimit) : ReadAlike s s' := by
  have hcategory : s.category = s'.category := by
    rw [h.category_eq, h'.category_eq, hoperation]
  exact ⟨hoperation, hcategory, hwhere, hlimit, by
    rw [h.risk_eq, h'.risk_eq, ownRisk, ownRisk, hcategory, hoperation, hwhere, hlimit]⟩

namespace Renamed

variable {l l' : List Token}

theorem refl (l : List Token) : Renamed l l := by
  induction l with
  | nil => exact .nil
  | cons t l ih => exact .same t ih

/-- One word is exchanged. -/
theorem of_word {v w : List Char} (hrole : role? v = role? w) (front back : List Token) :
    Renamed (front ++ .period :: .word v :: back) (front ++ .period :: .word w :: back) := by
  induction front with
  | nil => exact .behind hrole (.refl back)
  | cons t front ih => exact .same t ih

/-! ### The words of a statement -/

/-- The words that count are the same. -/
theorem topLevelWordsAt_filter_eq (h : Renamed l l') (depth : Nat) :
    (topLevelWordsAt depth l).filter countedWords.contains =
      (topLevelWordsAt depth l').filter countedWords.contains := by
  induction h generalizing depth with
  | nil => rfl
  | same t _ ih =>
      cases t with
      | word v => cases depth <;> simp only [topLevelWordsAt, Token.keyword?, List.filter_cons, ih]
      | openParen => exact ih (depth + 1)
      | closeParen => exact ih (depth - 1)
      | _ => exact ih depth
  | @behind v w l l' hrole _ ih =>
      cases depth with
      | zero =>
          simp only [topLevelWordsAt, Token.keyword?, List.filter_cons, ih]
          simp only [role?] at hrole
          split_ifs at hrole with hv hw hw
          · rw [if_pos hv, if_pos hw, Option.some.inj hrole]
          · rw [if_neg hv, if_neg hw]
      | succ depth => exact ih (depth + 1)

/-- Whether a word that counts stands outside parentheses. -/
theorem contains_topLevelWords_eq (h : Renamed l l') {name : String}
    (hname : countedWords.contains name = true) :
    (topLevelWords l).contains name = (topLevelWords l').contains name := by
  have hcontains : ∀ words : List String,
      words.contains name = (words.filter countedWords.contains).contains name := by
    intro words
    rw [Bool.eq_iff_iff]
    simp only [List.contains_iff_mem, List.mem_filter] at hname ⊢
    exact (and_iff_left hname).symm
  rw [hcontains (topLevelWords l), hcontains (topLevelWords l'), topLevelWords, topLevelWords,
    h.topLevelWordsAt_filter_eq]

/-- The words at the front stop at a period. -/
theorem leadingWords_take_eq (h : Renamed l l') (n : Nat) :
    leadingWords (l.take n) = leadingWords (l'.take n) := by
  induction h generalizing n with
  | nil => rfl
  | same t _ ih =>
      cases n with
      | zero => rfl
      | succ n => rw [List.take_succ_cons, List.take_succ_cons, leadingWords, leadingWords, ih]
  | behind =>
      cases n with
      | zero => rfl
      | succ n => rfl

/-- The first main verb is among the words that count. -/
theorem find?_mainVerbs_eq (h : Renamed l l') (depth : Nat) :
    (topLevelWordsAt depth l).find? mainVerbs.contains =
      (topLevelWordsAt depth l').find? mainVerbs.contains := by
  have hcounted : ∀ words : List String, words.find? mainVerbs.contains =
      (words.filter countedWords.contains).find? mainVerbs.contains := by
    intro words
    rw [List.find?_filter]
    refine List.find?_congr fun word _ => ?_
    rw [Bool.eq_iff_iff]
    simp only [countedWords, List.contains_iff_mem, List.mem_cons,
      decide_eq_true_eq]
    exact ⟨fun hmem => ⟨.inr (.inr hmem), hmem⟩, And.right⟩
  rw [hcounted, h.topLevelWordsAt_filter_eq, ← hcounted]

/-- **The verb of a statement** stands behind no period. -/
theorem verbOf_eq (h : Renamed l l') : verbOf l = verbOf l' := by
  cases h with
  | nil => rfl
  | @same t k k' hk =>
      rw [verbOf, verbOf, showVerb, hk.leadingWords_take_eq 4, showVerb]
      cases hkey : t.keyword? with
      | none => rfl
      | some word =>
          rw [topLevelWords_cons hkey, topLevelWords_cons hkey, List.drop_one, List.tail_cons,
            List.drop_one, List.tail_cons, hk.find?_mainVerbs_eq]
  | behind => rfl

/-! ### The description -/

theorem readAlike_describe (h : Renamed l l') (normalized normalized' : String) :
    ReadAlike (describe normalized l) (describe normalized' l') := by
  have hwhere : (topLevelWords l).contains "WHERE" = (topLevelWords l').contains "WHERE" :=
    h.contains_topLevelWords_eq (by decide)
  have hlimit : (topLevelWords l).contains "LIMIT" = (topLevelWords l').contains "LIMIT" :=
    h.contains_topLevelWords_eq (by decide)
  refine (isSingle_single ..).readAlike (isSingle_single ..) h.verbOf_eq ?_ ?_
  · simp only [describe, single, h.verbOf_eq, hwhere]
  · simp only [describe, single, h.verbOf_eq, hlimit]

theorem dropWhile_openParen (h : Renamed l l') :
    Renamed (l.dropWhile (· == .openParen)) (l'.dropWhile (· == .openParen)) := by
  induction h with
  | nil => exact .nil
  | same t hrest ih =>
      rw [List.dropWhile_cons, List.dropWhile_cons]
      split
      · exact ih
      · exact .same t hrest
  | behind hrole hrest => exact .behind hrole hrest

/-- A statement is explained and run in both lists or in neither: the two words that say so stand
behind no period. -/
theorem explained? (h : Renamed l l') :
    (Statement.explained? l = none ∧ Statement.explained? l' = none) ∨
      ∃ k k', Statement.explained? l = some k ∧ Statement.explained? l' = some k' ∧
        Renamed k k' := by
  cases h with
  | nil => exact .inl ⟨rfl, rfl⟩
  | behind => exact .inl ⟨rfl, rfl⟩
  | same t hrest =>
      cases hrest with
      | nil => exact .inl ⟨rfl, rfl⟩
      | behind => exact .inl ⟨by simp [Statement.explained?, Token.isWord, Token.keyword?],
          by simp [Statement.explained?, Token.isWord, Token.keyword?]⟩
      | same u hrest =>
          rw [Statement.explained?, Statement.explained?]
          split
          · exact .inr ⟨_, _, rfl, rfl, hrest⟩
          · exact .inl ⟨rfl, rfl⟩

/-- **A statement is read alike** with other words behind its periods, by induction on how often
`EXPLAIN ANALYZE` stands in front of it. -/
theorem readAlike_analyzeBody (h : Renamed l l') (normalized normalized' : String) :
    ReadAlike (analyzeBody normalized l) (analyzeBody normalized' l') := by
  induction hlength : l.length using Nat.strong_induction_on generalizing l l' with
  | h n ih =>
      have hbody := h.dropWhile_openParen
      rw [analyzeBody_eq normalized l, analyzeBody_eq normalized' l']
      rcases hbody.explained? with ⟨hnone, hnone'⟩ | ⟨k, k', hk, hk', hrest⟩
      · rw [hnone, hnone']
        exact hbody.readAlike_describe normalized normalized'
      · have hshort : k.length < n := by
          have hlt := length_lt_of_explained? hk
          have hle := length_dropWhile_le (· == Token.openParen) l
          omega
        have hinner := ih k.length hshort hrest rfl
        simp only [hk, hk', hinner.category_eq, hinner.operation_eq]
        split
        · exact hinner
        · exact hbody.readAlike_describe normalized normalized'

theorem filter_blank (h : Renamed l l') :
    Renamed (l.filter (· != .blank)) (l'.filter (· != .blank)) := by
  induction h with
  | nil => exact .nil
  | same t _ ih =>
      rw [List.filter_cons, List.filter_cons]
      split
      · exact .same t ih
      · exact ih
  | behind hrole _ ih => exact .behind hrole ih

/-- Words behind periods do not matter to where statements end. -/
theorem cutAtSemicolons (h : Renamed l l') :
    List.Forall₂ Renamed (cutAtSemicolons l) (cutAtSemicolons l') := by
  -- A token in front belongs to the first piece, and there always is one.
  have hcons : ∀ {front front' : List Token} {ps ps' : List (List Token)},
      (∀ {p p'}, Renamed p p' → Renamed (front ++ p) (front' ++ p')) →
      List.Forall₂ Renamed ps ps' →
      List.Forall₂ Renamed (ps.modifyHead (front ++ ·)) (ps'.modifyHead (front' ++ ·)) := by
    intro front front' ps ps' hfront hps
    cases hps with
    | nil => exact .nil
    | cons hp hps => exact .cons (hfront hp) hps
  have hcut : ∀ {front : List Token} (m : List Token),
      (∀ t ∈ front, (t == Token.semicolon) = false) → Statement.cutAtSemicolons (front ++ m) =
        (Statement.cutAtSemicolons m).modifyHead (front ++ ·) := by
    intro front m hfront
    rw [cutAtSemicolons_eq_splitOnP, cutAtSemicolons_eq_splitOnP,
      splitOnP_append_of_forall hfront]
  induction h with
  | nil => exact .cons .nil .nil
  | @same t l l' _ ih =>
      by_cases ht : t = .semicolon
      · subst ht
        exact .cons .nil ih
      · have hfront : ∀ u ∈ [t], (u == Token.semicolon) = false := by simpa using ht
        have hl := hcut l hfront
        have hl' := hcut l' hfront
        rw [List.singleton_append] at hl hl'
        rw [hl, hl']
        exact hcons (fun hp => .same t hp) ih
  | @behind v w l l' hrole _ ih =>
      have hfront : ∀ u : List Char, ∀ t ∈ [Token.period, .word u],
          (t == Token.semicolon) = false := by simp
      have hl := hcut l (hfront v)
      have hl' := hcut l' (hfront w)
      rw [List.cons_append, List.singleton_append] at hl hl'
      rw [hl, hl']
      exact hcons (fun hp => .behind hrole hp) ih

theorem analyze (h : Renamed l l') : ReadAlike (analyze l) (analyze l') :=
  h.filter_blank.readAlike_analyzeBody _ _

/-- A statement of blanks is one in both lists. -/
theorem any_blank_eq (h : Renamed l l') : l.any (· != .blank) = l'.any (· != .blank) := by
  induction h with
  | nil => rfl
  | same t _ ih => rw [List.any_cons, List.any_cons, ih]
  | behind => rfl

/-- **The statements of the lists** are as many, and they differ in the same way. -/
theorem splitStatements (h : Renamed l l') :
    List.Forall₂ Renamed (splitStatements l) (splitStatements l') := by
  have hpieces := h.cutAtSemicolons
  rw [Statement.splitStatements, Statement.splitStatements]
  generalize Statement.cutAtSemicolons l = ps at hpieces
  generalize Statement.cutAtSemicolons l' = ps' at hpieces
  induction hpieces with
  | nil => exact .nil
  | cons hpiece _ ih =>
      rw [List.filter_cons, List.filter_cons, hpiece.any_blank_eq]
      split
      · exact .cons hpiece ih
      · exact ih

end Renamed

/-! ### Texts -/

/-- A text with a period is not blank. -/
theorem trim_ne_nil_of_period {sql : String} {tokens : List Token}
    (h : tokenize (stripComments sql.toList) = .ok tokens) (hperiod : .period ∈ tokens) :
    trim (stripComments sql.toList) ≠ [] := by
  intro hnil
  have hwords := ((tokenize_eq_ok_iff.mp h).of_isBlank rfl (trim_eq_nil_iff.mp hnil)).1
  cases hwords _ hperiod

/-- A single statement keeps its reading as the only one of a text. -/
theorem IsSingle.combine {s : Statement} (h : s.IsSingle) (text : String) (fallback : Bool) :
    (combine [s] text fallback).IsSingle :=
  ⟨h.count_eq, h.isMulti_eq, h.category_eq, h.isValid_eq⟩

/-- **A text of one statement is read alike** with other words behind its periods. -/
theorem readAlike_of_renamed {sql sql' : String} {tokens tokens' : List Token}
    (h : Renamed tokens tokens') (htokens : tokenize (stripComments sql.toList) = .ok tokens)
    (htokens' : tokenize (stripComments sql'.toList) = .ok tokens')
    (hperiod : .period ∈ tokens) (hperiod' : .period ∈ tokens')
    (hcount : (parse sql).count = 1) : ReadAlike (parse sql) (parse sql') := by
  have hblank := trim_ne_nil_of_period htokens hperiod
  have hblank' := trim_ne_nil_of_period htokens' hperiod'
  obtain ⟨fallback, hparse⟩ := parse_eq_combine sql
  obtain ⟨fallback', hparse'⟩ := parse_eq_combine sql'
  rw [statements_of_tokenize htokens, if_neg (by simpa using hblank)] at hparse
  rw [statements_of_tokenize htokens', if_neg (by simpa using hblank')] at hparse'
  rw [count_parse, statements_of_tokenize htokens, if_neg (by simpa using hblank),
    List.length_map] at hcount
  have hpieces := h.splitStatements
  obtain ⟨piece, hpiece⟩ := List.length_eq_one_iff.mp hcount
  rw [hpiece] at hpieces hparse
  generalize splitStatements tokens' = pieces' at hpieces hparse'
  cases hpieces with
  | @cons _ piece' _ _ hrenamed hrest =>
      cases hrest
      have hread := hrenamed.analyze
      have hsingle := (isSingle_analyzeBody _ _ : (Statement.analyze piece).IsSingle)
      have hsingle' := (isSingle_analyzeBody _ _ : (Statement.analyze piece').IsSingle)
      rw [hparse, hparse']
      exact (hsingle.combine ..).readAlike (hsingle'.combine ..) hread.operation_eq
        hread.hasWhere_eq hread.hasLimit_eq

/-! ### Words that can be exchanged -/

/-- A word outside quotes that is no variable. -/
def IsIdentifier (v : List Char) : Prop :=
  ∃ c more, v = c :: more ∧ isWordStart c = true ∧ c ≠ '@' ∧ ∀ d ∈ more, isWordPart d = true

theorem IsIdentifier.forall_isWordPart {v : List Char} (h : IsIdentifier v) :
    ∀ d ∈ v, isWordPart d = true := by
  obtain ⟨c, more, rfl, hstart, -, hmore⟩ := h
  exact List.forall_mem_cons.mpr ⟨by rw [isWordPart, hstart, Bool.true_or], hmore⟩

/-- An identifier is read as one word where no more of it follows. -/
theorem IsIdentifier.scans {v rest : List Char} (h : IsIdentifier v)
    (hrest : ∀ d ∈ rest.head?, isWordPart d = false ∧ d ≠ '\'') :
    Scans (v ++ rest) [.word v] rest := by
  obtain ⟨c, more, rfl, hstart, hat, hmore⟩ := h
  have hquote : isQuote c = false := by
    by_contra hq
    rw [Bool.not_eq_false] at hq
    rcases isQuote_iff.mp hq with rfl | rfl | rfl <;> cases hstart
  have hhead : (more ++ rest).head? ≠ some '\'' := by
    cases more with
    | nil => exact fun hd => (hrest _ hd).2 rfl
    | cons d more =>
        intro hd
        obtain rfl : d = '\'' := Option.some.inj hd
        exact absurd (hmore _ List.mem_cons_self) (by decide)
  have hplain : Reads c (more ++ rest) _ _ := .plain hquote fun _ => hhead
  have hread : readPlain c (more ++ rest) = (.word (c :: more), rest) :=
    readPlain_of_readsOutside (.word hstart hat hmore fun d hd => (hrest d hd).1)
  rw [hread] at hplain
  exact .cons hplain (.done rest)

/-- A statement that ends in a name behind a period. -/
def qualifiedText (verb v : List Char) : String :=
  String.ofList (verb ++ ' ' :: 'a' :: '.' :: v)

/-- It has no comments. -/
theorem stripComments_qualifiedText {verb v : List Char} (hverb : IsIdentifier verb)
    (hv : IsIdentifier v) :
    stripComments (qualifiedText verb v).toList = verb ++ ' ' :: 'a' :: '.' :: v := by
  rw [qualifiedText, String.toList_ofList]
  refine stripComments_of_isBare ?_
  have hplain : ∀ c ∈ verb ++ ' ' :: 'a' :: '.' :: v,
      isQuote c = false ∧ c ≠ '#' ∧ c ≠ '/' ∧ c ≠ '-' := by
    have hword : ∀ c, isWordPart c = true → isQuote c = false ∧ c ≠ '#' ∧ c ≠ '/' ∧ c ≠ '-' := by
      intro c hc
      refine ⟨?_, ?_, ?_, ?_⟩
      · by_contra hq
        rw [Bool.not_eq_false] at hq
        rcases isQuote_iff.mp hq with rfl | rfl | rfl <;> exact absurd hc (by decide)
      all_goals
        rintro rfl
        exact absurd hc (by decide)
    intro c hc
    simp only [List.mem_append, List.mem_cons] at hc
    rcases hc with hc | rfl | rfl | rfl | hc
    · exact hword c (hverb.forall_isWordPart c hc)
    · decide
    · decide
    · decide
    · exact hword c (hv.forall_isWordPart c hc)
  generalize verb ++ ' ' :: 'a' :: '.' :: v = cs at hplain
  induction cs with
  | nil => exact isBare_nil
  | cons c cs ih =>
      obtain ⟨⟨hquote, hne⟩, hcs⟩ := List.forall_mem_cons.mp hplain
      exact (isBare_cons_iff hquote hne cs).mpr (ih hcs)

/-- It is read word by word. -/
theorem tokenize_qualifiedText {verb v : List Char} (hverb : IsIdentifier verb)
    (hv : IsIdentifier v) : tokenize (stripComments (qualifiedText verb v).toList) =
      .ok ([.word verb, .blank, .word ['a']] ++ .period :: .word v :: []) := by
  have hpoint : ∀ d ∈ v.head?, d.isDigit = false := by
    obtain ⟨c, more, rfl, hstart, -⟩ := hv
    intro d hd
    obtain rfl : c = d := Option.some.inj hd
    exact isDigit_of_isWordStart hstart
  have ha : IsIdentifier ['a'] := ⟨'a', [], rfl, by decide, by decide, by simp⟩
  have hblank : Reads ' ' ('a' :: '.' :: v) _ _ := .plain (by decide) (by simp [letterForm?])
  have hperiod : Reads '.' v _ _ := .plain (by decide) (by simp [letterForm?])
  rw [readPlain_of_readsOutside (.number (by decide) (.period hpoint))] at hperiod
  have hlast : Scans (v ++ []) [.word v] [] := hv.scans (by simp)
  rw [List.append_nil] at hlast
  rw [stripComments_qualifiedText hverb hv, tokenize_eq_ok_iff]
  exact (hverb.scans (by simp; decide)).trans (.cons hblank
    ((ha.scans (by simp; decide)).trans (.cons hperiod hlast)))

/-- What is read of it. -/
theorem parse_qualifiedText {verb v : List Char} (hverb : IsIdentifier verb)
    (hv : IsIdentifier v) (hexplain : String.ofList (upper verb) ≠ "EXPLAIN") :
    (parse (qualifiedText verb v)).count = 1 ∧ ReadAlike (parse (qualifiedText verb v))
      (describe "" [.word verb, .word ['a'], .period, .word v]) := by
  have htokens := tokenize_qualifiedText hverb hv
  have hblank := trim_ne_nil_of_period htokens (by simp)
  obtain ⟨fallback, hparse⟩ := parse_eq_combine (qualifiedText verb v)
  have hstatements : statements (qualifiedText verb v) =
      [analyze [.word verb, .blank, .word ['a'], .period, .word v]] := by
    rw [statements_of_tokenize htokens, if_neg (by simpa using hblank)]
    rfl
  have hnone : explained? [.word verb, .word ['a'], .period, .word v] = none := by
    simp [explained?, Token.isWord, Token.keyword?, hexplain]
  have hanalyze : ∃ normalized, analyze [.word verb, .blank, .word ['a'], .period, .word v] =
      describe normalized [.word verb, .word ['a'], .period, .word v] := by
    have hbody := analyzeBody_eq
      (String.ofList (render [.word verb, .blank, .word ['a'], .period, .word v]))
      [.word verb, .word ['a'], .period, .word v]
    rw [show [Token.word verb, .word ['a'], .period, .word v].dropWhile (· == .openParen) =
      [.word verb, .word ['a'], .period, .word v] from rfl, hnone] at hbody
    exact ⟨_, hbody⟩
  obtain ⟨normalized, hanalyze⟩ := hanalyze
  rw [hstatements, hanalyze] at hparse
  refine ⟨by rw [count_parse, hstatements]; rfl, ?_⟩
  rw [hparse]
  exact ((isSingle_single ..).combine ..).readAlike (isSingle_single ..) rfl rfl rfl

/-- A query tells the clauses apart. -/
theorem clauses_of_select (v : List Char) :
    (describe "" [.word "SELECT".toList, .word ['a'], .period, .word v]).hasWhere =
        (String.ofList (upper v) == "WHERE") ∧
      (describe "" [.word "SELECT".toList, .word ['a'], .period, .word v]).hasLimit =
        (String.ofList (upper v) == "LIMIT") := by
  have hverb : String.ofList (upper "SELECT".toList) = "SELECT" := by decide +kernel
  have ha : String.ofList (upper ['a']) = "A" := by decide +kernel
  have hcategory : (Category.ofOperation "SELECT" != .metadata) = true := by decide +kernel
  have hkey : (Token.word "SELECT".toList).keyword? = some "SELECT" := congrArg some hverb
  have hoperation : verbOf [.word "SELECT".toList, .word ['a'], .period, .word v] = "SELECT" :=
    verbOf_cons hkey (by decide) (by decide) _
  have hcomm : ∀ a b : String, (a == b) = (b == a) := fun a b => by
    rw [Bool.eq_iff_iff, beq_iff_eq, beq_iff_eq, eq_comm]
  simp only [describe, single, hoperation, topLevelWords, topLevelWordsAt, Token.keyword?, hverb,
    ha, hcategory, Bool.and_true, List.contains_cons, List.contains_nil, Bool.or_false]
  exact ⟨hcomm _ _, hcomm _ _⟩

/-- A `WITH` clause tells the main verbs apart. -/
theorem operation_of_with (v : List Char) :
    (describe "" [.word "WITH".toList, .word ['a'], .period, .word v]).operation =
      if mainVerbs.contains (String.ofList (upper v)) then String.ofList (upper v) else "WITH" := by
  have hverb : String.ofList (upper "WITH".toList) = "WITH" := by decide +kernel
  have ha : String.ofList (upper ['a']) = "A" := by decide +kernel
  simp only [describe, single, verbOf, topLevelWords, topLevelWordsAt, Token.keyword?, hverb, ha,
    List.drop_one, List.tail_cons, List.find?_cons, show mainVerbs.contains "A" = false by decide]
  split <;> simp_all

/-- **The words that can be exchanged behind a period** are those with the same role. -/
theorem exchangeable_iff {v w : List Char} (hv : IsIdentifier v) (hw : IsIdentifier w) :
    role? v = role? w ↔ ∀ (sql sql' : String) (front back : List Token),
      tokenize (stripComments sql.toList) = .ok (front ++ .period :: .word v :: back) →
      tokenize (stripComments sql'.toList) = .ok (front ++ .period :: .word w :: back) →
      (parse sql).count = 1 → ReadAlike (parse sql) (parse sql') := by
  constructor
  · intro hrole sql sql' front back htokens htokens' hcount
    exact readAlike_of_renamed (.of_word hrole front back) htokens htokens' (by simp) (by simp)
      hcount
  · intro h
    have hread : ∀ {verb : List Char}, IsIdentifier verb →
        String.ofList (upper verb) ≠ "EXPLAIN" →
        ReadAlike (describe "" [.word verb, .word ['a'], .period, .word v])
          (describe "" [.word verb, .word ['a'], .period, .word w]) := by
      intro verb hverb hexplain
      obtain ⟨hcount, hreadv⟩ := parse_qualifiedText hverb hv hexplain
      obtain ⟨-, hreadw⟩ := parse_qualifiedText hverb hw hexplain
      exact hreadv.symm.trans ((h _ _ _ _ (tokenize_qualifiedText hverb hv)
        (tokenize_qualifiedText hverb hw) hcount).trans hreadw)
    have hselect : ReadAlike (describe "" [.word "SELECT".toList, .word ['a'], .period, .word v])
        (describe "" [.word "SELECT".toList, .word ['a'], .period, .word w]) :=
      hread ⟨'S', "ELECT".toList, rfl, by decide, by decide, List.all_eq_true.mp (by decide)⟩
        (by decide +kernel)
    have hwith : ReadAlike (describe "" [.word "WITH".toList, .word ['a'], .period, .word v])
        (describe "" [.word "WITH".toList, .word ['a'], .period, .word w]) :=
      hread ⟨'W', "ITH".toList, rfl, by decide, by decide, List.all_eq_true.mp (by decide)⟩
        (by decide +kernel)
    have hwhere := hselect.hasWhere_eq
    have hlimit := hselect.hasLimit_eq
    have hverb := hwith.operation_eq
    rw [(clauses_of_select v).1, (clauses_of_select w).1] at hwhere
    rw [(clauses_of_select v).2, (clauses_of_select w).2] at hlimit
    rw [operation_of_with, operation_of_with] at hverb
    generalize hv' : String.ofList (upper v) = v' at hwhere hlimit hverb
    generalize hw' : String.ofList (upper w) = w' at hwhere hlimit hverb
    have hnot : mainVerbs.contains "WITH" = false := by decide
    simp only [role?, hv', hw', countedWords, List.contains_cons]
    grind

/-- An ordinary column may take the name of another. -/
theorem exchangeable_of_column :
    ReadAlike (parse "SELECT t.id FROM t WHERE t.id = 1 LIMIT 3")
      (parse "SELECT t.name FROM t WHERE t.id = 1 LIMIT 3") := by
  have hid : IsIdentifier "id".toList :=
    ⟨'i', ['d'], rfl, by decide, by decide, List.all_eq_true.mp (by decide)⟩
  have hname : IsIdentifier "name".toList :=
    ⟨'n', ['a', 'm', 'e'], rfl, by decide, by decide, List.all_eq_true.mp (by decide)⟩
  refine (exchangeable_iff hid hname).mp (by decide +kernel) _ _
    [.word "SELECT".toList, .blank, .word "t".toList]
    [.blank, .word "FROM".toList, .blank, .word "t".toList, .blank, .word "WHERE".toList, .blank,
      .word "t".toList, .period, .word "id".toList, .blank, .sign ['='], .blank,
      .number ['1'] false, .blank, .word "LIMIT".toList, .blank, .number ['3'] false] ?_ ?_ ?_
  · decide +kernel
  · decide +kernel
  · decide +kernel

/-- **A column named like a clause counts as the clause**: a query without a limit is of low risk
because of the name of a column. -/
theorem not_readAlike_of_limit :
    tokenize (stripComments "SELECT t.x FROM t".toList) =
        .ok ([.word "SELECT".toList, .blank, .word "t".toList] ++ .period :: .word "x".toList ::
          [.blank, .word "FROM".toList, .blank, .word "t".toList]) ∧
      tokenize (stripComments "SELECT t.limit FROM t".toList) =
        .ok ([.word "SELECT".toList, .blank, .word "t".toList] ++ .period ::
          .word "limit".toList :: [.blank, .word "FROM".toList, .blank, .word "t".toList]) ∧
      (parse "SELECT t.x FROM t").count = 1 ∧
      (parse "SELECT t.x FROM t").hasLimit = false ∧
      (parse "SELECT t.x FROM t").risk = .medium ∧
      (parse "SELECT t.limit FROM t").hasLimit = true ∧
      (parse "SELECT t.limit FROM t").risk = .low := by
  refine ⟨?_, ?_, ?_, ?_, ?_, ?_, ?_⟩ <;> decide +kernel

end SqlGateway.Statement
