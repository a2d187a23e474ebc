import SqlGateway.Proofs.Statement.Combination

/-!
# What Every Description Satisfies

A description is a flat record, and the gate, the session and the messages each read some of
its fields: one takes the flag for several statements, another the count, a third the parts.
They agree with each other only because the fields fit together. This module says how, for
every description that `parse` can give, whichever way it was made: from tokens, from the
words of a text that the tokenizer refuses, or for a text without statements.

## Main results

* `isRiskiest_riskiest`: the model of an aggregate is the first of its riskiest statements.
* `represents_parse`: the fields of a description fit together.
-/

namespace SqlGateway.Statement

open Sql
open Text (NameSet)

/-! ### Parts -/

/-- A single statement of a text, described from its tokens or, with `fallback`, from its
words. -/
structure IsPart (s : Statement) (fallback : Bool) : Prop extends s.IsSingle where
  parts_eq : s.parts = []
  usedFallback_eq : s.usedFallback = fallback
  of_metadata : s.category = .metadata → s.hasWhere = false ∧ s.hasLimit = false

theorem isPart_single (operation normalized : String) (tables : NameSet)
    (hasWhere hasLimit fallback : Bool) :
    (single operation normalized tables hasWhere hasLimit fallback).IsPart fallback where
  toIsSingle := isSingle_single ..
  parts_eq := rfl
  usedFallback_eq := rfl
  of_metadata := by
    intro hmeta
    have hcat : Category.ofOperation operation = .metadata := hmeta
    simp [single, hcat]

theorem isPart_analyzeBody (normalized : String) (tokens : List Token) :
    (analyzeBody normalized tokens).IsPart false := by
  fun_induction analyzeBody normalized tokens with
  | case1 tokens body rest h hlt inner hinner ih => exact ih
  | case2 => exact isPart_single ..
  | case3 => exact isPart_single ..

/-- The statements of a text are all described in the same way. -/
theorem parse_eq_combine_parts (sql : String) :
    ∃ fallback, (∀ s ∈ statements sql, s.IsPart fallback) ∧
      parse sql = combine (statements sql) sql fallback := by
  unfold parse statements
  dsimp only
  split
  · exact ⟨false, by simp, rfl⟩
  · rcases tokenize (stripComments sql.toList) with _ | tokens
    · refine ⟨true, fun s hs => ?_, rfl⟩
      obtain ⟨piece, -, rfl⟩ := List.mem_map.mp hs
      exact isPart_single ..
    · refine ⟨false, fun s hs => ?_, rfl⟩
      obtain ⟨piece, -, rfl⟩ := List.mem_map.mp hs
      exact isPart_analyzeBody _ _

/-! ### The riskiest statement -/

/-- The first of the riskiest statements in a list: those before it are less risky, and those
after it are no riskier. -/
def IsRiskiest (l : List Statement) (s : Statement) : Prop :=
  ∃ before after, l = before ++ s :: after ∧
    (∀ t ∈ before, t.risk.rank < s.risk.rank) ∧ ∀ t ∈ after, t.risk.rank ≤ s.risk.rank

namespace IsRiskiest

variable {l : List Statement} {s t : Statement}

theorem mem (h : IsRiskiest l s) : s ∈ l := by
  obtain ⟨before, after, rfl, -⟩ := h
  simp

theorem rank_le (h : IsRiskiest l s) (hmem : t ∈ l) : t.risk.rank ≤ s.risk.rank := by
  obtain ⟨before, after, rfl, hbefore, hafter⟩ := h
  rcases List.mem_append.mp hmem with hmem | hmem
  · exact Nat.le_of_lt (hbefore t hmem)
  · rcases List.mem_cons.mp hmem with rfl | hmem
    · exact Nat.le_refl _
    · exact hafter t hmem

end IsRiskiest

/-- The search keeps the statement that it starts with as long as no later one is riskier. -/
theorem riskiest_cases (first : Statement) (more : List Statement) :
    (riskiest first more = first ∧ ∀ t ∈ more, t.risk.rank ≤ first.risk.rank) ∨
      (IsRiskiest more (riskiest first more) ∧
        first.risk.rank < (riskiest first more).risk.rank) := by
  induction more generalizing first with
  | nil => exact .inl ⟨rfl, by simp⟩
  | cons s rest ih =>
      rw [riskiest]
      split
      · rename_i hlt
        right
        rcases ih s with ⟨heq, hle⟩ | ⟨⟨before, after, heq, hbefore, hafter⟩, hs⟩
        · rw [heq]
          exact ⟨⟨[], rest, rfl, by simp, hle⟩, hlt⟩
        · refine ⟨⟨s :: before, after, congrArg (s :: ·) heq, ?_, hafter⟩, by omega⟩
          simpa [hs] using hbefore
      · rename_i hge
        rcases ih first with ⟨heq, hle⟩ | ⟨⟨before, after, heq, hbefore, hafter⟩, hfirst⟩
        · exact .inl ⟨heq, by simpa using ⟨by omega, hle⟩⟩
        · refine .inr ⟨⟨s :: before, after, congrArg (s :: ·) heq, ?_, hafter⟩, hfirst⟩
          simpa using ⟨by omega, hbefore⟩

/-- **The model of an aggregate** is the first of its riskiest statements. -/
theorem isRiskiest_riskiest (first : Statement) (more : List Statement) :
    IsRiskiest (first :: more) (riskiest first more) := by
  rcases riskiest_cases first more with ⟨heq, hle⟩ | ⟨⟨before, after, heq, hbefore, hafter⟩, hlt⟩
  · rw [heq]
    exact ⟨[], more, rfl, by simp, hle⟩
  · exact ⟨first :: before, after, congrArg (first :: ·) heq, by simpa [hlt] using hbefore, hafter⟩

theorem rank_injective {a b : RiskLevel} (h : a.rank = b.rank) : a = b := by
  cases a <;> cases b <;> first | rfl | cases h

/-- The risk of a combination is that of its riskiest statement. -/
theorem IsRiskiest.risk_eq {l : List Statement} {s : Statement} (h : IsRiskiest l s)
    (text : String) (fallback : Bool) : s.risk = (combine l text fallback).risk := by
  have hne : l ≠ [] := List.ne_nil_of_mem h.mem
  obtain ⟨t, ht, heq⟩ := exists_mem_risk_eq (risk_combine l text fallback hne).symm
  have hle : (combine l text fallback).risk.rank ≤ s.risk.rank := heq ▸ h.rank_le ht
  have hge := rank_le_risk_combine l text fallback h.mem
  exact rank_injective (by omega)

/-! ### Descriptions -/

/-- A description of several statements: it counts its parts, which are single statements,
collects what they name and do, and has the verb of the first riskiest one. -/
structure IsAggregate (p : Statement) : Prop where
  length_parts : p.parts.length = p.count
  of_mem_parts : ∀ s ∈ p.parts,
    s.count = 1 ∧ s.isMulti = false ∧ s.parts = [] ∧ s.usedFallback = p.usedFallback
  mem_tables : ∀ name, name ∈ p.tables.names ↔ ∃ s ∈ p.parts, name ∈ s.tables.names
  hasWhere_eq : p.hasWhere = p.parts.any (·.hasWhere)
  hasLimit_eq : p.hasLimit = p.parts.any (·.hasLimit)
  isValid_eq : p.isValid = p.parts.all (·.isValid)
  normalized_eq : p.normalized = String.intercalate "; " (p.parts.map (·.normalized))
  rank_le : ∀ s ∈ p.parts, s.risk.rank ≤ p.risk.rank
  exists_model : ∃ before model after, p.parts = before ++ model :: after ∧
    p.operation = model.operation ∧ p.category = model.category ∧ model.risk = p.risk ∧
      ∀ s ∈ before, s.risk.rank < p.risk.rank

/-- The record `p` describes the text `sql`, and its fields fit together. -/
structure Represents (p : Statement) (sql : String) : Prop where
  text_eq : p.text = sql
  category_eq : p.category = Category.ofOperation p.operation
  isMulti_iff_count : p.isMulti = true ↔ 2 ≤ p.count
  isMulti_iff_parts : p.isMulti = true ↔ p.parts ≠ []
  of_count_eq_zero : p.count = 0 →
    p.isValid = false ∧ p.isSupported = false ∧ p.hardBlocked? = none
  of_metadata : p.isMulti = false → p.category = .metadata →
    p.hasWhere = false ∧ p.hasLimit = false
  isAggregate : p.isMulti = true → p.IsAggregate

theorem represents_empty (sql : String) : (empty sql).Represents sql where
  text_eq := rfl
  category_eq := by
    change Category.unknown = Category.ofVerb (Text.firstWord "UNKNOWN")
    rw [firstWord_unknown]
    decide
  isMulti_iff_count := by simp [empty]
  isMulti_iff_parts := by simp [empty]
  of_count_eq_zero := by
    intro _
    refine ⟨rfl, ?_, ?_⟩
    · rw [empty, isSupported]
      decide
    · exact hardBlocked?_combine (l := []) (by simp) sql false
  of_metadata := fun _ h => by cases h
  isAggregate := fun h => by cases h

/-- A single statement is described by itself. -/
theorem IsPart.represents {s : Statement} {fallback : Bool} (h : s.IsPart fallback)
    (sql : String) : ({ s with text := sql } : Statement).Represents sql where
  text_eq := rfl
  category_eq := h.category_eq
  isMulti_iff_count := by simp [h.isMulti_eq, h.count_eq]
  isMulti_iff_parts := by simp [h.isMulti_eq, h.parts_eq]
  of_count_eq_zero := fun h0 => absurd (h.count_eq.symm.trans h0) (by decide)
  of_metadata := fun _ => h.of_metadata
  isAggregate := fun hmulti => absurd (h.isMulti_eq.symm.trans hmulti) (by decide)

theorem isAggregate_aggregate {first second : Statement} {more : List Statement}
    {fallback : Bool} (h : ∀ s ∈ first :: second :: more, s.IsPart fallback) (sql : String) :
    (aggregate first (second :: more) sql fallback).IsAggregate where
  length_parts := rfl
  of_mem_parts := fun s hs =>
    have hs := h s hs
    ⟨hs.count_eq, hs.isMulti_eq, hs.parts_eq, hs.usedFallback_eq⟩
  mem_tables := fun _ => mem_tables_combine (first :: second :: more) sql fallback
  hasWhere_eq := rfl
  hasLimit_eq := rfl
  isValid_eq := rfl
  normalized_eq := rfl
  rank_le := fun _ => rank_le_risk_combine (first :: second :: more) sql fallback
  exists_model := by
    have hmodel := isRiskiest_riskiest first (second :: more)
    have hrisk := hmodel.risk_eq sql fallback
    obtain ⟨before, after, hparts, hbefore, -⟩ := hmodel
    refine ⟨before, riskiest first (second :: more), after, hparts, rfl, rfl, hrisk, ?_⟩
    intro s hs
    exact (hbefore s hs).trans_eq (congrArg RiskLevel.rank hrisk)

theorem represents_aggregate {first second : Statement} {more : List Statement}
    {fallback : Bool} (h : ∀ s ∈ first :: second :: more, s.IsPart fallback) (sql : String) :
    (aggregate first (second :: more) sql fallback).Represents sql where
  text_eq := rfl
  category_eq := (h _ (isRiskiest_riskiest first (second :: more)).mem).category_eq
  isMulti_iff_count := by simp [aggregate]
  isMulti_iff_parts := by simp [aggregate]
  of_count_eq_zero := fun h0 => by simp [aggregate] at h0
  of_metadata := fun hmulti => by cases hmulti
  isAggregate := fun _ => isAggregate_aggregate h sql

/-- **The fields of a description fit together**, for every text. -/
theorem represents_parse (sql : String) : (parse sql).Represents sql := by
  obtain ⟨fallback, hpart, hparse⟩ := parse_eq_combine_parts sql
  rw [hparse]
  match hl : statements sql, hpart with
  | [], _ => exact represents_empty sql
  | [s], hpart => exact (hpart s (by simp)).represents sql
  | first :: second :: more, hpart => exact represents_aggregate hpart sql

end SqlGateway.Statement
