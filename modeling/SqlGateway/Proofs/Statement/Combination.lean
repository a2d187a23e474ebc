import SqlGateway.Proofs.Text.Word
import SqlGateway.Statement.Parse

/-!
# A Text as the List of Its Statements

`parse` describes a text by one record, whether it holds no statement, one or several.
`statements` is the list behind that record, and `parse_eq_combine` says that the record is
nothing but the combination of this list. Every field that the gate looks at is then a
fold over the list, so a statement counts wherever it stands.

## Main results

* `parse_eq_combine`: a text is described by combining its statements.
* `count_combine`, `isMulti_combine`, `hardBlocked?_combine`, `mem_tables_combine`,
  `hasWhere_combine`, `hasLimit_combine`, `risk_combine`: the fields of a combination.
-/

namespace SqlGateway.Statement

open Sql
open Text (NameSet)

/-! ### Single statements -/

/-- What all descriptions of single statements share: the verb decides the category and
whether the description is valid. -/
structure IsSingle (s : Statement) : Prop where
  count_eq : s.count = 1
  isMulti_eq : s.isMulti = false
  category_eq : s.category = Category.ofOperation s.operation
  isValid_eq : s.isValid = (s.operation != "")

/-- The gateway knows a single statement if it knows its verb. -/
theorem IsSingle.isSupported_eq {s : Statement} (h : s.IsSingle) :
    s.isSupported = isSupportedOperation s.operation s.category := by
  have hmulti := h.isMulti_eq
  cases s
  simp only at hmulti
  rw [isSupported, hmulti]
  rfl

/-- The risk of a single statement is its own. -/
theorem IsSingle.risk_eq {s : Statement} (h : s.IsSingle) : s.risk = s.ownRisk := by
  have hmulti := h.isMulti_eq
  cases s
  simp only at hmulti
  rw [risk, if_neg (by simp [hmulti])]

theorem isSingle_single (operation normalized : String) (tables : NameSet)
    (hasWhere hasLimit fallback : Bool) :
    (single operation normalized tables hasWhere hasLimit fallback).IsSingle :=
  ⟨rfl, rfl, rfl, rfl⟩

theorem isSingle_analyzeBody (normalized : String) (tokens : List Token) :
    (analyzeBody normalized tokens).IsSingle := by
  fun_induction analyzeBody normalized tokens with
  | case1 tokens body rest h hlt inner hinner ih => exact ih
  | case2 => exact isSingle_single ..
  | case3 => exact isSingle_single ..

/-- A statement that is explained counts as itself if it writes rows. -/
theorem analyzeBody_eq (normalized : String) (tokens : List Token) :
    analyzeBody normalized tokens =
      match explained? (tokens.dropWhile (· == .openParen)) with
      | some rest =>
        if (analyzeBody normalized rest).category == .manipulation &&
            (analyzeBody normalized rest).operation != "SELECT" then analyzeBody normalized rest
        else describe normalized (tokens.dropWhile (· == .openParen))
      | none => describe normalized (tokens.dropWhile (· == .openParen)) := by
  rw [analyzeBody]
  dsimp only
  split
  · rename_i h
    rw [h]
  · rename_i h
    rw [h]

/-- The verb of a statement is its first word, but for the two verbs that are completed. -/
theorem verbOf_cons {first : Token} {word : String} (hkey : first.keyword? = some word)
    (hshow : word ≠ "SHOW") (hwith : word ≠ "WITH") (rest : List Token) :
    verbOf (first :: rest) = word := by
  rw [verbOf]
  simp only [hkey]

/-- A word in front stands outside parentheses. -/
theorem topLevelWords_cons {first : Token} {word : String} (hkey : first.keyword? = some word)
    (rest : List Token) : topLevelWords (first :: rest) = word :: topLevelWordsAt 0 rest := by
  cases first with
  | word v =>
      obtain rfl := Option.some.inj hkey
      rfl
  | _ => cases hkey

/-- Behind a `WITH` clause the verb is the first main verb outside parentheses. -/
theorem verbOf_with {first : Token} (hkey : first.keyword? = some "WITH") (rest : List Token) :
    verbOf (first :: rest) =
      ((topLevelWordsAt 0 rest).find? mainVerbs.contains).getD "WITH" := by
  rw [verbOf]
  simp only [hkey, topLevelWords_cons hkey, List.drop_one, List.tail_cons]

/-- The statements of a text, in order. -/
def statements (sql : String) : List Statement :=
  let text := stripComments sql.toList
  if (Text.trim text).isEmpty then []
  else
    match tokenize text with
    | .ok tokens => (splitStatements tokens).map analyze
    | .error _ => fallbackPieces text

/-- The statements of a text that the tokenizer accepts. -/
theorem statements_of_tokenize {sql : String} {tokens : List Token}
    (h : tokenize (stripComments sql.toList) = .ok tokens) :
    statements sql = if (Text.trim (stripComments sql.toList)).isEmpty then []
      else (splitStatements tokens).map analyze := by
  unfold statements
  dsimp only
  rw [h]

/-- Each statement of a text is described as a single one. -/
theorem isSingle_of_mem_statements {sql : String} {s : Statement} (h : s ∈ statements sql) :
    s.IsSingle := by
  unfold statements at h
  dsimp only at h
  split at h
  · cases h
  split at h
  · obtain ⟨tokens, -, rfl⟩ := List.mem_map.mp h
    exact isSingle_analyzeBody _ _
  · obtain ⟨piece, -, rfl⟩ := List.mem_map.mp h
    exact isSingle_single ..

/-- **A text is described by combining its statements.** -/
theorem parse_eq_combine (sql : String) :
    ∃ fallback, parse sql = combine (statements sql) sql fallback := by
  unfold parse statements
  dsimp only
  split
  · exact ⟨false, rfl⟩
  · rcases tokenize (stripComments sql.toList) with _ | tokens
    · exact ⟨true, rfl⟩
    · exact ⟨false, rfl⟩

/-! ### The fields of a combination -/

/-- The verb of a text without statements is one word. -/
theorem firstWord_unknown : Text.firstWord "UNKNOWN" = "UNKNOWN" := by
  have hblank : "UNKNOWN".toList.all (!Text.isBlank ·) = true := by decide
  exact Text.firstWord_of_unblank fun c hc => by simpa using List.all_eq_true.mp hblank c hc

section

variable {l : List Statement} (hl : ∀ s ∈ l, s.IsSingle) (text : String) (fallback : Bool)

include hl

/-- A combination counts its statements. -/
theorem count_combine : (combine l text fallback).count = l.length := by
  match l, hl with
  | [], _ => rfl
  | [s], hl => exact (hl s (by simp)).count_eq
  | first :: second :: more, _ => rfl

/-- A combination is of several statements if it has more than one. -/
theorem isMulti_combine : (combine l text fallback).isMulti = true ↔ 2 ≤ l.length := by
  match l, hl with
  | [], _ => simp [combine, empty]
  | [s], hl => simp [combine, (hl s (by simp)).isMulti_eq]
  | first :: second :: more, _ => simp [combine, aggregate]

/-- The verbs of a combination are those of its statements, in order. -/
theorem operations_combine (hne : l ≠ []) :
    (combine l text fallback).operations = l.map operation := by
  match l, hl, hne with
  | [s], hl, _ => simp [combine, operations, (hl s (by simp)).isMulti_eq]
  | first :: second :: more, _, _ => simp [combine, aggregate, operations]

/-- The first hard-blocked verb of a combination is the first one among its statements. -/
theorem hardBlocked?_combine :
    (combine l text fallback).hardBlocked? = (l.map operation).find? isHardBlocked := by
  by_cases hne : l = []
  · subst hne
    have hunknown : isHardBlocked "UNKNOWN" = false := by
      rw [isHardBlocked, firstWord_unknown]
      decide
    simp [combine, empty, hardBlocked?, operations, hunknown]
  · rw [hardBlocked?, operations_combine hl text fallback hne]

end

/-- The description of a text counts its statements. -/
theorem count_parse (sql : String) : (parse sql).count = (statements sql).length := by
  obtain ⟨fallback, hparse⟩ := parse_eq_combine sql
  rw [hparse, count_combine fun s => isSingle_of_mem_statements]

/-- The first hard-blocked verb of a text is the first one among its statements. -/
theorem hardBlocked?_parse (sql : String) :
    (parse sql).hardBlocked? = ((statements sql).map operation).find? isHardBlocked := by
  obtain ⟨fallback, hparse⟩ := parse_eq_combine sql
  rw [hparse, hardBlocked?_combine fun s => isSingle_of_mem_statements]

section

variable (l : List Statement) (text : String) (fallback : Bool)

/-- A combination names the tables of all its statements. -/
theorem mem_tables_combine {name : String} :
    name ∈ (combine l text fallback).tables.names ↔ ∃ s ∈ l, name ∈ s.tables.names := by
  match l with
  | [] => simp [combine, empty, NameSet.empty]
  | [s] => simp [combine]
  | first :: second :: more =>
      simp only [combine, aggregate, NameSet.mem_names_ofList, List.mem_flatMap]

theorem hasWhere_combine : (combine l text fallback).hasWhere = l.any (·.hasWhere) := by
  match l with
  | [] => rfl
  | [s] => simp [combine]
  | first :: second :: more => rfl

theorem hasLimit_combine : (combine l text fallback).hasLimit = l.any (·.hasLimit) := by
  match l with
  | [] => rfl
  | [s] => simp [combine]
  | first :: second :: more => rfl

theorem isValid_combine (hne : l ≠ []) :
    (combine l text fallback).isValid = l.all (·.isValid) := by
  match l, hne with
  | [s], _ => simp [combine]
  | first :: second :: more, _ => rfl

theorem areSupported_eq_all : areSupported l = l.all isSupported := by
  induction l with
  | nil => rfl
  | cons s rest ih => rw [areSupported, ih, List.all_cons]

/-- The gateway knows the verbs of a combination if it knows those of its statements. -/
theorem isSupported_combine (hne : l ≠ []) :
    (combine l text fallback).isSupported = l.all isSupported := by
  match l, hne with
  | [s], _ =>
      cases s
      simp [combine, isSupported]
  | first :: second :: more, _ =>
      change (aggregate first (second :: more) text fallback).isSupported = _
      rw [aggregate, isSupported, areSupported_eq_all]
      rfl

theorem rank_le_max_left (a b : RiskLevel) : a.rank ≤ (a.max b).rank := by
  rw [RiskLevel.max]
  split
  · assumption
  · exact Nat.le_refl _

theorem rank_le_max_right (a b : RiskLevel) : b.rank ≤ (a.max b).rank := by
  rw [RiskLevel.max]
  split
  · exact Nat.le_refl _
  · omega

/-- Among some statements there is a highest risk. -/
theorem exists_highestRisk? {l : List Statement} (hne : l ≠ []) : ∃ r, highestRisk? l = some r := by
  obtain ⟨first, rest, rfl⟩ := List.exists_cons_of_ne_nil hne
  rw [highestRisk?]
  split <;> exact ⟨_, rfl⟩

/-- The highest risk is the risk of a statement. -/
theorem exists_mem_risk_eq {l : List Statement} {r : RiskLevel} (h : highestRisk? l = some r) :
    ∃ s ∈ l, s.risk = r := by
  induction l generalizing r with
  | nil => cases h
  | cons first rest ih =>
      rw [highestRisk?] at h
      split at h
      · cases h
        exact ⟨first, by simp, rfl⟩
      · rename_i r' hrest
        obtain ⟨s, hs, rfl⟩ := ih hrest
        cases h
        rw [RiskLevel.max]
        split
        · exact ⟨s, by simp [hs], rfl⟩
        · exact ⟨first, by simp, rfl⟩

/-- The risk of a text does not depend on how it is written. -/
theorem risk_withText (s : Statement) : { s with text := text }.risk = s.risk := by
  cases s
  simp only [risk, ownRisk]

/-- **The risk of a combination** is the highest among its statements. -/
theorem risk_combine (hne : l ≠ []) :
    some (combine l text fallback).risk = highestRisk? l := by
  match l, hne with
  | [s], _ =>
      rw [combine, risk_withText, highestRisk?, highestRisk?]
  | first :: second :: more, hne =>
      obtain ⟨r, hr⟩ := exists_highestRisk? hne
      have hrisk : (aggregate first (second :: more) text fallback).risk = r := by
        rw [aggregate, risk, hr]
        rfl
      rw [hr, ← hrisk]
      rfl

/-- No statement of a combination is riskier than the whole. -/
theorem rank_le_risk_combine {s : Statement} (hmem : s ∈ l) :
    s.risk.rank ≤ (combine l text fallback).risk.rank := by
  have hle : ∀ r, highestRisk? l = some r → s.risk.rank ≤ r.rank := by
    induction l with
    | nil => cases hmem
    | cons first rest ih =>
        intro r hr
        rw [highestRisk?] at hr
        rcases List.mem_cons.mp hmem with rfl | hmem
        · split at hr
          · cases hr
            exact Nat.le_refl _
          · cases hr
            exact rank_le_max_left _ _
        · split at hr
          · rename_i hnone
            obtain ⟨r', hr'⟩ := exists_highestRisk? (List.ne_nil_of_mem hmem)
            rw [hnone] at hr'
            cases hr'
          · rename_i r' hsome
            cases hr
            exact (ih hmem r' hsome).trans (rank_le_max_right _ _)
  exact hle _ (risk_combine l text fallback (List.ne_nil_of_mem hmem)).symm

end

/-! ### Combining two lists -/

theorem max_assoc (a b c : RiskLevel) : (a.max b).max c = a.max (b.max c) := by
  cases a <;> cases b <;> cases c <;> rfl

/-- The highest risk of two lists together is the higher of theirs. -/
theorem highestRisk?_append (l₁ l₂ : List Statement) :
    highestRisk? (l₁ ++ l₂) =
      (highestRisk? l₁).merge RiskLevel.max (highestRisk? l₂) := by
  induction l₁ with
  | nil => simp [highestRisk?]
  | cons s rest ih =>
      rw [List.cons_append, highestRisk?, highestRisk?, ih]
      rcases highestRisk? rest with _ | r <;> rcases highestRisk? l₂ with _ | r' <;>
        simp [Option.merge, max_assoc]

/-- Sets with the same members are equal, since their members stand in order. -/
theorem nameSet_ext {s t : NameSet} (h : ∀ name, name ∈ s.names ↔ name ∈ t.names) : s = t := by
  have hirrefl : Std.Irrefl (α := String) (· < ·) := ⟨String.lt_irrefl⟩
  have hantisymm : Std.Antisymm (α := String) (· < ·) :=
    ⟨fun a b hab hba => absurd (String.lt_trans hab hba) (String.lt_irrefl a)⟩
  have hnames : s.names = t.names := s.ascending.eq_of_mem_iff t.ascending h
  cases s
  cases t
  cases hnames
  rfl

section

variable (l₁ l₂ : List Statement) (text text₁ text₂ : String)
  (fallback fallback₁ fallback₂ : Bool)

/-- The risk of two lists together is the higher of theirs. -/
theorem risk_combine_append (h₁ : l₁ ≠ []) (h₂ : l₂ ≠ []) :
    (combine (l₁ ++ l₂) text fallback).risk =
      (combine l₁ text₁ fallback₁).risk.max (combine l₂ text₂ fallback₂).risk := by
  have happ := risk_combine (l₁ ++ l₂) text fallback (by simp [h₁])
  rw [highestRisk?_append, ← risk_combine l₁ text₁ fallback₁ h₁,
    ← risk_combine l₂ text₂ fallback₂ h₂, Option.merge_some_some] at happ
  exact Option.some.inj happ

/-- The tables of two lists together are the tables of both. -/
theorem tables_combine_append :
    (combine (l₁ ++ l₂) text fallback).tables =
      (combine l₁ text₁ fallback₁).tables.insertAll
        (combine l₂ text₂ fallback₂).tables.names := by
  refine nameSet_ext fun name => ?_
  rw [NameSet.mem_names_insertAll, mem_tables_combine, mem_tables_combine, mem_tables_combine]
  simp only [List.mem_append, or_and_right, exists_or]
  exact Or.comm

end

end SqlGateway.Statement
