import SqlGateway.Statement.Category
import SqlGateway.Statement.Risk
import SqlGateway.Text.NameSet

/-!
# Statements

What the gateway knows about a text of SQL. A text with several statements is described by
an aggregate: the riskiest statement supplies the verb and the category, tables and clause
flags are collected from all, and the descriptions of the single statements are its parts.
-/

namespace SqlGateway

open Text (NameSet)

/-- The description of a text of SQL. -/
structure Statement where
  /-- The verb in upper case, `SELECT` or `SHOW TABLES` for instance. -/
  operation : String
  category : Category
  /-- The tables named, in lower case, with their database if it is written. -/
  tables : NameSet
  hasWhere : Bool
  hasLimit : Bool
  isMulti : Bool
  /-- How many statements the text holds. -/
  count : Nat
  /-- The text without comments, with single blanks and keywords in upper case. -/
  normalized : String
  /-- The text described; of a part of an aggregate, its normal form. -/
  text : String
  isValid : Bool
  /-- Whether the tokenizer refused the text. -/
  usedFallback : Bool
  /-- The single statements of an aggregate. -/
  parts : List Statement

namespace Statement

/-- The description of a text without any statement. -/
def empty (text : String) : Statement where
  operation := "UNKNOWN"
  category := .unknown
  tables := .empty
  hasWhere := false
  hasLimit := false
  isMulti := false
  count := 0
  normalized := ""
  text := text
  isValid := false
  usedFallback := false
  parts := []

/-- The description of a single statement, from its verb and its clauses. A statement that
inspects the server is not credited with clauses. -/
def single (operation normalized : String) (tables : NameSet) (hasWhere hasLimit fallback : Bool) :
    Statement where
  operation := operation
  category := Category.ofOperation operation
  tables := tables
  hasWhere := hasWhere && Category.ofOperation operation != .metadata
  hasLimit := hasLimit && Category.ofOperation operation != .metadata
  isMulti := false
  count := 1
  normalized := normalized
  text := normalized
  isValid := operation != ""
  usedFallback := fallback
  parts := []

/-- The risk of a single statement, by its category, its verb and its clauses. -/
def ownRisk (s : Statement) : RiskLevel :=
  match s.category with
  | .metadata => .low
  | .definition =>
    if s.operation = "DROP" ∨ s.operation = "TRUNCATE" then .critical
    else if s.operation = "ALTER" ∨ s.operation = "RENAME" then .high
    else .medium
  | .manipulation =>
    if s.operation = "DELETE" ∨ s.operation = "UPDATE" then
      if s.hasWhere then .medium else .high
    else if s.operation = "SELECT" ∧ s.hasLimit then .low
    else .medium
  | .procedure | .unknown => .medium

mutual

/-- The risk of a text: that of its riskiest statement. -/
def risk : Statement → RiskLevel
  | s@(.mk _ _ _ _ _ isMulti _ _ _ _ _ parts) =>
    if isMulti then (highestRisk? parts).getD s.ownRisk else s.ownRisk

/-- The highest risk among statements, if there is any. -/
def highestRisk? : List Statement → Option RiskLevel
  | [] => none
  | s :: rest =>
    match highestRisk? rest with
    | none => some s.risk
    | some r => some (s.risk.max r)

end

mutual

/-- Whether every verb of a text is one that the gateway runs. -/
def isSupported : Statement → Bool
  | .mk operation category _ _ _ isMulti _ _ _ _ _ parts =>
    if isMulti then areSupported parts else isSupportedOperation operation category

/-- Whether every verb of several texts is one that the gateway runs. -/
def areSupported : List Statement → Bool
  | [] => true
  | s :: rest => s.isSupported && areSupported rest

end

/-- The verbs of the statements of a text, in order. -/
def operations (s : Statement) : List String :=
  if s.isMulti then s.parts.map operation else [s.operation]

/-- The first verb that is refused whatever the policy allows. -/
def hardBlocked? (s : Statement) : Option String :=
  s.operations.find? isHardBlocked

/-- Whether a text yields rows and not a count of affected rows. -/
def returnsRows (s : Statement) : Bool :=
  yieldsRows s.operation

/-- The tables in one line, for messages. -/
def tableList (s : Statement) : String :=
  if s.tables.names.isEmpty then "unknown" else String.intercalate "," s.tables.names

end Statement

end SqlGateway
