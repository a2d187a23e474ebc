import SqlGateway.Text.Blank

/-!
# Categories of Statements

The verb of a statement decides its category, whether it is refused whatever the policy
says, and whether it yields rows. A verb can be compound (`SHOW TABLES`); its first word
counts.
-/

namespace SqlGateway

/-- What kind of work a statement does. -/
inductive Category where
  /-- Changes schema objects. -/
  | definition
  /-- Reads or writes rows. -/
  | manipulation
  /-- Inspects the server or the session. -/
  | metadata
  /-- Calls a stored routine. -/
  | procedure
  | unknown
  deriving DecidableEq, Repr

namespace Category

/-- The name of a category. -/
def label : Category → String
  | definition => "DDL"
  | manipulation => "DML"
  | metadata => "METADATA"
  | procedure => "PROCEDURE"
  | unknown => "UNKNOWN"

/-- The category with a name. -/
def ofLabel? : String → Option Category
  | "DDL" => some definition
  | "DML" => some manipulation
  | "METADATA" => some metadata
  | "PROCEDURE" => some procedure
  | "UNKNOWN" => some unknown
  | _ => none

/-- The category of a verb. -/
def ofVerb (verb : String) : Category :=
  if ["CREATE", "ALTER", "DROP", "TRUNCATE", "RENAME"].contains verb then definition
  else if ["SELECT", "INSERT", "UPDATE", "DELETE", "MERGE"].contains verb then manipulation
  else if ["SHOW", "DESC", "DESCRIBE", "EXPLAIN", "HELP", "ANALYZE", "CHECK", "CHECKSUM",
      "OPTIMIZE", "SET", "USE", "BEGIN", "COMMIT", "ROLLBACK", "START", "KILL"].contains verb then
    metadata
  else if ["CALL", "EXECUTE", "EXEC"].contains verb then procedure
  else unknown

/-- The category of an operation, which its first word decides. -/
def ofOperation (operation : String) : Category :=
  ofVerb (Text.firstWord operation)

end Category

/-- The verbs that are refused whatever the policy allows. -/
def hardBlockedVerbs : List String :=
  ["DROP", "TRUNCATE", "ALTER", "RENAME", "LOCK", "DELETE", "UPDATE"]

/-- Whether an operation is refused whatever the policy allows. -/
def isHardBlocked (operation : String) : Bool :=
  hardBlockedVerbs.contains (Text.firstWord operation)

/-- Whether an operation yields rows and not a count of affected rows. -/
def yieldsRows (operation : String) : Bool :=
  ["SELECT", "SHOW", "DESC", "DESCRIBE", "EXPLAIN", "HELP", "ANALYZE", "CHECK", "CHECKSUM",
    "OPTIMIZE"].contains (Text.firstWord operation)

/-- Whether an operation in a category is one that the gateway runs at all. -/
def isSupportedOperation (operation : String) (category : Category) : Bool :=
  (Text.dropStart? "SHOW ".toList operation.toList).isSome ||
    category == .definition || category == .manipulation || category == .metadata

end SqlGateway
