import SqlGateway.Json.Printer
import SqlGateway.Json.Record
import SqlGateway.Statement.Basic

/-!
# Statements as Structured Data

The fields of a description in the order they are written, and their reading. The parts are
written only when there are any.
-/

namespace SqlGateway.Statement

mutual

/-- A description as an object. -/
def toJson : Statement → Json
  | .mk operation category tables hasWhere hasLimit isMulti count normalized text isValid
      usedFallback parts =>
    let fields : List (String × Json) := [
      ("operation", .string operation),
      ("category", .string category.label),
      ("tables", Json.ofStrings tables.names),
      ("has_where", .bool hasWhere),
      ("has_limit", .bool hasLimit),
      ("is_multi_statement", .bool isMulti),
      ("statement_count", Json.ofNat count),
      ("normalized", .string normalized),
      ("original", .string text),
      ("is_valid", .bool isValid),
      ("used_fallback", .bool usedFallback)]
    match partsToJson parts with
    | [] => .object fields
    | items => .object (fields ++ [("sub_statements", .array items)])

/-- Descriptions as a list of objects. -/
def partsToJson : List Statement → List Json
  | [] => []
  | s :: rest => toJson s :: partsToJson rest

end

/-- The names of the fields in order. -/
def fieldNames : List String :=
  ["operation", "category", "tables", "has_where", "has_limit", "is_multi_statement",
    "statement_count", "normalized", "original", "is_valid", "used_fallback", "sub_statements"]

mutual

/-- Reads a description. Every field but the parts has to be there. The first argument
bounds the nesting. -/
def ofJson? : Nat → Json → Option Statement
  | 0, _ => none
  | depth + 1, value => do
    let r ← Json.record? fieldNames value
    return {
      operation := ← Json.asString? (← r "operation")
      category := ← (Json.variant? (← r "category")).bind Category.ofLabel?
      tables := .ofList (← Json.asStrings? (← r "tables"))
      hasWhere := ← Json.asBool? (← r "has_where")
      hasLimit := ← Json.asBool? (← r "has_limit")
      isMulti := ← Json.asBool? (← r "is_multi_statement")
      count := ← Json.asNatBelow? UInt64.size (← r "statement_count")
      normalized := ← Json.asString? (← r "normalized")
      text := ← Json.asString? (← r "original")
      isValid := ← Json.asBool? (← r "is_valid")
      usedFallback := ← Json.asBool? (← r "used_fallback")
      parts := ← match r "sub_statements" with
        | none => some []
        | some (.array items) => itemsOfJson? depth items
        | some _ => none }

/-- Reads a list of descriptions. -/
def itemsOfJson? : Nat → List Json → Option (List Statement)
  | _, [] => some []
  | depth, item :: items => do
    return (← ofJson? depth item) :: (← itemsOfJson? depth items)

end

end SqlGateway.Statement
