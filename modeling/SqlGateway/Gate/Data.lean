import SqlGateway.Gate.Check
import SqlGateway.Statement.Data

/-!
# Decisions and Reports as Structured Data

The fields of decisions and reports in the order they are written, and the reading of a
decision.
-/

namespace SqlGateway.Gate

namespace Violation

/-- A violation as an object. -/
def toJson (v : Violation) : Json :=
  .object [("rule", .string v.rule.label), ("message", .string v.message)]

/-- Reads a violation. -/
def ofJson? (value : Json) : Option Violation := do
  let r ← Json.record? ["rule", "message"] value
  return {
    rule := ← (Json.variant? (← r "rule")).bind Rule.ofLabel?
    message := ← Json.asString? (← r "message") }

end Violation

namespace RowEstimate

/-- An estimate as a value. -/
def toJson : RowEstimate → Json
  | bounded n => .object [("bounded", Json.ofNat n)]
  | unbounded => .string "unbounded"

/-- Reads an estimate. -/
def ofJson? : Json → Option RowEstimate
  | .object [("bounded", n)] => (Json.asNatBelow? UInt64.size n).map bounded
  | value => if Json.variant? value = some "unbounded" then some unbounded else none

end RowEstimate

namespace Impact

/-- An impact as an object. -/
def toJson (i : Impact) : Json :=
  .object [
    ("operation", .string i.operation),
    ("needs_where", .bool i.needsWhere),
    ("has_where", .bool i.hasWhere),
    ("needs_limit", .bool i.needsLimit),
    ("has_limit", .bool i.hasLimit),
    ("is_multi_statement", .bool i.isMulti),
    ("is_dangerous", .bool i.isDangerous),
    ("estimated_rows", i.rows.toJson)]

/-- Reads an impact. -/
def ofJson? (value : Json) : Option Impact := do
  let r ← Json.record?
    ["operation", "needs_where", "has_where", "needs_limit", "has_limit", "is_multi_statement",
      "is_dangerous", "estimated_rows"] value
  return {
    operation := ← Json.asString? (← r "operation")
    needsWhere := ← Json.asBool? (← r "needs_where")
    hasWhere := ← Json.asBool? (← r "has_where")
    needsLimit := ← Json.asBool? (← r "needs_limit")
    hasLimit := ← Json.asBool? (← r "has_limit")
    isMulti := ← Json.asBool? (← r "is_multi_statement")
    isDangerous := ← Json.asBool? (← r "is_dangerous")
    rows := ← RowEstimate.ofJson? (← r "estimated_rows") }

end Impact

namespace Decision

/-- A decision as an object. -/
def toJson (d : Decision) : Json :=
  .object [
    ("allowed", .bool d.allowed),
    ("risk_level", Json.ofString? (d.risk.map RiskLevel.label)),
    ("violations", .array (d.violations.map Violation.toJson)),
    ("statement", Json.ofOption Statement.toJson d.statement),
    ("scope_violations", Json.ofStrings d.scopeViolations),
    ("impact", Json.ofOption Impact.toJson d.impact),
    ("warning", Json.ofString? d.warning)]

/-- Reads a decision. The first argument bounds the nesting of its statement. -/
def ofJson? (depth : Nat) (value : Json) : Option Decision := do
  let r ← Json.record?
    ["allowed", "risk_level", "violations", "statement", "scope_violations", "impact",
      "warning"] value
  let risk? (v : Json) : Option RiskLevel := (Json.variant? v).bind RiskLevel.ofLabel?
  return {
    allowed := ← Json.asBool? (← r "allowed")
    risk := ← Json.asOptional? risk? (r "risk_level")
    violations := ← (← Json.asList? (← r "violations")).mapM Violation.ofJson?
    statement := ← Json.asOptional? (Statement.ofJson? depth) (r "statement")
    scopeViolations := ← Json.asStrings? (← r "scope_violations")
    impact := ← Json.asOptional? Impact.ofJson? (r "impact")
    warning := ← Json.asOptional? Json.asString? (r "warning") }

end Decision

/-- The policy of a report as an object: the part that matters for decisions. -/
def policyToJson (p : Policy) : Json :=
  .object [
    ("env_type", .string p.environment.label),
    ("database", .string p.database),
    ("allowed_risk_levels", Json.ofStrings p.allowedRisks.labels),
    ("enable_query_check", .bool p.queryCheck),
    ("enable_database_isolation", .bool p.isolation),
    ("access_level", .string p.accessLevel.label),
    ("max_sql_length", Json.ofNat p.maxLength),
    ("blocked_patterns", Json.ofStrings p.blockedPatterns)]

/-- The databases of a report as an object. -/
def accessToJson (a : Scope.AccessReport) : Json :=
  .object [
    ("isolation_enabled", .bool a.isolation),
    ("primary_database", .string a.primary),
    ("access_level", .string a.accessLevel.label),
    ("allowed_databases", Json.ofStrings a.allowed),
    ("referenced_databases", Json.ofStrings a.referenced.names),
    ("is_cross_database", .bool a.crossDatabase),
    ("violations", Json.ofStrings a.violations)]

/-- A report as an object. -/
def Report.toJson (r : Report) : Json :=
  .object [
    ("decision", r.decision.toJson),
    ("policy", policyToJson r.policy),
    ("access", accessToJson r.access)]

end SqlGateway.Gate
