import SqlGateway.Error
import SqlGateway.Statement.Basic

/-!
# Decisions

The outcome of checking one text: whether it is allowed, every rule it breaks, and what it
would touch. `Decision.enforce` turns a refusal into an error. A text that breaks several
kinds of rules is refused for the gravest: a verb that is never run, then a text that is not
valid, then the databases it names, then the policy.
-/

namespace SqlGateway.Gate

/-- The check that a violation comes from. -/
inductive Rule where
  | empty
  | length
  | pattern
  | invalid
  | unsupported
  | scope
  | risk
  | hardBlock
  deriving DecidableEq, Repr

namespace Rule

/-- The name of a rule. -/
def label : Rule → String
  | empty => "empty"
  | length => "length"
  | pattern => "pattern"
  | invalid => "invalid"
  | unsupported => "unsupported"
  | scope => "scope"
  | risk => "risk"
  | hardBlock => "hard_block"

/-- All rules. -/
def all : List Rule := [empty, length, pattern, invalid, unsupported, scope, risk, hardBlock]

/-- The rule with a name. -/
def ofLabel? (name : String) : Option Rule :=
  all.find? fun r => r.label == name

/-- Whether breaking the rule means that the text is not valid. -/
def isValidation : Rule → Bool
  | empty | length | invalid | unsupported => true
  | _ => false

/-- Whether breaking the rule means that the policy forbids the text. -/
def isPolicy : Rule → Bool
  | pattern | risk => true
  | _ => false

end Rule

/-- A rule that a text breaks, and how. -/
structure Violation where
  rule : Rule
  message : String
  deriving DecidableEq, Repr

/-- A violation with its rule in brackets. -/
def Violation.tagged (v : Violation) : String :=
  "[" ++ v.rule.label ++ "] " ++ v.message

/-- A rough number of rows. -/
inductive RowEstimate where
  | bounded (rows : Nat)
  | unbounded
  deriving DecidableEq, Repr

namespace RowEstimate

/-- The largest estimate that is kept as a number. -/
def limit : Nat := UInt64.size - 1

/-- The estimate for a number of statements. -/
def times : RowEstimate → Nat → RowEstimate
  | bounded n, count => bounded (min (n * count) limit)
  | unbounded, _ => unbounded

end RowEstimate

/-- What a text would touch if it ran. -/
structure Impact where
  operation : String
  needsWhere : Bool
  hasWhere : Bool
  needsLimit : Bool
  hasLimit : Bool
  isMulti : Bool
  isDangerous : Bool
  rows : RowEstimate
  deriving DecidableEq, Repr

/-- The outcome of checking a text. -/
structure Decision where
  allowed : Bool
  /-- Absent when the text was refused before it could be classified. -/
  risk : Option RiskLevel
  violations : List Violation
  statement : Option Statement
  scopeViolations : List String
  impact : Option Impact
  warning : Option String

namespace Decision

/-- The refusal of a text before it is read. -/
def rejected (rule : Rule) (message : String) : Decision where
  allowed := false
  risk := none
  violations := [⟨rule, message⟩]
  statement := none
  scopeViolations := []
  impact := none
  warning := none

/-- What is wrong, one message for each violation. -/
def reasons (d : Decision) : List String :=
  d.violations.map (·.message)

/-- Whether a rule is broken. -/
def breaks (d : Decision) (rule : Rule) : Bool :=
  d.violations.any fun v => v.rule == rule

/-- The violations of some rules, each with its rule. -/
def messagesFor (d : Decision) (p : Rule → Bool) : List String :=
  (d.violations.filter fun v => p v.rule).map Violation.tagged

/-- The error for a refusal. -/
def denial (d : Decision) : GatewayError :=
  match d.violations.find? fun v => v.rule == .hardBlock with
  | some v => .hardBlock ((d.statement.bind (·.hardBlocked?)).getD v.message)
  | none =>
    let validation := d.messagesFor Rule.isValidation
    let policy := d.messagesFor Rule.isPolicy
    if !validation.isEmpty then .validation (String.intercalate "; " validation)
    else if !d.scopeViolations.isEmpty then .scope d.scopeViolations
    else if policy.isEmpty then .policy "statement denied"
    else .policy (String.intercalate "; " policy)

/-- The decision if it allows the text, else the error for it. -/
def enforce (d : Decision) : Except GatewayError Decision :=
  if d.allowed then .ok d else .error d.denial

end Decision

end SqlGateway.Gate
