import SqlGateway.Gate.Decision
import SqlGateway.Scope.Guard
import SqlGateway.Statement.Parse

/-!
# The Gate

Checks a text against a policy. An empty text and one that is too long are refused at once,
since nothing more can be said of them; otherwise every check is made and every violation
collected: blocked patterns, a text that cannot be read or has an unsupported verb, the
databases it names, its risk, and the verbs that are never run.
-/

namespace SqlGateway.Gate

open Text

/-! ### Blocked patterns -/

/-- What follows the words of a pattern with any blanks between them, and the last character
of the last word. -/
def dropPattern? : List (List Char) → List Char → Option (Option Char × List Char)
  | [], cs => some (none, cs)
  | [word], cs => (dropStart? word cs).map fun rest => (word.getLast?, rest)
  | word :: words, cs => do
    dropPattern? words (← dropBlanks? (← dropStart? word cs))

/-- A pattern, by its words, between word boundaries. -/
def patternAt? (words : List (List Char)) : Recogniser Unit := fun before cs =>
  if isWordBoundary before cs then
    match dropPattern? words cs with
    | some (last, rest) => if isWordBoundary last rest then some ((), rest) else none
    | none => none
  else none

/-- Whether a pattern occurs in a text in upper case. -/
def hasPattern (pattern : String) (text : List Char) : Bool :=
  isFound (patternAt? (words pattern.toList)) text

/-- The patterns that occur in a text, or in its normal form, in any letter case. -/
def blockedPatternsIn (sql normalized : String) (patterns : List String) : List String :=
  let raw := upper sql.toList
  let normal := upper normalized.toList
  patterns.filter fun p => hasPattern p raw || hasPattern p normal

/-! ### Impact -/

/-- What a statement of some risk would touch. Where nothing limits a statement, production
expects the worst. -/
def estimateImpact (s : Statement) (risk : RiskLevel) (environment : Environment) : Impact :=
  let production := environment == .production
  let unlimited (n : Nat) : RowEstimate := if production then .unbounded else .bounded n
  let changes := s.operation == "UPDATE" || s.operation == "DELETE"
  let each : RowEstimate :=
    if s.category == .definition then unlimited 1000
    else if changes then
      if s.hasWhere then .bounded (if production then 1000 else 100) else unlimited 10000
    else if s.operation == "INSERT" then .bounded 1
    else if s.operation == "SELECT" then
      if s.hasLimit then .bounded 100 else unlimited 1000
    else .bounded 0
  { operation := s.operation
    needsWhere := changes
    hasWhere := s.hasWhere
    needsLimit := s.operation == "SELECT"
    hasLimit := s.hasLimit
    isMulti := s.isMulti
    isDangerous := risk.isDangerous
    rows := each.times (max s.count 1) }

/-! ### The checks -/

/-- The violations by blocked patterns. -/
def patternViolations (sql : String) (s : Statement) (policy : Policy) : List Violation :=
  if policy.queryCheck then
    (blockedPatternsIn sql s.normalized policy.blockedPatterns).map fun p =>
      ⟨.pattern, "blocked pattern '" ++ p ++ "' found"⟩
  else []

/-- The verbs of a text that the gateway does not run. -/
def unsupportedOperations (s : Statement) : List String :=
  s.operations.filter fun op => !isSupportedOperation op (Category.ofOperation op)

/-- The violation by a text that cannot be read, or whose verbs the gateway does not run. -/
def validityViolations (s : Statement) : List Violation :=
  if !s.isValid then
    [⟨.invalid, "statement could not be parsed into a recognizable operation"⟩]
  else if !s.isSupported then
    [⟨.unsupported,
      "operation " ++ String.intercalate ", " (unsupportedOperations s) ++ " is not supported"⟩]
  else []

/-- The violation by a risk that the policy does not allow. -/
def riskViolations (risk : RiskLevel) (policy : Policy) : List Violation :=
  if policy.queryCheck then
    (policy.allowedRisks.refusal? risk).toList.map fun reason => ⟨.risk, reason⟩
  else []

/-- The violation by a verb that is never run. -/
def hardBlockViolations (s : Statement) : List Violation :=
  s.hardBlocked?.toList.map fun op =>
    ⟨.hardBlock, "operation " ++ op ++ " is blocked unconditionally"⟩

/-- All violations of a text that is neither empty nor too long. -/
def violationsOf (sql : String) (s : Statement) (policy : Policy) : List Violation :=
  patternViolations sql s policy ++ validityViolations s ++
    (Scope.check sql policy).map (fun m => ⟨.scope, m⟩) ++
    riskViolations s.risk policy ++ hardBlockViolations s

/-- The decision on a text that is neither empty nor too long. -/
def judge (sql : String) (policy : Policy) : Decision :=
  let s := Statement.parse sql
  let risk := s.risk
  let violations := violationsOf sql s policy
  { allowed := violations.isEmpty
    risk := some risk
    violations := violations
    statement := some s
    scopeViolations := Scope.check sql policy
    impact := if s.isValid then some (estimateImpact s risk policy.environment) else none
    warning :=
      if risk.isDangerous then
        some (s.operation ++ " is classified as " ++ risk.label ++
          " and may modify or destroy data")
      else none }

/-- The refusal of a text that is not read at all, if it is empty or too long. -/
def rejection? (sql : String) (policy : Policy) : Option Decision :=
  let length := sql.toList.length
  if (trim sql.toList).isEmpty then some (.rejected .empty "SQL query must not be empty")
  else if policy.maxLength < length then
    some (.rejected .length ("SQL length " ++ Decimal.digitsText length ++
      " exceeds the maximum of " ++ Decimal.digitsText policy.maxLength ++ " characters"))
  else none

/-- Checks a text against a policy. -/
def check (sql : String) (policy : Policy) : Decision :=
  (rejection? sql policy).getD (judge sql policy)

/-- Checks a text against a policy; a refusal is an error. -/
def enforce (sql : String) (policy : Policy) : Except GatewayError Decision :=
  (check sql policy).enforce

/-! ### What is reported -/

/-- The first characters of a text. -/
def preview (n : Nat) (sql : String) : String :=
  String.ofList (sql.toList.take n)

/-- What is reported of a decision on a text. -/
def decisionEvent (d : Decision) (sql : String) : Log.Event :=
  let sqlField := Log.Field.shown "sql" (preview 100 sql)
  let reasons := Log.Field.shown "reasons" (String.intercalate "; " d.reasons)
  let component := "mysql_gate::safety::gate"
  if d.breaks .hardBlock then
    ⟨.error, component, "hard-blocked statement", [sqlField, reasons]⟩
  else if !d.allowed then ⟨.warn, component, "statement denied", [sqlField, reasons]⟩
  else
    let risk := match d.risk with
      | some r => "Some(" ++ r.debugLabel ++ ")"
      | none => "None"
    ⟨.debug, component, "statement allowed", [sqlField, Log.Field.shown "risk" risk]⟩

/-- What is reported while a text is checked. -/
def checkEvents (sql : String) (policy : Policy) : List Log.Event :=
  let reading := if (rejection? sql policy).isSome then [] else Statement.parseEvents sql
  reading ++ [decisionEvent (check sql policy) sql]

/-- Everything the gate knows about a text. -/
structure Report where
  decision : Decision
  policy : Policy
  access : Scope.AccessReport

/-- Reports on a text. -/
def report (sql : String) (policy : Policy) : Report :=
  ⟨check sql policy, policy, Scope.report sql policy⟩

end SqlGateway.Gate
