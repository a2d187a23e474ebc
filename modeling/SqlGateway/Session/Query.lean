import SqlGateway.Session.Pool
import SqlGateway.Gate.Check
import SqlGateway.Query.Placeholder
import SqlGateway.Query.Redaction
import SqlGateway.Query.Shape
import SqlGateway.Sql.Comment

/-!
# Running Statements

Every statement passes the gate before a connection is taken, so one that is refused never
reaches the server. A statement alone runs and, if it changes rows, is committed; several
statements run in a transaction, which is begun only if all of them pass, and is rolled back
at the first that fails. Text that is reported is cut short and has its passwords removed.
-/

namespace SqlGateway

/-- The longest text that is reported, in characters. -/
def reportedLength : Nat := 150

/-- A missing privilege with the statement that needs it filled in; the server does not name
it. -/
def GatewayError.withStatement (stmt : Statement) : GatewayError → GatewayError
  | .permission _ _ message => .permission stmt.operation stmt.tableList message
  | e => e

/-- The record of a statement that changed rows. -/
def changeRecord (stmt : Statement) (affected : Nat) : Record :=
  .ofList [("operation", .string stmt.operation), ("affected_rows", .ofNat affected)]

/-- The server's version, or why it is not known, and the state of the pool. -/
structure DatabaseInfo where
  version : Option String
  error : Option String
  health : Health

namespace Run

variable {σ : Type}

/-- Reports an event of the running of statements. -/
def reportQuery (r : Run σ) (level : Log.Level) (message : String) (fields : List Log.Field) :
    Run σ :=
  r.report level "mysql_gate::query::executor" message fields

/-- The gate's decision on a text. -/
def check (sql : String) (r : Run σ) : Gate.Decision × Run σ :=
  (Gate.check sql r.live.policy,
    { r with events := r.events ++ Gate.checkEvents sql r.live.policy })

/-- What the gate knows about a text. -/
def securityReport (sql : String) (r : Run σ) : Gate.Report × Run σ :=
  (Gate.report sql r.live.policy,
    { r with events := r.events ++ Gate.checkEvents sql r.live.policy })

/-- Whether a text is a single statement that the policy allows. -/
def admission (sql : String) (p : Policy) : Except GatewayError Statement := do
  let decision ← Gate.enforce sql p
  let stmt := decision.statement.getD (Statement.parse sql)
  if stmt.isMulti || Sql.hasSeparator sql.toList then
    throw (.validation (Decimal.digitsText (max stmt.count 2) ++
      " statements in one call; use a transaction to run several statements"))
  return stmt

/-- Lets a single statement pass the gate. -/
def permit (sql : String) (r : Run σ) : Outcome σ Statement :=
  (admission sql r.live.policy,
    { r with events := r.events ++ Gate.checkEvents sql r.live.policy })

/-- Lets statements pass the gate, one after another up to the first that does not. -/
def permitAll : List String → Run σ → Outcome σ (List (String × Statement))
  | [], r => (.ok [], r)
  | sql :: rest, r =>
    andThen (r.permit sql) fun stmt r =>
      andThen (permitAll rest r) fun more r => (.ok ((sql, stmt) :: more), r)

/-- Reports how a statement went. -/
def reportOutcome (sql : String) (error : Option GatewayError) (r : Run σ) : Run σ :=
  let text := Query.truncate reportedLength (Query.redact sql r.live.policy.password)
  match error with
  | some e =>
    r.reportQuery .warn "Query failed" [.shown "sql" text, .shown "error" e.message]
  | none => r.reportQuery .debug "Query executed" [.shown "sql" text]

/-- The error of a result. -/
def errorOf {α : Type} : Except GatewayError α → Option GatewayError
  | .ok _ => none
  | .error e => some e

variable (s : Server σ)

/-- Runs a statement that returns rows. -/
def fetchRecords (h : Handle) (stmt : Statement) (sql : String) (values : List Value)
    (r : Run σ) : Outcome σ (List Record) :=
  andThen (r.callFetch s h sql values) fun result r => (.ok (result.shape stmt).records, r)

/-! ### Single statements -/

/-- Runs a statement; one that changes rows is committed. -/
def runStatement (h : Handle) (stmt : Statement) (sql : String) (values : List Value)
    (r : Run σ) : Outcome σ (List Record) :=
  if stmt.returnsRows then r.fetchRecords s h stmt sql values
  else
    andThen (r.callExecute s h sql values) fun affected r =>
      andThen (r.callControl s h .commit) fun _ r =>
        (.ok [changeRecord stmt affected],
          r.reportQuery .debug "Statement committed"
            [.shown "operation" stmt.operation,
              .shown "affected" (Decimal.digitsText affected)])

/-- Lets one statement pass the gate and runs it. -/
def query (sql : String) (params : Query.Params) (r : Run σ) : Outcome σ (List Record) :=
  match Query.bind params sql with
  | .error e => (.error e.toGateway, r)
  | .ok bound =>
    andThen (r.permit bound.sql) fun stmt r =>
      andThen (r.connect s) fun h r =>
        let (result, r) := r.runStatement s h stmt bound.sql bound.values
        (result.mapError (·.withStatement stmt), r.reportOutcome bound.sql (errorOf result))

/-! ### Transactions -/

/-- Runs one statement of a transaction. -/
def runStep (h : Handle) (stmt : Statement) (sql : String) (r : Run σ) :
    Outcome σ (List Record) :=
  let (result, r) :=
    if stmt.returnsRows then r.fetchRecords s h stmt sql []
    else
      andThen (r.callExecute s h sql []) fun affected r =>
        (.ok [changeRecord stmt affected], r)
  (result, r.reportOutcome sql (errorOf result))

/-- Rolls a transaction back after an error. -/
def rollBack (h : Handle) (e : GatewayError) (r : Run σ) : Run σ :=
  let (answer, r) := r.callControl s h .rollback
  let r := match answer with
    | .ok _ => r
    | .error e => r.reportQuery .error "Rollback failed" [.shown "error" e.message]
  r.reportQuery .warn "Transaction rolled back" [.shown "error" e.message]

/-- Runs the statements of a transaction; the first that fails rolls it back. -/
def runSteps (h : Handle) : List (String × Statement) → Run σ → Outcome σ (List (List Record))
  | [], r => (.ok [], r)
  | (sql, stmt) :: rest, r =>
    match r.runStep s h stmt sql with
    | (.ok records, r) =>
      andThen (runSteps h rest r) fun more r => (.ok (records :: more), r)
    | (.error e, r) => (.error (e.withStatement stmt), r.rollBack s h e)

/-- Lets statements pass the gate and runs them in one transaction. -/
def transaction (statements : List String) (r : Run σ) : Outcome σ (List (List Record)) :=
  if statements.isEmpty then (.error (.validation "transaction has no statements"), r)
  else
    andThen (r.permitAll statements) fun admitted r =>
      andThen (r.connect s) fun h r =>
        andThen (r.callControl s h .start) fun _ r =>
          andThen (r.runSteps s h admitted) fun results r =>
            andThen (r.callControl s h .commit) fun _ r =>
              (.ok results, r.reportQuery .info "Transaction committed"
                [.shown "statements" (Decimal.digitsText statements.length)])

/-! ### Questions about the database -/

/-- The name of the session's database at the server, if one is selected. -/
def currentDatabase (r : Run σ) : Outcome σ (Option String) :=
  andThen (r.query s "SELECT DATABASE() AS db LIMIT 1" .none) fun rows r =>
    (.ok (rows.head?.bind fun row => (row.get? "db").bind Value.asString?), r)

/-- The server's version and the state of the pool, which is told also if the version is not
known. -/
def databaseInfo (r : Run σ) : DatabaseInfo × Run σ :=
  match r.query s "SELECT VERSION() AS version LIMIT 1" .none with
  | (.ok rows, r) =>
    (⟨rows.head?.bind fun row => (row.get? "version").map Value.display, none, r.health⟩, r)
  | (.error e, r) => (⟨none, some e.message, r.health⟩, r)

end Run

end SqlGateway
