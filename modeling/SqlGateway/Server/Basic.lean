import SqlGateway.Policy.Basic
import SqlGateway.Query.Result
import SqlGateway.Error

/-!
# Servers

What the gateway asks of a database server: to open and close pools of connections, to hand
out a connection of a pool, and to run statements on it. A server is a value that answers
each question from a state and moves the state on, so that every behaviour of a server is
one, and a statement about all servers is a statement about all runs. The questions asked
and the answers given are kept as a list of calls, the latest last.
-/

namespace SqlGateway

/-- The statements that begin and end a transaction. -/
inductive Control where
  | start
  | commit
  | rollback
  deriving DecidableEq, Repr

/-- The text that the server gets. -/
def Control.text : Control → String
  | start => "START TRANSACTION"
  | commit => "COMMIT"
  | rollback => "ROLLBACK"

/-- A server with states of type `σ`. A pool is known by the number that opening it gave. -/
structure Server (σ : Type) where
  /-- Opens a pool and gives its number. -/
  openPool : ConnectParams → σ → Except GatewayError Nat × σ
  closePool : Nat → σ → σ
  /-- Takes a connection from a pool; no answer if none comes free in the time given. -/
  acquire : Nat → Duration → σ → Option (Except GatewayError Unit) × σ
  /-- Runs a statement that returns rows. -/
  fetch : Nat → String → List Value → σ → Except GatewayError QueryResult × σ
  /-- Runs a statement that changes rows and gives their number. -/
  execute : Nat → String → List Value → σ → Except GatewayError Nat × σ
  /-- Begins or ends a transaction. -/
  control : Nat → Control → σ → Except GatewayError Unit × σ

/-- A pool that is open: its number and the parameters it was opened with. -/
structure Handle where
  number : Nat
  params : ConnectParams
  deriving DecidableEq, Repr

/-- A question to a server and its answer. -/
inductive Call where
  | openPool (params : ConnectParams) (answer : Except GatewayError Nat)
  | closePool (pool : Handle)
  | acquire (pool : Handle) (answer : Option (Except GatewayError Unit))
  | fetch (pool : Handle) (sql : String) (values : List Value)
      (answer : Except GatewayError QueryResult)
  | execute (pool : Handle) (sql : String) (values : List Value)
      (answer : Except GatewayError Nat)
  | control (pool : Handle) (statement : Control) (answer : Except GatewayError Unit)

namespace Call

/-- The pool that a call opened. -/
def opened? : Call → Option Handle
  | openPool params (.ok number) => some ⟨number, params⟩
  | _ => none

/-- The pool that a call closed. -/
def closed? : Call → Option Handle
  | closePool pool => some pool
  | _ => none

/-- The plugin that a call asked to open a pool with. -/
def attempt? : Call → Option (Option AuthPlugin)
  | openPool params _ => some params.authPlugin
  | _ => none

/-- The parameters that a call asked to open a pool with. -/
def params? : Call → Option ConnectParams
  | openPool params _ => some params
  | _ => none

/-- Whether a call handed out a connection. -/
def isAcquisition : Call → Bool
  | acquire _ (some (.ok _)) => true
  | _ => false

/-- The text that a call sent. -/
def text? : Call → Option String
  | fetch _ sql _ _ => some sql
  | execute _ sql _ _ => some sql
  | control _ statement _ => some statement.text
  | _ => none

end Call

end SqlGateway
