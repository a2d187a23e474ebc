import SqlGateway.Policy.Live
import SqlGateway.Server.Basic
import SqlGateway.Log

/-!
# Sessions

A session is one caller of the gateway: a policy and the pool that is opened from it. The
pool opens when it is first needed, is opened anew when the settings it was opened with
change, and after a failure stays closed until it is asked to reconnect:

* `uninitialized` and `closed` open on demand;
* `active` has a pool, and only this state has one;
* `error` follows a failure to open;
* `reconnecting` is passed through while a pool is opened on request.

A run is a session together with the server's state and what has happened so far: the calls
to the server and the events reported, the latest last.
-/

namespace SqlGateway

/-- The state of a session's pool. -/
inductive PoolState where
  | uninitialized
  | active
  | error
  | reconnecting
  | closed
  deriving DecidableEq, Repr

namespace PoolState

/-- The name of a state. -/
def label : PoolState → String
  | uninitialized => "uninitialized"
  | active => "active"
  | error => "error"
  | reconnecting => "reconnecting"
  | closed => "closed"

/-- All states. -/
def all : List PoolState := [uninitialized, active, error, reconnecting, closed]

/-- The state with a name. -/
def ofLabel? (name : String) : Option PoolState :=
  all.find? fun s => s.label == name

/-- The name of a state in diagnostics. -/
def debugLabel : PoolState → String
  | uninitialized => "Uninitialized"
  | active => "Active"
  | error => "Error"
  | reconnecting => "Reconnecting"
  | closed => "Closed"

/-- Whether a pool in this state opens on demand. -/
def opensOnDemand : PoolState → Bool
  | uninitialized | closed => true
  | _ => false

end PoolState

/-- A session's pool, open or not. -/
structure Slot where
  handle : Option Handle
  state : PoolState
  /-- The fingerprint of the settings that the open pool was opened with. -/
  fingerprint : Option String
  /-- The generation of the policy at which the fingerprint was last compared. -/
  generation : Nat
  /-- The plugin of the last pool that could be opened; absent before the first. -/
  plugin : Option (Option AuthPlugin)
  /-- How many openings have failed since the last that did not. -/
  failures : Nat
  lastError : Option String
  deriving DecidableEq, Repr

/-- A pool that was never opened. -/
def Slot.initial : Slot where
  handle := none
  state := .uninitialized
  fingerprint := none
  generation := 0
  plugin := none
  failures := 0
  lastError := none

/-- One caller: a policy and the pool opened from it. -/
structure Session where
  id : String
  live : LivePolicy
  slot : Slot
  deriving DecidableEq, Repr

/-- The state of a pool as it is reported. -/
structure Health where
  state : PoolState
  /-- The plugin of the last pool that could be opened, or the configured one. -/
  plugin : Option AuthPlugin
  /-- Whether a pool could be opened at any time. -/
  everConnected : Bool
  failures : Nat
  lastError : Option String
  deriving DecidableEq, Repr

namespace Session

/-- A session that has done nothing. -/
def new (id : String) (p : Policy) : Session := ⟨id, .ofPolicy p, .initial⟩

/-- The state of the session's pool as it is reported. -/
def health (s : Session) : Health where
  state := s.slot.state
  plugin := s.slot.plugin.getD s.live.policy.authPlugin
  everConnected := s.slot.plugin.isSome
  failures := s.slot.failures
  lastError := s.slot.lastError

end Session

/-- What lies outside a session: the server's state and what has happened so far. -/
structure Link (σ : Type) where
  server : σ
  calls : List Call
  events : List Log.Event

/-- A session in contact with a server. -/
structure Run (σ : Type) extends Session, Link σ

namespace Run

variable {σ α β : Type}

/-- What an operation leaves: its result and the run after it. -/
abbrev Outcome (σ α : Type) := Except GatewayError α × Run σ

/-- Goes on after a success; a failure is the result of the whole. -/
def andThen (x : Outcome σ α) (f : α → Run σ → Outcome σ β) : Outcome σ β :=
  match x with
  | (.ok a, r) => f a r
  | (.error e, r) => (.error e, r)

/-- Reports an event. -/
def report (r : Run σ) (level : Log.Level) (component message : String)
    (fields : List Log.Field) : Run σ :=
  { r with events := r.events ++ [⟨level, component, message, fields⟩] }

/-! ### Calls -/

variable (s : Server σ)

/-- Asks the server to open a pool. -/
def callOpen (params : ConnectParams) (r : Run σ) : Outcome σ Handle :=
  let (answer, server) := s.openPool params r.server
  (answer.map (⟨·, params⟩), { r with server, calls := r.calls ++ [.openPool params answer] })

/-- Asks the server to close a pool. -/
def callClose (h : Handle) (r : Run σ) : Run σ :=
  { r with server := s.closePool h.number r.server, calls := r.calls ++ [.closePool h] }

/-- Asks the server for a connection. -/
def callAcquire (h : Handle) (timeout : Duration) (r : Run σ) :
    Option (Except GatewayError Unit) × Run σ :=
  let (answer, server) := s.acquire h.number timeout r.server
  (answer, { r with server, calls := r.calls ++ [.acquire h answer] })

/-- Asks the server to run a statement that returns rows. -/
def callFetch (h : Handle) (sql : String) (values : List Value) (r : Run σ) :
    Outcome σ QueryResult :=
  let (answer, server) := s.fetch h.number sql values r.server
  (answer, { r with server, calls := r.calls ++ [.fetch h sql values answer] })

/-- Asks the server to run a statement that changes rows. -/
def callExecute (h : Handle) (sql : String) (values : List Value) (r : Run σ) :
    Outcome σ Nat :=
  let (answer, server) := s.execute h.number sql values r.server
  (answer, { r with server, calls := r.calls ++ [.execute h sql values answer] })

/-- Asks the server to begin or end a transaction. -/
def callControl (h : Handle) (c : Control) (r : Run σ) : Outcome σ Unit :=
  let (answer, server) := s.control h.number c r.server
  (answer, { r with server, calls := r.calls ++ [.control h c answer] })

end Run

end SqlGateway
