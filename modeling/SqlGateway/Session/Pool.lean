import SqlGateway.Session.Basic
import SqlGateway.Text.Case

/-!
# Opening and Closing Pools

Opening a pool has three parts, so that what happens to the policy meanwhile can be said:
`startOpening` closes the old pool and takes the parameters, `seekPool` asks the server, and
`finishOpening` puts the new pool in place or notes the failure. When the server rejects an
authentication plugin, the others are tried in `AuthPlugin.fallbackOrder`.

A connection is taken from the open pool with `connect`, which opens a pool first if there
never was one or the last was closed, and opens another if the policy's connection settings
are no longer those of the open pool. A failure to open is not repaired this way; that takes
`reconnect`.
-/

namespace SqlGateway

/-- How many plugins are tried after the first was rejected. -/
def maxAuthRetries : Nat := 3

/-- What an operator may do about a failure to open a pool. -/
def connectionHint? (message : String) : Option String :=
  let text := (Text.lowerString message).toList
  let mentions (words : String) : Bool := Text.occursIn words.toList text
  if mentions "plugin" then some "set MYSQL_DB_AUTH_PLUGIN to a plugin the server supports"
  else if mentions "access denied" then
    some "check MYSQL_USER, MYSQL_PASSWORD and the account's host grants"
  else if mentions "unknown database" || mentions "does not exist" then some "check MYSQL_DATABASE"
  else if mentions "refused" || mentions "cannot connect" then
    some "check MYSQL_HOST and MYSQL_PORT, and that the server is running"
  else none

/-- What the opening of a pool starts from: the parameters, and the generation of the policy
they were taken from. -/
structure Opening where
  generation : Nat
  params : ConnectParams
  deriving DecidableEq, Repr

namespace Run

variable {σ : Type}

/-- Reports an event of the pool. -/
def reportPool (r : Run σ) (level : Log.Level) (message : String) (fields : List Log.Field) :
    Run σ :=
  r.report level "mysql_gate::connection::pool" message fields

/-- The field of an event that names a plugin. -/
def pluginField (plugin : Option AuthPlugin) : Log.Field :=
  .inQuotes "plugin" (AuthPlugin.label plugin)

variable (s : Server σ)

/-- Closes the pool, if one is open, and goes over to another state. -/
def closeTo (next : PoolState) (r : Run σ) : Run σ :=
  let closed := { r with slot := { r.slot with handle := none, state := next, fingerprint := none } }
  match r.slot.handle with
  | some h => (closed.reportPool .info "Closing connection pool" []).callClose s h
  | none => closed

/-! ### Opening -/

/-- Closes the old pool and takes the parameters of the next: those of the policy, but with
the plugin that worked last. -/
def startOpening (meanwhile : PoolState) (r : Run σ) : Opening × Run σ :=
  let r := r.closeTo s meanwhile
  let params := r.live.policy.connectParams
  let params := { params with authPlugin := r.slot.plugin.getD params.authPlugin }
  (⟨r.live.generation, params⟩,
    r.reportPool .info "Initializing connection pool"
      [.shown "server" params.display, pluginField params.authPlugin])

/-- Tries plugins until one is accepted. If none is, what is left is the last error. -/
def tryPlugins (params : ConnectParams) :
    List (Option AuthPlugin) → String → Run σ → Except String Handle × Run σ
  | [], last, r => (.error last, r)
  | plugin :: plugins, _, r =>
    let r := r.reportPool .info "Trying authentication plugin" [pluginField plugin]
    match r.callOpen s { params with authPlugin := plugin } with
    | (.ok h, r) => (.ok h, r.reportPool .info "Connected" [pluginField plugin])
    | (.error e, r) =>
      tryPlugins params plugins e.message
        (r.reportPool .warn "Plugin failed" [pluginField plugin, .shown "error" e.message])

/-- Asks the server for a pool. If it rejects the plugin, as many others as `retries` allows
are tried. -/
def seekPool (retries : Nat) (params : ConnectParams) (r : Run σ) : Outcome σ Handle :=
  match r.callOpen s params with
  | (.ok h, r) => (.ok h, r)
  | (.error (.authentication message), r) =>
    if retries = 0 then (.error (.authentication message), r)
    else
      match tryPlugins s params (AuthPlugin.fallbackOrder.take retries) message
          (r.reportPool .warn message []) with
      | (.ok h, r) => (.ok h, r)
      | (.error last, r) =>
        (.error (.connection ("Unable to connect to " ++ params.display ++
            ": no authentication plugin was accepted (last error: " ++ last ++ ")")),
          r.reportPool .error "All authentication plugins failed" [])
  | (.error e, r) => (.error e, r)

/-- Puts a pool in place. The policy takes over the plugin that was accepted. -/
def activate (h : Handle) (generation : Nat) (r : Run σ) : Run σ :=
  let plugin := h.params.authPlugin
  let live := if r.live.policy.authPlugin = plugin then r.live else r.live.setAuthPlugin plugin
  let slot : Slot :=
    { handle := some h
      state := .active
      fingerprint := some live.policy.fingerprint
      generation := generation
      plugin := some plugin
      failures := 0
      lastError := none }
  { r with live, slot }.reportPool .info "Connection pool initialized" []

/-- Notes that no pool could be opened. -/
def fail (e : GatewayError) (r : Run σ) : Run σ :=
  let failures := r.slot.failures + 1
  { r with slot := { r.slot with state := .error, failures, lastError := some e.message } }
    |>.reportPool .warn "Connection pool failed to initialize"
      [.shown "error" e.message, .inQuotes "hint" ((connectionHint? e.message).getD "none"),
        .shown "attempts" (Decimal.digitsText failures)]

/-- Puts the pool in place that the server gave, or notes the failure. -/
def finishOpening (o : Opening) (answer : Except GatewayError Handle) (r : Run σ) :
    Outcome σ Unit :=
  match answer with
  | .ok h => (.ok (), r.activate h o.generation)
  | .error e => (.error e, r.fail e)

/-- Closes the old pool and opens another. What others do to the policy while the server is
asked is `interference`. -/
def openDuring (interference : LivePolicy → LivePolicy) (retries : Nat) (meanwhile : PoolState)
    (r : Run σ) : Outcome σ Unit :=
  let (o, r) := r.startOpening s meanwhile
  let (answer, r) := r.seekPool s retries o.params
  { r with live := interference r.live }.finishOpening o answer

/-- Closes the old pool and opens another. -/
def openPool (retries : Nat) (meanwhile : PoolState) (r : Run σ) : Outcome σ Unit :=
  r.openDuring s id retries meanwhile

/-! ### Operations -/

/-- Opens a pool unless there is one; after a failure nothing is done. -/
def ensure (r : Run σ) : Outcome σ Unit :=
  if r.slot.state.opensOnDemand then r.openPool s maxAuthRetries .closed else (.ok (), r)

/-- Whether the connection settings are no longer those of the open pool. They are compared
only if the policy changed since the last time. -/
def isStale (r : Run σ) : Bool × Run σ :=
  if r.slot.state ≠ .active ∨ r.live.generation = r.slot.generation then (false, r)
  else if r.slot.fingerprint = some r.live.policy.fingerprint then
    (false, { r with slot := { r.slot with generation := r.live.generation } })
  else (true, r)

/-- Opens another pool if the connection settings are no longer those of the open one. -/
def refresh (r : Run σ) : Outcome σ Unit :=
  match r.isStale with
  | (true, r) =>
    r.reportPool .warn "Connection settings changed, rebuilding connection pool" []
      |>.openPool s maxAuthRetries .closed
  | (false, r) => (.ok (), r)

/-- Takes a connection from the open pool. -/
def checkOut (r : Run σ) : Outcome σ Handle :=
  match r.slot.state, r.slot.handle with
  | .active, some h =>
    let timeout := r.live.policy.acquireTimeout
    match r.callAcquire s h timeout with
    | (some answer, r) => (answer.map fun _ => h, r)
    | (none, r) =>
      (.error (.poolUnavailable ("timed out after " ++ Decimal.writeTenths timeout.toDouble ++
        "s waiting for a free connection")), r)
  | state, _ =>
    (.error (.poolUnavailable ("connection pool is " ++ state.label ++
      "; call reconnect to recover")), r)

/-- Takes a connection, after opening a pool if that is needed. -/
def connect (r : Run σ) : Outcome σ Handle :=
  andThen (r.ensure s) fun _ r => andThen (r.refresh s) fun _ r => r.checkOut s

/-- Closes the pool and opens another, whatever the state. -/
def reconnect (r : Run σ) : Outcome σ Unit :=
  r.reportPool .info "Reconnecting connection pool" [.shown "from" r.slot.state.label]
    |>.openPool s maxAuthRetries .reconnecting

/-- Closes the pool. -/
def closePool (r : Run σ) : Run σ :=
  r.closeTo s .closed

end Run

end SqlGateway
