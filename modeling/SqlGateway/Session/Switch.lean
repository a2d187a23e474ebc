import SqlGateway.Session.Pool
import SqlGateway.Policy.Setting

/-!
# Switching Databases

A session can be pointed at another server or database. The new settings are checked, made,
and a pool is opened with them; if that fails, the settings from before are made again and a
pool is opened with those.
-/

namespace SqlGateway

open Text

/-- Where a session is to connect. -/
structure Target where
  host : String
  port : Nat
  user : String
  password : String
  database : String
  deriving DecidableEq, Repr

namespace Target

/-- What is wrong with a text, if anything is: it may not be blank, and not be longer than
`limit` characters. -/
def fault? (name value : String) (limit : Nat) : Option String :=
  if (trim value.toList).isEmpty then some (name ++ " must not be empty")
  else if limit < value.toList.length then
    some (name ++ " must be at most " ++ Decimal.digitsText limit ++ " characters")
  else none

/-- What is wrong with a target. -/
def faults (t : Target) : List String :=
  (fault? "host" t.host 128).toList ++
    (if 1 ≤ t.port ∧ t.port ≤ 65535 then [] else ["port must be between 1 and 65535"]) ++
    (fault? "user" t.user 64).toList ++ (fault? "password" t.password 128).toList ++
    (fault? "database" t.database 64).toList

/-- The settings that a target makes. -/
def entries (t : Target) : List (String × String) :=
  [(Setting.host.key, t.host), (Setting.port.key, Decimal.digitsText t.port),
    (Setting.user.key, t.user), (Setting.password.key, t.password),
    (Setting.database.key, t.database)]

end Target

namespace Run

variable {σ : Type}

/-- Makes settings. -/
def update (entries : List (String × String)) (r : Run σ) : Outcome σ Unit :=
  match r.live.update entries with
  | .ok live => (.ok (), { r with live })
  | .error e => (.error e.toGateway, r)

/-- Reports an event of the session. -/
def reportSession (r : Run σ) (level : Log.Level) (message : String) (fields : List Log.Field) :
    Run σ :=
  r.report level "mysql_gate::connection::manager" message (.shown "session" r.id :: fields)

variable (s : Server σ)

/-- Goes back to the settings from before a switch that failed, and opens a pool with
them. -/
def switchBack (t : Target) (previous : List (String × String)) (e : GatewayError)
    (r : Run σ) : Outcome σ Unit :=
  let r := r.reportSession .warn "Database switch failed, restoring previous settings"
    [.shown "error" e.message]
  andThen (r.update previous) fun _ r =>
    let r := match r.openPool s maxAuthRetries .closed with
      | (.ok _, r) => r
      | (.error e, r) => r.reportSession .warn "Could not reopen the previous database"
          [.shown "error" e.message]
    (.error (.connection ("Failed to switch to " ++ t.user ++ "@" ++ t.host ++ "/" ++
      t.database ++ ": " ++ e.message)), r)

/-- Points the session at another server or database. -/
def switch (t : Target) (r : Run σ) : Outcome σ Unit :=
  if t.faults ≠ [] then (.error (.validation (String.intercalate ", " t.faults)), r)
  else
    let previous := r.live.policy.connectionEntries
    andThen (r.update t.entries) fun _ r =>
      match r.openPool s maxAuthRetries .closed with
      | (.ok _, r) => (.ok (), r.reportSession .info "Switched database"
          [.inQuotes "host" t.host, .inQuotes "database" t.database])
      | (.error e, r) => r.switchBack s t previous e

end Run

end SqlGateway
