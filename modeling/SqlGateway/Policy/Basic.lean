import SqlGateway.Policy.Duration
import SqlGateway.Statement.Risk
import SqlGateway.Text.NameMap

/-!
# Policies

A policy holds what a session may do and how it connects. Besides the nineteen settings it
remembers whether the access level was set by hand, which decides whether production may
change it, and it keeps settings it does not know under their names.
-/

namespace SqlGateway

/-- How far a session may reach beyond its own database. -/
inductive AccessLevel where
  /-- Its own database only. -/
  | strict
  /-- Its own database, and the system schemas for reading. -/
  | restricted
  /-- Its own database, and schema changes anywhere. -/
  | permissive
  deriving DecidableEq, Repr

namespace AccessLevel

/-- The name of a level. -/
def label : AccessLevel → String
  | strict => "strict"
  | restricted => "restricted"
  | permissive => "permissive"

/-- The level with a name. -/
def ofLabel? : String → Option AccessLevel
  | "strict" => some strict
  | "restricted" => some restricted
  | "permissive" => some permissive
  | _ => none

/-- Reads a level, ignoring letter case and surrounding blanks; anything that is no level
means `permissive`. -/
def read (text : String) : AccessLevel :=
  (ofLabel? (Text.lowerString (Text.trimString text))).getD permissive

end AccessLevel

/-- The kind of deployment. -/
inductive Environment where
  | development
  | production
  deriving DecidableEq, Repr

namespace Environment

/-- The name of an environment. -/
def label : Environment → String
  | development => "development"
  | production => "production"

/-- The environment with a name. -/
def ofLabel? : String → Option Environment
  | "development" => some development
  | "production" => some production
  | _ => none

end Environment

/-- The authentication plugins that a pool can ask for. -/
inductive AuthPlugin where
  | native
  | cachingSha2
  | sha256
  deriving DecidableEq, Repr

namespace AuthPlugin

/-- The name of a plugin. -/
def name : AuthPlugin → String
  | native => "mysql_native_password"
  | cachingSha2 => "caching_sha2_password"
  | sha256 => "sha256_password"

/-- The plugin with a name. -/
def ofName? : String → Option AuthPlugin
  | "mysql_native_password" => some native
  | "caching_sha2_password" => some cachingSha2
  | "sha256_password" => some sha256
  | _ => none

/-- The name of an optional plugin: without one the server's choice is taken. -/
def label : Option AuthPlugin → String
  | none => "auto"
  | some p => p.name

/-- The order in which plugins are tried after one was rejected. -/
def fallbackOrder : List (Option AuthPlugin) :=
  [none, some native, some cachingSha2, some sha256]

end AuthPlugin

/-- What a session may do and how it connects. -/
structure Policy where
  environment : Environment
  host : String
  port : Nat
  user : String
  password : String
  /-- The session's own database; empty when it has none. -/
  database : String
  authPlugin : Option AuthPlugin
  /-- In seconds. -/
  connectTimeout : Nat
  poolMin : Nat
  poolMax : Nat
  /-- How many seconds a connection may stay idle. -/
  poolRecycle : Nat
  /-- How many seconds a connection may live; for ever when absent. -/
  poolLifetime : Option Nat
  acquireTimeout : Duration
  allowedRisks : RiskSet
  queryCheck : Bool
  /-- The longest text allowed, in characters. -/
  maxLength : Nat
  /-- Patterns in upper case that are looked for as whole words. -/
  blockedPatterns : List String
  isolation : Bool
  accessLevel : AccessLevel
  /-- Whether the access level was set by hand. -/
  accessLevelSet : Bool
  /-- Settings that the gateway does not know. -/
  extras : Text.NameMap String
  deriving DecidableEq, Repr

namespace Policy

/-- The patterns that are blocked when none are configured. -/
def defaultPatterns : List String := ["DROP TABLE", "DROP DATABASE", "TRUNCATE"]

/-- The policy before any setting is made. -/
def initial : Policy where
  environment := .development
  host := "localhost"
  port := 3306
  user := ""
  password := ""
  database := ""
  authPlugin := some .native
  connectTimeout := 5
  poolMin := 5
  poolMax := 20
  poolRecycle := 300
  poolLifetime := none
  acquireTimeout := .ofSeconds 10
  allowedRisks := .ofList [.low]
  queryCheck := true
  maxLength := 2000
  blockedPatterns := defaultPatterns
  isolation := false
  accessLevel := .permissive
  accessLevelSet := false
  extras := .empty

instance : Inhabited Policy := ⟨initial⟩

end Policy

/-- How a pool connects: the part of a policy that the server sees. -/
structure ConnectParams where
  host : String
  port : Nat
  user : String
  password : String
  database : String
  authPlugin : Option AuthPlugin
  connectTimeout : Duration
  minConnections : Nat
  maxConnections : Nat
  acquireTimeout : Duration
  idleTimeout : Duration
  maxLifetime : Option Duration
  deriving DecidableEq, Repr

namespace ConnectParams

/-- Where the pool connects, without the password. -/
def display (p : ConnectParams) : String :=
  p.user ++ "@" ++ p.host ++ ":" ++ toString p.port ++ "/" ++
    (if p.database = "" then "(none)" else p.database)

/-- The password as diagnostics show it: only whether there is one. -/
def maskedPassword (p : ConnectParams) : String :=
  if p.password = "" then "\"\"" else "\"***\""

end ConnectParams

/-- The connection part of a policy. -/
def Policy.connectParams (p : Policy) : ConnectParams where
  host := p.host
  port := p.port
  user := p.user
  password := p.password
  database := p.database
  authPlugin := p.authPlugin
  connectTimeout := .ofSeconds p.connectTimeout
  minConnections := p.poolMin
  maxConnections := p.poolMax
  acquireTimeout := p.acquireTimeout
  idleTimeout := .ofSeconds p.poolRecycle
  maxLifetime := p.poolLifetime.map .ofSeconds

end SqlGateway
