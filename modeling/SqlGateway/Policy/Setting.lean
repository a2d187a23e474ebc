import SqlGateway.Policy.Basic
import SqlGateway.Decimal.Read
import SqlGateway.Error

/-!
# Settings

Settings are pairs of texts. A key is read without regard to letter case and surrounding
blanks; a value is trimmed and then read as its setting demands. An update sets any number
of pairs and then restores what every policy promises (`Policy.normalize`); if one value is
not valid the policy stays as it was. `Policy.get?` writes a setting back.
-/

namespace SqlGateway

open Text

/-- The settings that the gateway knows. -/
inductive Setting where
  | host
  | port
  | user
  | password
  | database
  | authPlugin
  | connectTimeout
  | poolMin
  | poolMax
  | poolRecycle
  | poolLifetime
  | acquireTimeout
  | allowedRisks
  | queryCheck
  | maxLength
  | blockedPatterns
  | isolation
  | accessLevel
  | environment
  deriving DecidableEq, Repr

namespace Setting

/-- The key of a setting. -/
def key : Setting → String
  | host => "MYSQL_HOST"
  | port => "MYSQL_PORT"
  | user => "MYSQL_USER"
  | password => "MYSQL_PASSWORD"
  | database => "MYSQL_DATABASE"
  | authPlugin => "MYSQL_DB_AUTH_PLUGIN"
  | connectTimeout => "MYSQL_DB_CONNECTION_TIMEOUT"
  | poolMin => "MYSQL_DB_POOL_MIN_SIZE"
  | poolMax => "MYSQL_DB_POOL_MAX_SIZE"
  | poolRecycle => "MYSQL_DB_POOL_RECYCLE"
  | poolLifetime => "MYSQL_DB_POOL_MAX_LIFETIME"
  | acquireTimeout => "MYSQL_DB_POOL_ACQUIRE_TIMEOUT"
  | allowedRisks => "MYSQL_ALLOWED_RISK_LEVELS"
  | queryCheck => "MYSQL_ENABLE_QUERY_CHECK"
  | maxLength => "MYSQL_MAX_SQL_LENGTH"
  | blockedPatterns => "MYSQL_BLOCKED_PATTERNS"
  | isolation => "MYSQL_ENABLE_DATABASE_ISOLATION"
  | accessLevel => "MYSQL_DATABASE_ACCESS_LEVEL"
  | environment => "ENV_TYPE"

/-- All settings, in the order they are listed in. -/
def all : List Setting :=
  [host, port, user, password, database, authPlugin, connectTimeout, poolMin, poolMax,
    poolRecycle, poolLifetime, acquireTimeout, allowedRisks, queryCheck, maxLength,
    blockedPatterns, isolation, accessLevel, environment]

/-- The settings that say where to connect and as whom. -/
def connection : List Setting :=
  [host, port, user, password, database]

/-- The setting with a key. -/
def ofKey? (k : String) : Option Setting :=
  all.find? fun s => s.key == k

end Setting

/-- The form of a key that is compared: trimmed and in upper case. -/
def normalKey (key : String) : String :=
  upperString (trimString key)

/-! ### Errors -/

/-- Why a setting cannot be made. -/
inductive SettingError where
  | notNumber (key value : String)
  | portRange (key : String)
  | notDuration (key : String)
  | notBoolean (key value : String)
  | unknownPlugin (name : String)
  | unknownEnvironment (name : String)
  deriving DecidableEq, Repr

/-- The message of an error. -/
def SettingError.message : SettingError → String
  | notNumber key value => key ++ " must be a number, got '" ++ value ++ "'"
  | portRange key => key ++ " must be between 1 and 65535"
  | notDuration key => key ++ " must be a non-negative number"
  | notBoolean key value => key ++ " must be a boolean, got '" ++ value ++ "'"
  | unknownPlugin name => "Unknown authentication plugin '" ++ name ++ "'"
  | unknownEnvironment name =>
    "Invalid ENV_TYPE '" ++ name ++ "'. Expected 'development' or 'production'"

/-- The error that a caller sees. -/
def SettingError.toGateway (e : SettingError) : GatewayError :=
  .config e.message

/-! ### Reading values -/

/-- Reads an environment, by its name or its short name. -/
def Environment.read (text : String) : Except SettingError Environment :=
  match lowerString (trimString text) with
  | "development" | "dev" => .ok .development
  | "production" | "prod" => .ok .production
  | other => .error (.unknownEnvironment other)

/-- Reads a plugin; the empty text and two words mean the server's choice. -/
def AuthPlugin.read (text : String) : Except SettingError (Option AuthPlugin) :=
  match lowerString (trimString text) with
  | "" | "auto" | "none" => .ok none
  | other =>
    match ofName? other with
    | some p => .ok (some p)
    | none => .error (.unknownPlugin other)

/-- Reads a whole number below a bound. -/
def readCount (key : String) (bound : Nat) (value : String) : Except SettingError Nat :=
  match Decimal.readBelow? bound value.toList with
  | some n => .ok n
  | none => .error (.notNumber key value)

/-- Reads a truth value; the empty text is false. -/
def readSwitch (key value : String) : Except SettingError Bool :=
  let word := lowerString value
  if ["true", "1", "yes", "y", "t"].contains word then .ok true
  else if ["false", "0", "no", "n", "f", ""].contains word then .ok false
  else .error (.notBoolean key value)

/-- Reads a number of seconds with decimals. -/
def readSeconds (key value : String) : Except SettingError Duration :=
  match Decimal.readDouble? value.toList with
  | none => .error (.notNumber key value)
  | some x =>
    match Duration.ofDouble? x with
    | some d => .ok d
    | none => .error (.notDuration key)

/-- The items of a comma-separated value. -/
def listItems (value : String) : List String :=
  (cutAt (· == ',') value.toList).map String.ofList

/-- Reads a list of levels of risk; what is no level is passed over. -/
def readRisks (value : String) : RiskSet :=
  .ofList ((listItems value).filterMap RiskLevel.read?)

/-- Reads a list of patterns; without any the default ones are meant. -/
def readPatterns (value : String) : List String :=
  let patterns := ((listItems value).map fun p => upperString (trimString p)).filter (· != "")
  if patterns.isEmpty then Policy.defaultPatterns else patterns

/-! ### Making settings -/

namespace Policy

/-- Sets a known setting to a trimmed value. -/
def setKnown (p : Policy) (s : Setting) (value : String) : Except SettingError Policy :=
  match s with
  | .host => .ok { p with host := if value = "" then "localhost" else value }
  | .port => do
    let n ← readCount s.key UInt16.size value
    if n = 0 then .error (.portRange s.key) else .ok { p with port := n }
  | .user => .ok { p with user := value }
  | .password => .ok { p with password := value }
  | .database => .ok { p with database := value }
  | .authPlugin => (AuthPlugin.read value).map fun v => { p with authPlugin := v }
  | .connectTimeout =>
    (readCount s.key UInt64.size value).map fun n => { p with connectTimeout := n }
  | .poolMin => (readCount s.key UInt32.size value).map fun n => { p with poolMin := n }
  | .poolMax => (readCount s.key UInt32.size value).map fun n => { p with poolMax := n }
  | .poolRecycle => (readCount s.key UInt64.size value).map fun n => { p with poolRecycle := n }
  | .poolLifetime =>
    (readCount s.key UInt64.size value).map fun n =>
      { p with poolLifetime := if n = 0 then none else some n }
  | .acquireTimeout => (readSeconds s.key value).map fun d => { p with acquireTimeout := d }
  | .allowedRisks => .ok { p with allowedRisks := readRisks value }
  | .queryCheck => (readSwitch s.key value).map fun b => { p with queryCheck := b }
  | .maxLength => (readCount s.key UInt64.size value).map fun n => { p with maxLength := n }
  | .blockedPatterns => .ok { p with blockedPatterns := readPatterns value }
  | .isolation => (readSwitch s.key value).map fun b => { p with isolation := b }
  | .accessLevel => .ok { p with accessLevel := .read value, accessLevelSet := true }
  | .environment => (Environment.read value).map fun e => { p with environment := e }

/-- Sets a setting, known or not. -/
def set (p : Policy) (key value : String) : Except SettingError Policy :=
  let key := normalKey key
  let value := trimString value
  match Setting.ofKey? key with
  | some s => p.setKnown s value
  | none => .ok { p with extras := p.extras.insert key value }

/-- Restores what every policy promises: production has isolation and the query check, no
high risks, and restricted access unless the level was set by hand; some risk is allowed;
the pool's least size is not above its greatest. -/
def normalize (p : Policy) : Policy :=
  let p :=
    if p.environment = .production then
      { p with
        isolation := true
        queryCheck := true
        accessLevel := if p.accessLevelSet then p.accessLevel else .restricted
        allowedRisks := { p.allowedRisks with high := false, critical := false } }
    else p
  let p := if p.allowedRisks.isEmpty then { p with allowedRisks := .ofList [.low] } else p
  if p.poolMax < p.poolMin then { p with poolMin := p.poolMax } else p

/-- Sets pairs one after another. -/
def setAll (p : Policy) : List (String × String) → Except SettingError Policy
  | [] => .ok p
  | (key, value) :: rest => do
    (← p.set key value).setAll rest

/-- Sets pairs and restores what every policy promises. -/
def update (p : Policy) (entries : List (String × String)) : Except SettingError Policy :=
  (p.setAll entries).map normalize

/-- The policy with the given settings. -/
def ofEntries (entries : List (String × String)) : Except SettingError Policy :=
  initial.update entries

/-! ### Reading settings back -/

/-- A truth value as a setting. -/
def switchText (b : Bool) : String :=
  if b then "true" else "false"

/-- The text of a known setting. -/
def getKnown (p : Policy) : Setting → String
  | .host => p.host
  | .port => Decimal.digitsText p.port
  | .user => p.user
  | .password => p.password
  | .database => p.database
  | .authPlugin => AuthPlugin.label p.authPlugin
  | .connectTimeout => Decimal.digitsText p.connectTimeout
  | .poolMin => Decimal.digitsText p.poolMin
  | .poolMax => Decimal.digitsText p.poolMax
  | .poolRecycle => Decimal.digitsText p.poolRecycle
  | .poolLifetime => Decimal.digitsText (p.poolLifetime.getD 0)
  | .acquireTimeout => Decimal.Layout.exact.write p.acquireTimeout.toDouble
  | .allowedRisks => String.intercalate "," p.allowedRisks.labels
  | .queryCheck => switchText p.queryCheck
  | .maxLength => Decimal.digitsText p.maxLength
  | .blockedPatterns => String.intercalate "," p.blockedPatterns
  | .isolation => switchText p.isolation
  | .accessLevel => p.accessLevel.label
  | .environment => p.environment.label

/-- The settings that say where to connect and as whom, with their texts. -/
def connectionEntries (p : Policy) : List (String × String) :=
  Setting.connection.map fun s => (s.key, p.getKnown s)

/-- The text of a setting, if the policy has it. -/
def get? (p : Policy) (key : String) : Option String :=
  let key := normalKey key
  match Setting.ofKey? key with
  | some s => some (p.getKnown s)
  | none => p.extras.get? key

/-- The text of a setting, or another text. -/
def getD (p : Policy) (key other : String) : String :=
  (p.get? key).getD other

end Policy

end SqlGateway
