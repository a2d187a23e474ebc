import SqlGateway.Policy.ConfigFile
import SqlGateway.Policy.ConnectionString
import SqlGateway.Policy.Variables

/-!
# Sources of a Policy

The policy of a program that an operator starts comes from four sources. Each may change
what the ones before it made: the configuration file, the environment, a connection string,
and single settings `NAME=VALUE`. A connection string makes all settings that say where to
connect and as whom.
-/

namespace SqlGateway

open Text

/-- A text that should be `NAME=VALUE` and is not. `option` is where it was given. -/
structure PairError where
  option : String
  text : String
  deriving DecidableEq, Repr

/-- The error that a caller sees. -/
def PairError.toGateway (e : PairError) : GatewayError :=
  .config (e.option ++ " expects NAME=VALUE, got '" ++ e.text ++ "'")

/-- Splits a text at the first equality sign. The name is trimmed and may not be empty; the
value is kept as it stands. -/
def splitPair (option text : String) : Except PairError (String × String) :=
  let name := trim (text.toList.takeWhile (· != '='))
  match text.toList.dropWhile (· != '=') with
  | _ :: value =>
    if name.isEmpty then .error ⟨option, text⟩
    else .ok (String.ofList name, String.ofList value)
  | [] => .error ⟨option, text⟩

/-- Why sources give no policy. -/
inductive SourceError where
  | file (e : ConfigFileError)
  | connectionString (e : ConnectionStringError)
  | pair (e : PairError)
  | setting (e : SettingError)
  deriving DecidableEq, Repr

/-- The error that a caller sees; `path` is where the file is. -/
def SourceError.toGateway (path : String) : SourceError → GatewayError
  | file e => e.toGateway path
  | connectionString e => e.toGateway
  | pair e => e.toGateway
  | setting e => e.toGateway

namespace Policy

/-- Where a policy comes from, the weakest source first. -/
structure Sources where
  file : ConfigFile
  environment : Dotenv.Variables
  url : Option String
  /-- Single settings `NAME=VALUE`, in the order they are made. -/
  overrides : List String

/-- Makes the settings of a connection string. -/
def updateOfConnectionString (p : Policy) (url : String) : Except SourceError Policy := do
  let described ← (ofConnectionString url).mapError .connectionString
  (p.update described.connectionEntries).mapError .setting

/-- Makes single settings. -/
def updateOfPairs (p : Policy) (option : String) (texts : List String) :
    Except SourceError Policy := do
  let pairs ← (texts.mapM (splitPair option)).mapError .pair
  (p.update pairs).mapError .setting

/-- The policy that sources describe. -/
def ofSources (s : Sources) : Except SourceError Policy := do
  let p ← (ofFile s.file).mapError .file
  let p ← (p.updateOfVariables s.environment).mapError .setting
  let p ← match s.url with
    | some url => p.updateOfConnectionString url
    | none => .ok p
  p.updateOfPairs "--set" s.overrides

end Policy

end SqlGateway
