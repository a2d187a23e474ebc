import SqlGateway.Policy.Setting
import SqlGateway.Toml.Reader
import SqlGateway.Toml.Writer

/-!
# Configuration Files

A configuration file is a TOML document whose entries are settings. A string is the value of
its setting as it stands, a number or a truth value is written out, and the items of an
array are joined by commas; a table, a date and a time are no settings. Entries are made in
ascending order of their keys.
-/

namespace SqlGateway

/-- What is read where a configuration file should be. -/
inductive ConfigFile where
  | missing
  | unreadable (reason : String)
  | text (content : String)
  deriving DecidableEq, Repr

/-- Why a file gives no policy. -/
inductive ConfigFileError where
  | unreadable (reason : String)
  | notToml
  | notSetting (key : String) (value : String)
  | setting (e : SettingError)
  deriving DecidableEq, Repr

/-- The error that a caller sees; `path` is where the file is. -/
def ConfigFileError.toGateway (path : String) : ConfigFileError → GatewayError
  | unreadable reason => .config ("Failed to read config file: " ++ reason)
  | notToml => .config ("Configuration error in " ++ path ++ ":\n  not a TOML document")
  | notSetting key value =>
    .config ("Unsupported value for " ++ key ++ " in " ++ path ++ ": " ++ value)
  | setting e => e.toGateway

/-- The text of an item of an array. -/
def Toml.Value.itemText : Toml.Value → String
  | .string s => s
  | v => v.writeAlone

/-- The text of a value as a setting, if it can be one. -/
def Toml.Value.settingText? : Toml.Value → Option String
  | .string s => some s
  | .integer n => some (Toml.writeInteger n)
  | .float x => some (Decimal.Layout.plain.write x)
  | .boolean b => some (if b then "true" else "false")
  | .array _ items => some (String.intercalate "," (items.map itemText))
  | .datetime _ | .table .. => none

/-- The settings that the entries of a document make. -/
def settingsOf (entries : Toml.Entries) : Except ConfigFileError (List (String × String)) :=
  entries.mapM fun (key, v) =>
    match v.settingText? with
    | some text => .ok (key, text)
    | none => .error (.notSetting key v.writeAlone)

/-- The policy that a document describes. -/
def Policy.ofToml (text : String) : Except ConfigFileError Policy :=
  match Toml.read? text with
  | none => .error .notToml
  | some entries => do
    let settings ← settingsOf entries
    (Policy.ofEntries settings).mapError .setting

/-- The policy that a file describes; without a file it is the initial one. -/
def Policy.ofFile : ConfigFile → Except ConfigFileError Policy
  | .missing => .ok .initial
  | .unreadable reason => .error (.unreadable reason)
  | .text content => ofToml content

end SqlGateway
