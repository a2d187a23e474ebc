import SqlGateway.Policy.Setting
import SqlGateway.Url.Basic

/-!
# Connection Strings

A connection string is a URL of the scheme `mysql`. Its host, port, user, password and path
become the settings of the same meaning; a part that is missing keeps its default. What is
percent-encoded stays encoded.
-/

namespace SqlGateway

/-- Why a text is no connection string. -/
inductive ConnectionStringError where
  | url (e : Url.UrlError)
  | scheme (name : String)
  | setting (e : SettingError)
  deriving DecidableEq, Repr

/-- The error that a caller sees. -/
def ConnectionStringError.toGateway : ConnectionStringError → GatewayError
  | url e => .config ("Invalid connection string: " ++ e.message)
  | scheme name => .config ("Invalid scheme '" ++ name ++ "'. Expected 'mysql'")
  | setting e => e.toGateway

/-- The database that a URL names: its path without the first slash, if that is not empty. -/
def Url.database? (u : Url) : Option String :=
  match u.path.toList with
  | '/' :: c :: rest => some (String.ofList (c :: rest))
  | _ => none

/-- The settings that a URL makes. -/
def Url.settings (u : Url) : List (String × String) :=
  let given (s : Setting) (value : Option String) : List (String × String) :=
    value.toList.map (s.key, ·)
  [(Setting.host.key, u.host.getD "localhost")] ++
    given .port (u.port.map Decimal.digitsText) ++
    given .user (if u.user = "" then none else some u.user) ++
    given .password u.password ++ given .database u.database?

/-- The policy that a connection string describes. -/
def Policy.ofConnectionString (text : String) : Except ConnectionStringError Policy :=
  match Url.read text with
  | .error e => .error (.url e)
  | .ok u =>
    if u.scheme = "mysql" then (Policy.ofEntries u.settings).mapError .setting
    else .error (.scheme u.scheme)

end SqlGateway
