import SqlGateway.Cli.Options
import SqlGateway.Cli.Parameters
import SqlGateway.Gate.Data
import SqlGateway.Session.Query

/-!
# The Program

What the program answers to an operator, given the policy's sources and a server: the text
for standard output, the exit code, the message of a failure, and the events reported on the
way. `check` needs no server. `exec` runs one statement in a session of its own, and `info`
asks for the server's version in one.
-/

namespace SqlGateway.Cli

/-- What the program answers. -/
structure Answer where
  exitCode : Nat
  output : String
  failure : Option String
  events : List Log.Event
  deriving DecidableEq, Repr

namespace Answer

/-- The component that reports what the program itself does. -/
def component : String := "mysql_gate"

/-- An answer that prints structured data. -/
def success (events : List Log.Event) (data : Json) : Answer :=
  ⟨0, data.pretty ++ "\n", none, events⟩

/-- An answer to a request that failed. -/
def fail (events : List Log.Event) (message : String) : Answer :=
  ⟨1, "", some message, events ++ [⟨.error, component, message, []⟩]⟩

end Answer

/-- A row as an object. -/
def recordToJson (r : Record) : Json :=
  .object (r.entries.map fun e => (e.1, e.2.toJson))

/-- What is known of the database as an object. -/
def infoToJson (i : DatabaseInfo) : Json :=
  .object [
    ("version", Json.ofString? i.version),
    ("error", Json.ofString? i.error),
    ("state", .string i.health.state.label),
    ("auth_plugin", .string (AuthPlugin.label i.health.plugin)),
    ("connected_once", .bool i.health.everConnected),
    ("reconnect_attempts", Json.ofNat i.health.failures),
    ("last_error", Json.ofString? i.health.lastError)]

/-- The name of the program's session. -/
def sessionName : String := "cli"

/-- Tells the gate's decision on a statement, alone or with all that it rests on. -/
def check (sql : String) (report : Bool) (p : Policy) : Answer :=
  .success (Gate.checkEvents sql p)
    (if report then (Gate.report sql p).toJson else (Gate.check sql p).toJson)

section

variable {σ : Type} (s : Server σ) (server : σ)

/-- The run of the program's session before it does anything. -/
def begin (p : Policy) (events : List Log.Event) : Run σ :=
  { toSession := .new sessionName p, server, calls := [], events }

/-- Runs a statement. -/
def exec (sql : String) (params : List String) (p : Policy) : Answer :=
  match readParameters params with
  | .error e => .fail [] e.toGateway.message
  | .ok params =>
    let announcement : Log.Event :=
      ⟨.info, Answer.component, "Executing statement", [.inQuotes "session" sessionName]⟩
    let (result, r) := (begin server p [announcement]).query s sql params
    let r := r.closePool s
    match result with
    | .ok records => .success r.events (.array (records.map recordToJson))
    | .error e => .fail r.events e.message

/-- Tells the server's version and the state of the pool. -/
def info (p : Policy) : Answer :=
  let (i, r) := (begin server p []).databaseInfo s
  .success (r.closePool s).events (infoToJson i)

/-- What the program answers; `path` is where the configuration file is. -/
def answer (path : String) (sources : Policy.Sources) (command : Command) : Answer :=
  match Policy.ofSources sources with
  | .error e => .fail [] ("Failed to load configuration: " ++ (e.toGateway path).message)
  | .ok p =>
    match command with
    | .check sql report => check sql report p
    | .exec sql params => exec s server sql params p
    | .info => info s server p

end

/-! ### Texts of the program about itself -/

/-- The version of the program. -/
def versionText : String := "mysql-gate 0.1.0\n"

/-- How the program is used. -/
def helpText : String :=
  String.intercalate "\n" [
    "Policy-enforcing SQL gateway for MySQL",
    "",
    "Usage: mysql-gate [OPTIONS] <COMMAND>",
    "",
    "Commands:",
    "  check <SQL> [--report]             Print the gate's decision for a statement",
    "  exec <SQL> [-p, --param NAME=VALUE]  Run a statement through the gateway",
    "  info                               Print server version and pool health",
    "",
    "Options:",
    "      --url <URL>            Connection string",
    "      --config <PATH>        Config file path",
    "      --set <KEY=VALUE>      Override a setting",
    "      --log-file [<PATH>]    Write logs to a file instead of stderr",
    "  -h, --help                 Print help",
    "  -V, --version              Print version",
    ""]

/-- What is wrong with a command line. -/
def Stop.message : Stop → String
  | .help => helpText
  | .version => versionText
  | .nothing => helpText
  | .missingCommand => "error: a command is required\n"
  | .unknownCommand => "error: unrecognized command\n"
  | .unknownArgument => "error: unexpected argument found\n"
  | .missingArgument => "error: a required argument was not provided\n"
  | .missingValue => "error: a value is required for an option\n"
  | .needlessValue => "error: unexpected value for an option\n"
  | .repeated => "error: an option cannot be used multiple times\n"

/-- What the program answers to a command line that asks for no command. -/
def Stop.answer (stop : Stop) : Answer :=
  ⟨stop.exitCode, if stop.exitCode = 0 then stop.message else "", none, []⟩

end SqlGateway.Cli
