/-!
# Options of the Program

What an operator can ask the program for: a command and the options that every command has.
The program answers with a short text of its own when it is asked for help or its version,
and when the words on the command line do not make up a command.
-/

namespace SqlGateway.Cli

/-- What the program is to do. -/
inductive Command where
  /-- Tells the gate's decision on a statement. -/
  | check (sql : String) (report : Bool)
  /-- Runs a statement; its parameters are given as `NAME=VALUE`. -/
  | exec (sql : String) (params : List String)
  /-- Tells the server's version and the state of the pool. -/
  | info
  deriving DecidableEq, Repr

/-- The name of a command. -/
def Command.name : Command → String
  | check .. => "check"
  | exec .. => "exec"
  | info => "info"

/-- A command and the options that every command has. -/
structure Options where
  /-- A connection string. -/
  url : Option String
  /-- The path of the configuration file, if it is not at its usual place. -/
  config : Option String
  /-- Single settings `NAME=VALUE`. -/
  overrides : List String
  /-- Whether to write a log file, and its path if it is not to be at its usual place. -/
  logFile : Option (Option String)
  command : Command
  deriving DecidableEq, Repr

/-- Why the program does no more than print a text about itself. -/
inductive Stop where
  | help
  | version
  /-- Nothing at all was asked for. -/
  | nothing
  | missingCommand
  | unknownCommand
  | unknownArgument
  | missingArgument
  /-- The value of an option is missing or empty. -/
  | missingValue
  /-- A value was given to an option that has none. -/
  | needlessValue
  /-- An option was given twice that can be given once. -/
  | repeated
  deriving DecidableEq, Repr

/-- The exit code of the program after a stop. -/
def Stop.exitCode : Stop → Nat
  | help | version => 0
  | _ => 2

end SqlGateway.Cli
