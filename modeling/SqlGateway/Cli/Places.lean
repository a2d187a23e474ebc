import SqlGateway.Cli.Options
import SqlGateway.Dotenv
import SqlGateway.Files

/-!
# Usual Places of Files

Where the configuration file and the log file are if the operator does not say: in the
directories that the environment names for such files, or else in the usual ones of the home
directory. A directory of the environment counts only if its path is absolute.
-/

namespace SqlGateway.Cli

open Files

/-- The name of the program. -/
def programName : String := "mysql-gate"

/-- The directory that a variable names, or a directory in the home directory. -/
def baseDirectory? (vars : Dotenv.Variables) (name fallback : String) : Option String :=
  match (vars.get? name).filter isAbsolute with
  | some directory => some directory
  | none => ((vars.get? "HOME").filter (· != "")).map fun home => inside home fallback

/-- Where the configuration file is. -/
def configPath (vars : Dotenv.Variables) : String :=
  let directory := (baseDirectory? vars "XDG_CONFIG_HOME" ".config").getD "."
  inside (inside directory programName) "config.toml"

/-- Where the log file is. -/
def logPath (vars : Dotenv.Variables) : String :=
  match baseDirectory? vars "XDG_STATE_HOME" ".local/state" with
  | some directory => inside (inside directory programName) "mysql-gate.log"
  | none => inside "/tmp" "mysql-gate.log"

/-- Where the configuration file of a request is. -/
def Options.configPath (o : Options) (vars : Dotenv.Variables) : String :=
  o.config.getD (Cli.configPath vars)

/-- Where the log file of a request is, if it asks for one. -/
def Options.logPath? (o : Options) (vars : Dotenv.Variables) : Option String :=
  o.logFile.map fun path => path.getD (logPath vars)

end SqlGateway.Cli
