import SqlGateway.Cli.Arguments
import SqlGateway.Cli.Places
import SqlGateway.Cli.Program
import SqlGateway.Log.File
import SqlGateway.Log.Filter
import SqlGateway.Log.Line
import SqlGateway.Server.Unreachable
import Std.Time.Format

/-!
# The Command-Line Program

Reads the environment and the files that a request concerns, asks for the answer, and writes
it: structured data to standard output, events to the log, and the message of a failure to
standard error.
-/

namespace SqlGateway.Cli

open Files

/-- Whether an action succeeds. -/
def succeeds {α : Type} (action : IO α) : IO Bool :=
  try
    discard action
    return true
  catch _ => return false

/-- What stands at a path. -/
def kindOf (path : String) : IO (Option Kind) := do
  if ← succeeds (IO.FS.realPath (path ++ "/.")) then return some .directory
  if ← succeeds (IO.FS.realPath path) then return some .file
  return none

/-- The variables of the environment. -/
def environment : IO Dotenv.Variables := do
  let text ← try IO.FS.readFile "/proc/self/environ" catch _ => pure ""
  let assignments := Text.cutAt (· == '\x00') text.toList
  return .ofList (assignments.map fun cs =>
    (String.ofList (cs.takeWhile (· != '=')), String.ofList ((cs.dropWhile (· != '=')).drop 1)))

/-- The nearest file of variables, in the working directory or one it stands in. -/
def variableFile : IO (Option String) := do
  let here := Path.ofText (toString (← IO.FS.realPath "."))
  for directory in (⟨true, []⟩ :: here.directories ++ [here]).reverse do
    let path := inside directory.text ".env"
    if (← kindOf path) == some .file then
      return some (← try IO.FS.readFile path catch _ => pure "")
  return none

/-- What is read where the configuration file should be. -/
def readConfig (path : String) : IO ConfigFile := do
  match ← kindOf path with
  | none => return .missing
  | some .directory => return .unreadable Fault.isDirectory.message
  | some .file =>
    let octets ← try IO.FS.readBinFile path catch e => return .unreadable (toString e)
    match String.fromUTF8? octets with
    | some content => return .text content
    | none => return .unreadable "stream did not contain valid UTF-8"

/-- Opens the log; standard error is the log if no file is asked for or it cannot be used. -/
def openLog (path : Option String) : IO IO.FS.Stream := do
  let stderr ← IO.getStderr
  match path with
  | none => return stderr
  | some path =>
    let p := Path.ofText path
    let kinds ← (p.directories ++ [p]).mapM fun q => do return (q, ← kindOf q.text)
    let known (q : Path) : Option Kind := (kinds.find? fun k => k.1 == q).bind Prod.snd
    match Log.fileFault? known path with
    | some fault =>
      stderr.putStrLn ("Warning: " ++ fault.message)
      return stderr
    | none =>
      for directory in p.directories do
        if (known directory).isNone then IO.FS.createDirAll directory.text
      return .ofHandle (← IO.FS.Handle.mk path .append)

/-- Writes an event with the time to the log. -/
def writeEvent (log : IO.FS.Stream) (e : Log.Event) : IO Unit := do
  let now := Std.Time.DateTime.ofTimestamp (← Std.Time.Timestamp.now) Std.Time.TimeZone.ZoneRules.UTC
  log.putStrLn (now.format "uuuu-MM-dd'T'HH:mm:ss.SSSSSS'Z'" ++ " " ++ e.line)

/-- Answers a request. -/
def serve (options : Options) (vars : Dotenv.Variables) : IO Answer := do
  let log ← openLog (options.logPath? vars)
  let loaded := match ← variableFile with
    | some text => Dotenv.load vars text
    | none => vars
  let path := options.configPath loaded
  let sources : Policy.Sources := ⟨← readConfig path, loaded, options.url, options.overrides⟩
  let a := answer unreachable () path sources options.command
  let filter := Log.Filter.ofVariable (vars.get? "RUST_LOG")
  (a.events.filter filter.lets).forM (writeEvent log)
  return a

/-- Writes an answer and gives the exit code. -/
def Answer.write (a : Answer) : IO UInt32 := do
  (← IO.getStdout).putStr a.output
  match a.failure with
  | some message => (← IO.getStderr).putStrLn ("Error: " ++ message)
  | none => pure ()
  return UInt32.ofNat a.exitCode

end SqlGateway.Cli

/-- The program. -/
def main (args : List String) : IO UInt32 := do
  let vars ← SqlGateway.Cli.environment
  match SqlGateway.Cli.readLine (vars.get? "MYSQL_URL") args with
  | .ok options => (← SqlGateway.Cli.serve options vars).write
  | .error stop =>
    if stop.exitCode ≠ 0 then (← IO.getStderr).putStr stop.message
    stop.answer.write
