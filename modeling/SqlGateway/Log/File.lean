import SqlGateway.Files

/-!
# Log Files

A log file is opened to be continued; the directories it stands in are made if they are not
there. Whether that will work is told from what stands at the paths concerned.
-/

namespace SqlGateway.Log

open Files

/-- Why a log file cannot be used. -/
inductive FileFault where
  | directory (f : Fault)
  | file (path : String) (f : Fault)
  deriving DecidableEq, Repr

/-- The message of a fault. -/
def FileFault.message : FileFault → String
  | directory f => "Could not create log directory: " ++ f.message
  | file path f => "Could not open log file " ++ path ++ ": " ++ f.message

/-- Why the directories of a file cannot be made: one of them is a file. -/
def directoryFault? (kindOf : Path → Option Kind) (p : Path) : Option Fault :=
  (p.directories.find? fun d => kindOf d == some .file).map fun d =>
    if d.segments.length + 1 = p.segments.length then .alreadyThere else .notDirectory

/-- Why a file cannot be opened: its path leads to a directory, or asks for one. -/
def openingFault? (kindOf : Path → Option Kind) (path : String) : Option Fault :=
  let p := Path.ofText path
  let last := path.toList.reverse
  if last.head? == some '/' || p.segments.isEmpty || p.segments.getLast? == some ".." then
    some .isDirectory
  else
    match kindOf p with
    | some .directory => some .isDirectory
    | some .file => if ['.', '/'].isPrefixOf last then some .notDirectory else none
    | none => if ['.', '/'].isPrefixOf last then some .notFound else none

/-- Why a log file cannot be used, if it cannot. -/
def fileFault? (kindOf : Path → Option Kind) (path : String) : Option FileFault :=
  match directoryFault? kindOf (.ofText path) with
  | some f => some (.directory f)
  | none => (openingFault? kindOf path).map (.file path)

end SqlGateway.Log
