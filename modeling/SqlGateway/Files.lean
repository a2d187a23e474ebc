import SqlGateway.Text.Blank

/-!
# Files

Paths, what may stand at a path, and the faults that the system reports. A path is kept as
the segments between its slashes; an empty segment and a single dot name the directory they
stand in, so they are dropped.
-/

namespace SqlGateway.Files

open Text

/-- What stands at a path. -/
inductive Kind where
  | file
  | directory
  deriving DecidableEq, Repr

/-- What the system reports when something cannot be made or opened. -/
inductive Fault where
  | notFound
  | alreadyThere
  | notDirectory
  | isDirectory
  deriving DecidableEq, Repr

/-- The message of a fault. -/
def Fault.message : Fault → String
  | notFound => "No such file or directory (os error 2)"
  | alreadyThere => "File exists (os error 17)"
  | notDirectory => "Not a directory (os error 20)"
  | isDirectory => "Is a directory (os error 21)"

/-- A path. -/
structure Path where
  absolute : Bool
  segments : List String
  deriving DecidableEq, Repr

/-- Whether a text is an absolute path. -/
def isAbsolute (text : String) : Bool :=
  text.toList.head? == some '/'

namespace Path

/-- The path that a text names. -/
def ofText (text : String) : Path where
  absolute := isAbsolute text
  segments := ((cutAt (· == '/') text.toList).map String.ofList).filter
    fun s => s != "" && s != "."

/-- A text that names the path. -/
def text (p : Path) : String :=
  let names := String.intercalate "/" p.segments
  if p.absolute then "/" ++ names else if p.segments.isEmpty then "." else names

/-- The directories that have to be there for a file at the path, outermost first. -/
def directories (p : Path) : List Path :=
  (List.range (p.segments.length - 1)).map fun n => ⟨p.absolute, p.segments.take (n + 1)⟩

end Path

/-- The path of something in a directory. -/
def inside (directory name : String) : String :=
  if directory.toList.getLast? = some '/' then directory ++ name else directory ++ "/" ++ name

end SqlGateway.Files
