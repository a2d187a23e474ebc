import SqlGateway.Text.Blank
import SqlGateway.Text.Alphabetic
import SqlGateway.Text.Numeric
import SqlGateway.Text.NameMap

/-!
# Files of Variables

A file of variables has an assignment `KEY=value` on each line, perhaps after the word
`export`. A value may be quoted: single quotes keep everything, double quotes know escapes
and let the value of another variable in with `$NAME` or `$\x7bNAME\x7d`, and so does a value
without quotes. A quoted value may go on over several lines, and a blank and `#` begin a
comment. A variable that is set already keeps its value; the first line that cannot be read
ends the file.
-/

namespace SqlGateway.Dotenv

open Text

/-- The variables of an environment. -/
abbrev Variables := NameMap String

/-! ### Lines -/

/-- What a reader of lines is inside of. -/
inductive Inside where
  | word
  | blanks
  | escape
  | double
  | doubleEscape
  | single
  | singleEscape
  deriving DecidableEq, Repr

namespace Inside

/-- What follows a character outside quotes that is not blank. -/
def enter : Char → Inside
  | '\\' => escape
  | '"' => double
  | '\'' => single
  | _ => word

/-- What a reader is inside of after a character. -/
def next (i : Inside) (c : Char) : Inside :=
  match i with
  | word => if isBlank c && c != '\n' && c != '\x0d' then blanks else enter c
  | blanks => enter c
  | escape => word
  | double => if c = '\\' then doubleEscape else if c = '"' then word else double
  | doubleEscape => double
  | single => if c = '\\' then singleEscape else if c = '\'' then word else single
  | singleEscape => single

end Inside

/-- The part of a line before a comment, and what a reader is inside of after the line; a
comment ends the line. -/
def scanLine (i : Inside) : List Char → List Char × Option Inside
  | [] => ([], some i)
  | c :: rest =>
    if i = .blanks ∧ c = '#' then ([], none)
    else
      let (kept, after) := scanLine (i.next c) rest
      (c :: kept, after)

/-- The lines of a text, each with its line end. -/
def physicalLines : List Char → List (List Char)
  | [] => []
  | '\n' :: rest => ['\n'] :: physicalLines rest
  | c :: rest =>
    match physicalLines rest with
    | [] => [[c]]
    | line :: lines => (c :: line) :: lines

/-- Drops a line end. -/
def dropLineEnd (cs : List Char) : List Char :=
  match cs.reverse with
  | '\n' :: '\x0d' :: rest => rest.reverse
  | '\n' :: rest => rest.reverse
  | _ => cs

/-- Joins the lines that belong together, `held` being what came before and goes on. The
last item is absent if the text ends inside a line. -/
def joinLines (i : Inside) (held : List Char) : List (List Char) → List (Option (List Char))
  | [] => if i = .word then [] else [none]
  | line :: rest =>
    let all := held ++ line
    if (all.dropWhile isBlank).head? = some '#' then joinLines .word [] rest
    else
      match scanLine i line with
      | (kept, none) => some (held ++ kept) :: joinLines .word [] rest
      | (_, some .word) => some (dropLineEnd all) :: joinLines .word [] rest
      | (_, some i) => joinLines i all rest

/-! ### Values -/

/-- What a reader of values is doing. -/
inductive Mode where
  | plain
  | ended
  | single
  | double
  /-- A backslash was read, in double quotes or outside. -/
  | escape (quoted : Bool)
  /-- The name of a variable is being read, in braces or not. -/
  | name (quoted braces : Bool) (letters : List Char)
  deriving DecidableEq, Repr

/-- Outside or inside double quotes. -/
def Mode.inText (quoted : Bool) : Mode :=
  if quoted then .double else .plain

/-- The value of the variable that letters in reverse name; nothing if there is none. -/
def valueOf (vars : Variables) (letters : List Char) : List Char :=
  ((vars.get? (String.ofList letters.reverse)).getD "").toList

/-- Reads a value. -/
def readValue? (vars : Variables) (mode : Mode) : List Char → Option (List Char)
  | [] =>
    match mode with
    | .plain | .ended | .escape false => some []
    | .name false false letters => some (valueOf vars letters)
    | _ => none
  | c :: rest =>
    let push (mode : Mode) (cs : List Char) : Option (List Char) :=
      (readValue? vars mode rest).map (cs ++ ·)
    match mode with
    | .ended =>
      if c = ' ' ∨ c = '\t' then readValue? vars .ended rest
      else if c = '#' then some []
      else none
    | .escape quoted =>
      if ['\\', '\'', '"', '$', ' '].contains c then push (.inText quoted) [c]
      else if c = 'n' then push (.inText quoted) ['\n']
      else none
    | .single => if c = '\'' then readValue? vars .plain rest else push .single [c]
    | .name quoted braces letters =>
      if isAlphabetic c || isNumeric c then
        readValue? vars (.name quoted braces (c :: letters)) rest
      else if braces then
        if c = '\x7d' then push (.inText quoted) (valueOf vars letters)
        else readValue? vars (.name quoted true (c :: letters)) rest
      else if c = '\x7b' ∧ letters = [] then readValue? vars (.name quoted true []) rest
      else if c = '$' then push (.name quoted false []) (valueOf vars letters)
      else push (.inText quoted) (valueOf vars letters ++ [c])
    | .double =>
      if c = '$' then readValue? vars (.name true false []) rest
      else if c = '"' then readValue? vars .plain rest
      else if c = '\\' then readValue? vars (.escape true) rest
      else push .double [c]
    | .plain =>
      if c = '$' then readValue? vars (.name false false []) rest
      else if c = '\'' then readValue? vars .single rest
      else if c = '"' then readValue? vars .double rest
      else if c = '\\' then readValue? vars (.escape false) rest
      else if c = ' ' ∨ c = '\t' then readValue? vars .ended rest
      else push .plain [c]

/-! ### Assignments -/

/-- Reads a key and drops the blanks after it. -/
def cutKey? (cs : List Char) : Option (List Char × List Char) :=
  let isKeyChar (c : Char) : Bool := c.isAlphanum || c == '_' || c == '.'
  if cs.head?.any fun c => c.isAlpha || c == '_' then
    some (cs.takeWhile isKeyChar, (cs.dropWhile isKeyChar).dropWhile isBlank)
  else none

/-- Reads a key and the equality sign after it; the word `export` may precede the key, or be
the key. -/
def cutAssignment? (cs : List Char) : Option (List Char × List Char) := do
  let (key, rest) ← cutKey? cs
  match rest with
  | '=' :: value => some (key, value.dropWhile isBlank)
  | _ =>
    if key = "export".toList then
      let (key, rest) ← cutKey? rest
      match rest with
      | '=' :: value => some (key, value.dropWhile isBlank)
      | _ => none
    else none

/-- Whether a line has no assignment. -/
def isIdle (cs : List Char) : Bool :=
  cs.isEmpty || cs.head? == some '#'

/-- Reads lines until one cannot be read. -/
def loadLines (vars : Variables) : List (Option (List Char)) → Variables
  | [] | none :: _ => vars
  | some line :: rest =>
    let cs := trim line
    if isIdle cs then loadLines vars rest
    else
      let assignment := do
        let (key, value) ← cutAssignment? cs
        let text ← if isIdle value then some [] else readValue? vars .plain value
        some (String.ofList key, String.ofList text)
      match assignment with
      | none => vars
      | some (key, text) =>
        loadLines (if (vars.get? key).isSome then vars else vars.insert key text) rest

/-- The variables with those of a file added. -/
def load (vars : Variables) (text : String) : Variables :=
  let cs := match text.toList with
    | '\uFEFF' :: rest => rest
    | cs => cs
  loadLines vars (joinLines .word [] (physicalLines cs))

end SqlGateway.Dotenv
