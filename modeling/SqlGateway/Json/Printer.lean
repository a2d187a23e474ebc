import SqlGateway.Json.Basic

/-!
# Writing Structured Data

Two layouts: `compact` has no blanks at all, `pretty` puts one item on a line, indented by
two spaces for each level. Both escape a string the same way and keep the order of an
object's members; `sorted` puts members in the order of their keys first, and `canonical`
also gives every number its one spelling.
-/

namespace SqlGateway.Json

/-- A hexadecimal digit. -/
def hexDigit (n : Nat) : Char :=
  Char.ofNat (if n < 10 then 48 + n else 87 + n)

/-- Writes a character of a string: a quote, a backslash and the control characters are
escaped. -/
def escapeChar (c : Char) : List Char :=
  match c with
  | '"' => ['\\', '"']
  | '\\' => ['\\', '\\']
  | '\n' => ['\\', 'n']
  | '\r' => ['\\', 'r']
  | '\t' => ['\\', 't']
  | c =>
    if c.toNat == 8 then ['\\', 'b']
    else if c.toNat == 12 then ['\\', 'f']
    else if c.toNat < 0x20 then
      ['\\', 'u', '0', '0', hexDigit (c.toNat / 16), hexDigit (c.toNat % 16)]
    else [c]

/-- Writes a string in quotes. -/
def quote (s : String) : String :=
  String.ofList ('"' :: s.toList.flatMap escapeChar ++ ['"'])

mutual

/-- Writes a value without blanks. -/
def compact : Json → String
  | .null => "null"
  | .bool b => if b then "true" else "false"
  | .number literal => literal
  | .string s => quote s
  | .array items => "[" ++ String.intercalate "," (compactItems items) ++ "]"
  | .object members =>
    "\x7b" ++ String.intercalate "," (compactMembers members) ++ "\x7d"

/-- Writes each item of a list without blanks. -/
def compactItems : List Json → List String
  | [] => []
  | item :: items => compact item :: compactItems items

/-- Writes each member of an object without blanks. -/
def compactMembers : List (String × Json) → List String
  | [] => []
  | (key, value) :: members => (quote key ++ ":" ++ compact value) :: compactMembers members

end

/-- A line break and the indentation of a level. -/
def lineBreak (level : Nat) : String :=
  String.ofList ('\n' :: List.replicate (2 * level) ' ')

/-- Puts parts on lines of their own between brackets. -/
def onLines (level : Nat) (opening closing : String) (parts : List String) : String :=
  if parts.isEmpty then opening ++ closing
  else
    opening ++ lineBreak (level + 1) ++
      String.intercalate ("," ++ lineBreak (level + 1)) parts ++ lineBreak level ++ closing

mutual

/-- Writes a value over several lines, at a level of indentation. -/
def prettyAt (level : Nat) : Json → String
  | .null => "null"
  | .bool b => if b then "true" else "false"
  | .number literal => literal
  | .string s => quote s
  | .array items => onLines level "[" "]" (prettyItems (level + 1) items)
  | .object members => onLines level "\x7b" "\x7d" (prettyMembers (level + 1) members)

/-- Writes each item of a list at a level of indentation. -/
def prettyItems (level : Nat) : List Json → List String
  | [] => []
  | item :: items => prettyAt level item :: prettyItems level items

/-- Writes each member of an object at a level of indentation. -/
def prettyMembers (level : Nat) : List (String × Json) → List String
  | [] => []
  | (key, value) :: members =>
    (quote key ++ ": " ++ prettyAt level value) :: prettyMembers level members

end

/-- Writes a value over several lines. -/
def pretty (value : Json) : String :=
  prettyAt 0 value

/-- Drops a member when a later one has the same key. -/
def lastOfEachKey : List (String × Json) → List (String × Json)
  | [] => []
  | m :: members =>
    if members.any fun n => n.1 == m.1 then lastOfEachKey members
    else m :: lastOfEachKey members

/-- Members in the order of their keys, each key once. -/
def sortMembers (members : List (String × Json)) : List (String × Json) :=
  (lastOfEachKey members).mergeSort fun a b => decide (a.1 ≤ b.1)

/-- The one spelling of a number: a whole number of at most sixty-four bits keeps its
digits, any other is written as the nearest double. -/
def canonicalNumber (literal : String) : Json :=
  match wholeNumber? literal with
  | some n =>
    if -0x8000000000000000 ≤ n ∧ n < 0x10000000000000000 then ofInt n else ofDouble (doubleOf literal)
  | none => ofDouble (doubleOf literal)

mutual

/-- Sorts the members of every object by key. -/
def sorted : Json → Json
  | .array items => .array (sortedItems items)
  | .object members => .object (sortMembers (sortedMembers members))
  | value => value

/-- Sorts inside each item. -/
def sortedItems : List Json → List Json
  | [] => []
  | item :: items => sorted item :: sortedItems items

/-- Sorts inside each member. -/
def sortedMembers : List (String × Json) → List (String × Json)
  | [] => []
  | (key, value) :: members => (key, sorted value) :: sortedMembers members

end

mutual

/-- Sorts the members of every object by key and gives every number its one spelling. -/
def canonical : Json → Json
  | .number literal => canonicalNumber literal
  | .array items => .array (canonicalItems items)
  | .object members => .object (sortMembers (canonicalMembers members))
  | value => value

/-- The canonical form of each item. -/
def canonicalItems : List Json → List Json
  | [] => []
  | item :: items => canonical item :: canonicalItems items

/-- The canonical form of each member. -/
def canonicalMembers : List (String × Json) → List (String × Json)
  | [] => []
  | (key, value) :: members => (key, canonical value) :: canonicalMembers members

end

end SqlGateway.Json
