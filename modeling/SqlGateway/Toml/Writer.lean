import SqlGateway.Toml.Basic

/-!
# Writing TOML Values

A value on one line: the items of an array in brackets and the entries of a table in braces.
A string stands in double quotes with escapes, or in single quotes without when that spares
escapes of quotes and backslashes; a string with line ends stands in three quotes, after a
line end that does not belong to it.
-/

namespace SqlGateway.Toml

/-! ### Strings -/

/-- Whether a character needs an escape in a line of text. -/
def needsEscape (c : Char) : Bool :=
  (c.toNat < 0x20 && c != '\t') || c.toNat == 0x7F

/-- Writes a character between double quotes. -/
def escapeChar (lines : Bool) (c : Char) : List Char :=
  let hex (n : Nat) : Char := (Nat.digitChar n).toUpper
  match c with
  | '"' => ['\\', '"']
  | '\\' => ['\\', '\\']
  | '\t' => ['\\', 't']
  | '\n' => if lines then ['\n'] else ['\\', 'n']
  | c =>
    if c.toNat == 8 then ['\\', 'b']
    else if c.toNat == 12 then ['\\', 'f']
    else if c.toNat == 13 then ['\\', 'r']
    else if needsEscape c then ['\\', 'u', '0', '0', hex (c.toNat / 16), hex (c.toNat % 16)]
    else [c]

/-- Whether a text contains three single quotes in a row or ends in one. -/
def clashesWithQuotes (cs : List Char) : Bool :=
  Text.occursIn ['\'', '\'', '\''] cs || cs.getLast? == some '\''

/-- Writes a string. -/
def writeString (s : String) : String :=
  let cs := s.toList
  let lines := cs.contains '\n'
  let literal := (cs.contains '"' || cs.contains '\\') && !clashesWithQuotes cs &&
    !cs.any fun c => c != '\n' && needsEscape c
  if literal then
    if lines then "'''\n" ++ s ++ "'''"
    else if cs.contains '\'' then "'''" ++ s ++ "'''"
    else "'" ++ s ++ "'"
  else
    let body := String.ofList (cs.flatMap (escapeChar lines))
    if lines then "\"\"\"\n" ++ body ++ "\"\"\"" else "\"" ++ body ++ "\""

/-- Whether a character may stand in a key without quotes. -/
def isBareChar (c : Char) : Bool :=
  c.isAlphanum || c == '_' || c == '-'

/-- Writes a key. -/
def writeKey (key : String) : String :=
  let cs := key.toList
  if !cs.isEmpty && cs.all isBareChar then key
  else if (cs.contains '"' || cs.contains '\\') &&
      cs.all fun c => c != '\'' && !needsEscape c && c.toNat < 0x100 then "'" ++ key ++ "'"
  else "\"" ++ String.ofList (cs.flatMap (escapeChar false)) ++ "\""

/-! ### Numbers -/

/-- Positional throughout, whole numbers with `.0`. -/
def floatLayout : Decimal.Layout := ⟨none, none, ".0", false⟩

/-- Writes a floating-point number. -/
def writeFloat (x : Decimal.Double) : String :=
  if x.isNaN then "nan" else floatLayout.write x

/-- Writes an integer. -/
def writeInteger (n : Int) : String :=
  if n < 0 then "-" ++ Decimal.digitsText n.natAbs else Decimal.digitsText n.natAbs

/-! ### Values -/

mutual

/-- Writes a value. -/
def Value.write : Value → String
  | .string s => writeString s
  | .integer n => writeInteger n
  | .float x => writeFloat x
  | .boolean b => if b then "true" else "false"
  | .datetime d => d.write
  | .array _ items => "[" ++ String.intercalate ", " (writeItems items) ++ "]"
  | .table _ entries =>
    if entries.isEmpty then "\x7b\x7d"
    else "\x7b " ++ String.intercalate ", " (writeEntries entries) ++ " \x7d"

/-- Writes each item of an array. -/
def writeItems : List Value → List String
  | [] => []
  | v :: vs => v.write :: writeItems vs

/-- Writes each entry of a table. -/
def writeEntries : List (String × Value) → List String
  | [] => []
  | (key, v) :: rest => (writeKey key ++ " = " ++ v.write) :: writeEntries rest

end

/-- Writes a value that stands alone. A date or a time then is a table with one entry. -/
def Value.writeAlone : Value → String
  | .datetime d => (Value.table .braces
      [("$__toml_private_datetime", .string d.write)]).write
  | v => v.write

end SqlGateway.Toml
