import SqlGateway.Log
import SqlGateway.Text.Visible

/-!
# Log Lines

The text of an event in a log: its level, set flush right, the component, the message and
the fields. Characters of a message that could steer a terminal are written by their code
points.
-/

namespace SqlGateway.Log

/-- Writes a character of a message. -/
def messageChar (c : Char) : List Char :=
  let n := c.toNat
  if [0x07, 0x08, 0x0C, 0x1B, 0x7F].contains n then
    ['\\', 'x', Nat.digitChar (n / 16), Nat.digitChar (n % 16)]
  else if 0x80 ≤ n && n ≤ 0x9F then
    ['\\', 'u', '\x7b'] ++ Nat.toDigits 16 n ++ ['\x7d']
  else [c]

/-- Fills a text up to a width with blanks before it. -/
def flushRight (width : Nat) (text : String) : String :=
  String.ofList (List.replicate (width - text.length) ' ') ++ text

/-- A field in a log. -/
def Field.line (f : Field) : String :=
  f.name ++ "=" ++ (if f.quoted then Text.inspect f.value else f.value)

/-- An event in a log. -/
def Event.line (e : Event) : String :=
  String.intercalate " "
    ([flushRight 5 e.level.label, e.component ++ ":",
      String.ofList (e.message.toList.flatMap messageChar)] ++ e.fields.map Field.line)

end SqlGateway.Log
