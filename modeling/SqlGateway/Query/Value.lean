import SqlGateway.Json.Printer
import SqlGateway.Json.Record

/-!
# Values

A value of a result or a parameter. Whole numbers are signed and have sixty-four bits; an
unsigned number above them is kept as its digits. A value read from structured data is a
whole number if it is written as one that fits, else the nearest double.
-/

namespace SqlGateway

/-- A value of a result or a parameter. -/
inductive Value where
  | null
  | bool (b : Bool)
  /-- A whole number of sixty-four bits, signed. -/
  | int (n : Int)
  | float (x : Decimal.Double)
  | string (s : String)
  | bytes (octets : List UInt8)
  deriving DecidableEq, Repr, Inhabited

namespace Value

/-- Whether a whole number fits sixty-four bits, signed. -/
def fitsInt64 (n : Int) : Bool :=
  -0x8000000000000000 ≤ n && n < 0x8000000000000000

/-- A signed number as a value. -/
def ofInt (n : Int) : Value :=
  .int n

/-- An unsigned number as a value: its digits if it is too large for a whole number. -/
def ofNat (n : Nat) : Value :=
  if n < 0x8000000000000000 then .int n else .string (Decimal.digitsText n)

/-- The value that a literal of a number stands for. -/
def ofLiteral (literal : String) : Value :=
  match Json.wholeNumber? literal with
  | some n => if fitsInt64 n then .int n else .float (Json.doubleOf literal)
  | none => .float (Json.doubleOf literal)

/-- A value from structured data; lists and objects become their text. -/
def ofJson : Json → Value
  | .null => .null
  | .bool b => .bool b
  | .number literal => ofLiteral literal
  | .string s => .string s
  | data => .string data.canonical.compact

/-- Reads a value back from structured data. A list has to hold octets. -/
def readJson? : Json → Option Value
  | .null => some .null
  | .bool b => some (.bool b)
  | .number literal => some (ofLiteral literal)
  | .string s => some (.string s)
  | .array items => (items.mapM (Json.asNatBelow? 256)).map fun ns => .bytes (ns.map UInt8.ofNat)
  | .object _ => none

/-- A value as structured data. -/
def toJson : Value → Json
  | .null => .null
  | .bool b => .bool b
  | .int n => Json.ofInt n
  | .float x => Json.ofDouble x
  | .string s => .string s
  | .bytes octets => .array (octets.map fun o => Json.ofNat o.toNat)

/-- Whether the value is the null value. -/
def isNull (v : Value) : Bool :=
  v == .null

/-- The text of a string. -/
def asString? : Value → Option String
  | .string s => some s
  | _ => none

/-- An unsigned number: a whole number that is not negative, or a string that writes one. -/
def asNat? : Value → Option Nat
  | .int n => if 0 ≤ n then some n.toNat else none
  | .string s => Decimal.readBelow? UInt64.size s.toList
  | _ => none

/-- The value in a message. -/
def display : Value → String
  | .null => "NULL"
  | .bool b => if b then "true" else "false"
  | .int n => if n < 0 then "-" ++ Decimal.digitsText n.natAbs else Decimal.digitsText n.natAbs
  | .float x => Decimal.Layout.plain.write x
  | .string s => s
  | .bytes octets => "<" ++ Decimal.digitsText octets.length ++ " bytes>"

end Value

end SqlGateway
