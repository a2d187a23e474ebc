import SqlGateway.Decimal.Layout
import SqlGateway.Decimal.Read

/-!
# Structured Data

Values of the JSON data format. A number keeps the text it was written with, because the
format does not bound numbers and `1`, `1.0` and `-0` are told apart by those who read them;
an object keeps its members in the order they were written, repeated keys included.
-/

namespace SqlGateway

/-- A value of the data format. -/
inductive Json where
  | null
  | bool (b : Bool)
  | number (literal : String)
  | string (s : String)
  | array (items : List Json)
  | object (members : List (String × Json))
  deriving Repr, Inhabited

namespace Json

/-- The value a member has; of several members with the same key the last one counts. -/
def member? (key : String) (members : List (String × Json)) : Option Json :=
  (members.reverse.find? fun m => m.1 == key).map Prod.snd

/-- A field of an object. -/
def get? (key : String) : Json → Option Json
  | .object members => member? key members
  | _ => none

/-- The whole number that a literal writes, if it writes one: no point, no exponent, and not
a zero with a sign. -/
def wholeNumber? (literal : String) : Option Int :=
  match literal.toList with
  | '-' :: digits =>
    if Text.isDigits digits && Text.digitsValue digits != 0 then
      some (-(Text.digitsValue digits : Int))
    else none
  | digits => if Text.isDigits digits then some (Text.digitsValue digits : Int) else none

/-- The double nearest to the number that a literal writes. -/
def doubleOf (literal : String) : Decimal.Double :=
  (Decimal.readDouble? literal.toList).getD ⟨0⟩

/-- A whole number as a value. -/
def ofInt (n : Int) : Json :=
  .number (if n < 0 then "-" ++ Decimal.digitsText n.natAbs else Decimal.digitsText n.natAbs)

/-- A natural number as a value. -/
def ofNat (n : Nat) : Json :=
  .number (Decimal.digitsText n)

/-- A double as a value; the format has no infinities, and they become `null`. -/
def ofDouble (x : Decimal.Double) : Json :=
  if x.isFinite then .number (Decimal.Layout.data.write x) else .null

/-- An optional value, `null` when absent. -/
def ofOption {α : Type} (f : α → Json) : Option α → Json
  | none => .null
  | some a => f a

/-- An optional string, `null` when absent. -/
def ofString? (s : Option String) : Json :=
  ofOption .string s

/-- A list of strings. -/
def ofStrings (strings : List String) : Json :=
  .array (strings.map .string)

end Json

end SqlGateway
