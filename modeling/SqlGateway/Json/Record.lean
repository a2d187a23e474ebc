import SqlGateway.Json.Basic

/-!
# Reading Records

Records, variants and plain values out of structured data. A record is an object, or a list
of its fields in their order; members that are no fields are passed over.
-/

namespace SqlGateway.Json

/-- The fields of a record by name. -/
def record? (names : List String) : Json → Option (String → Option Json)
  | .object members => some fun name => member? name members
  | .array items =>
    if items.length ≤ names.length then
      some fun name => ((names.zip items).find? fun field => field.1 == name).map Prod.snd
    else none
  | _ => none

/-- Whether no field of a record is given twice. -/
def fieldsOnce (names : List String) : Json → Bool
  | .object members =>
    names.all fun name => (members.filter fun m => m.1 == name).length ≤ 1
  | _ => true

/-- The name of a variant without content: a string, or an object with the name as its only
key. -/
def variant? : Json → Option String
  | .string name => some name
  | .object [(name, .null)] => some name
  | _ => none

/-- A string. -/
def asString? : Json → Option String
  | .string s => some s
  | _ => none

/-- A truth value. -/
def asBool? : Json → Option Bool
  | .bool b => some b
  | _ => none

/-- A list of values. -/
def asList? : Json → Option (List Json)
  | .array items => some items
  | _ => none

/-- A list of strings. -/
def asStrings? (value : Json) : Option (List String) := do
  (← asList? value).mapM asString?

/-- A natural number below a bound. -/
def asNatBelow? (bound : Nat) : Json → Option Nat
  | .number literal =>
    match wholeNumber? literal with
    | some n => if 0 ≤ n ∧ n < bound then some n.toNat else none
    | none => none
  | _ => none

/-- An optional value: absent or `null`, or one that can be read. -/
def asOptional? {α : Type} (read? : Json → Option α) : Option Json → Option (Option α)
  | none => some none
  | some .null => some none
  | some value => (read? value).map some

end SqlGateway.Json
