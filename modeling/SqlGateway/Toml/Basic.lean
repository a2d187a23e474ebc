import SqlGateway.Toml.Datetime
import SqlGateway.Decimal.Read

/-!
# TOML Values

The values of a TOML document. A table remembers how it came about, because that decides who
may add to it, and keeps its entries in ascending order of their keys. An array remembers
whether it grows with each header of its name.
-/

namespace SqlGateway.Toml

/-- How a table came about. -/
inductive Origin where
  /-- It has a header of its own, or is the document. -/
  | header
  /-- It is above a table that has a header. -/
  | path
  /-- It is above a value that has a dotted key. -/
  | dotted
  /-- It is written in braces. -/
  | braces
  deriving DecidableEq, Repr

/-- A value of a document. -/
inductive Value where
  | string (s : String)
  | integer (n : Int)
  | float (x : Decimal.Double)
  | boolean (b : Bool)
  | datetime (d : Datetime)
  | array (growing : Bool) (items : List Value)
  | table (origin : Origin) (entries : List (String × Value))
  deriving Repr, Inhabited

/-- The entries of a table, in ascending order of their keys. -/
abbrev Entries := List (String × Value)

namespace Entries

/-- The value of a key. -/
def get? (key : String) (t : Entries) : Option Value :=
  (t.find? fun e => e.1 == key).map Prod.snd

/-- Sets the value of a key. -/
def put (key : String) (v : Value) : Entries → Entries
  | [] => [(key, v)]
  | e :: rest =>
    if key < e.1 then (key, v) :: e :: rest
    else if key = e.1 then (key, v) :: rest
    else e :: put key v rest

/-! ### Dotted keys -/

/-- Adds a value under a dotted key. The tables on the way are made if they are missing;
only tables that came about like that may be added to, and no key has two values. -/
def add (v : Value) : List String → Entries → Option Entries
  | [], _ => none
  | [key], t => if (t.get? key).isSome then none else some (t.put key v)
  | key :: next :: keys, t =>
    match t.get? key with
    | none => (add v (next :: keys) []).map fun u => t.put key (.table .dotted u)
    | some (.table origin u) =>
      if origin = .dotted ∨ (origin = .path ∧ keys ≠ []) then
        (add v (next :: keys) u).map fun u => t.put key (.table origin u)
      else none
    | some (.array true items) =>
      match items.getLast? with
      | some (.table origin u) =>
        if keys = [] then none
        else (add v (next :: keys) u).map fun u =>
          t.put key (.array true (items.dropLast ++ [.table origin u]))
      | _ => none
    | some _ => none

/-! ### Headers -/

/-- Changes the table at a path of headers: the tables on the way are made if they are
missing, and of an array that grows the last table is meant. -/
def change (f : Entries → Option Entries) : List String → Entries → Option Entries
  | [], t => f t
  | key :: keys, t =>
    match t.get? key with
    | none => (change f keys []).map fun u => t.put key (.table .path u)
    | some (.table origin u) =>
      if origin = .braces then none
      else (change f keys u).map fun u => t.put key (.table origin u)
    | some (.array true items) =>
      match items.getLast? with
      | some (.table origin u) => (change f keys u).map fun u =>
          t.put key (.array true (items.dropLast ++ [.table origin u]))
      | _ => none
    | some _ => none

/-- Opens a table by its header: a new one, or one that so far was only on the way to
another. -/
def openTable (key : String) (t : Entries) : Option Entries :=
  match t.get? key with
  | none => some (t.put key (.table .header []))
  | some (.table .path u) => some (t.put key (.table .header u))
  | some _ => none

/-- Opens the next table of an array by its header. -/
def openItem (key : String) (t : Entries) : Option Entries :=
  match t.get? key with
  | none => some (t.put key (.array true [.table .header []]))
  | some (.array true items) => some (t.put key (.array true (items ++ [.table .header []])))
  | some _ => none

end Entries

end SqlGateway.Toml
