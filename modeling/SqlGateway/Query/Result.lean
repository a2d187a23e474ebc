import SqlGateway.Policy.Duration
import SqlGateway.Query.Value
import SqlGateway.Text.NameMap

/-!
# Results

Columns and rows as the driver returns them. A row usually has one value for each column,
but nothing relies on it: a record pairs columns and values as far as both go, and of two
columns with one name the later counts.
-/

namespace SqlGateway

/-- A column of a result. -/
structure Column where
  name : String
  dataType : String
  deriving DecidableEq, Repr

/-- A row of a result. -/
abbrev Row := List Value

/-- A row by the names of the columns. -/
abbrev Record := Text.NameMap Value

/-- Columns and rows. -/
structure QueryResult where
  columns : List Column
  rows : List Row
  time : Duration
  rowCount : Nat
  deriving DecidableEq, Repr

namespace QueryResult

/-- The result without columns and rows. -/
def empty : QueryResult := ⟨[], [], ⟨0, 0⟩, 0⟩

/-- A result with the given columns and rows. -/
def ofRows (columns : List Column) (rows : List Row) : QueryResult :=
  ⟨columns, rows, ⟨0, 0⟩, rows.length⟩

/-- Whether there are no rows. -/
def isEmpty (r : QueryResult) : Bool :=
  r.rows.isEmpty

/-- The position of the first column with a name, whatever the case of ASCII letters. -/
def columnIndex? (r : QueryResult) (name : String) : Option Nat :=
  r.columns.findIdx? fun c => Text.sameName c.name name

/-- Adds a column at the end of every row. -/
def pushColumn (r : QueryResult) (column : Column) (value : Row → Value) : QueryResult :=
  { r with
    columns := r.columns ++ [column]
    rows := r.rows.map fun row => row ++ [value row] }

/-- A row by the names of columns. -/
def recordOf (columns : List Column) (row : Row) : Record :=
  .ofList ((columns.map (·.name)).zip row)

/-- The rows by the names of the columns. -/
def records (r : QueryResult) : List Record :=
  r.rows.map (recordOf r.columns)

/-! ### Structured data -/

/-- The whole milliseconds that the statement took. -/
def milliseconds (r : QueryResult) : Nat :=
  r.time.total / 1000000 % UInt64.size

/-- A column as an object. -/
def columnToJson (c : Column) : Json :=
  .object [("name", .string c.name), ("data_type", .string c.dataType)]

/-- A result as an object. -/
def toJson (r : QueryResult) : Json :=
  .object [
    ("columns", .array (r.columns.map columnToJson)),
    ("rows", .array (r.rows.map fun row => .array (row.map Value.toJson))),
    ("execution_time", Json.ofNat r.milliseconds),
    ("row_count", Json.ofNat r.rowCount)]

/-- Reads a column. -/
def readColumn? (value : Json) : Option Column := do
  let names := ["name", "data_type"]
  if Json.fieldsOnce names value then
    let field ← Json.record? names value
    return ⟨← Json.asString? (← field "name"), ← Json.asString? (← field "data_type")⟩
  else none

/-- Reads a result. No field may be missing or given twice. -/
def readJson? (value : Json) : Option QueryResult := do
  let names := ["columns", "rows", "execution_time", "row_count"]
  if Json.fieldsOnce names value then
    let field ← Json.record? names value
    let columns ← (← Json.asList? (← field "columns")).mapM readColumn?
    let rows ← (← Json.asList? (← field "rows")).mapM fun row => do
      (← Json.asList? row).mapM Value.readJson?
    let millis ← Json.asNatBelow? UInt64.size (← field "execution_time")
    let count ← Json.asNatBelow? UInt64.size (← field "row_count")
    return ⟨columns, rows, ⟨millis / 1000, millis % 1000 * 1000000⟩, count⟩
  else none

end QueryResult

end SqlGateway
