import SqlGateway.Query.Result
import SqlGateway.Statement.Basic

/-!
# Stable Column Names

The server names the column of `SHOW TABLES` after the database, and calls the columns of
`DESCRIBE` `Field` and `Type`. Callers get columns with fixed names beside them; what the
server returned stays in front, unchanged.
-/

namespace SqlGateway.QueryResult

/-- How the column of `SHOW TABLES` starts, before the name of the database. -/
def tablesStart : String := "Tables_in_"

/-- The database in the name of a column, if it is a column of `SHOW TABLES`. -/
def tablesColumn? (c : Column) : Option String :=
  let name := c.name.toList
  let width := tablesStart.toList.length
  if Text.sameName (String.ofList (name.take width)) tablesStart then
    some (String.ofList (name.drop width))
  else none

/-- The first column of `SHOW TABLES` from a position on: its position, the column, and the
database. -/
def findTables? (i : Nat) : List Column → Option (Nat × Column × String)
  | [] => none
  | c :: rest =>
    match tablesColumn? c with
    | some database => some (i, c, database)
    | none => findTables? (i + 1) rest

/-- The value at a position of a row, null past its end. -/
def valueAt (i : Nat) (row : Row) : Value :=
  row[i]?.getD .null

/-- Adds `table_name` and `database`, unless there is a `table_name`. -/
def addTableColumns (r : QueryResult) : QueryResult :=
  match findTables? 0 r.columns with
  | none => r
  | some (i, column, database) =>
    if (r.columnIndex? "table_name").isSome then r
    else
      (r.pushColumn ⟨"table_name", column.dataType⟩ (valueAt i)).pushColumn
        ⟨"database", "VARCHAR"⟩ fun _ => .string database

/-- Adds `column_name` and `data_type`, unless there is a `column_name`. -/
def addFieldColumns (r : QueryResult) : QueryResult :=
  match r.columnIndex? "Field", r.columnIndex? "Type" with
  | some field, some type =>
    if (r.columnIndex? "column_name").isSome then r
    else
      (r.pushColumn ⟨"column_name", "VARCHAR"⟩ (valueAt field)).pushColumn
        ⟨"data_type", "VARCHAR"⟩ (valueAt type)
  | _, _ => r

/-- Adds the columns with fixed names to the result of a statement that inspects the server. -/
def shape (s : Statement) (r : QueryResult) : QueryResult :=
  if s.category == .metadata then
    match Text.firstWord s.operation with
    | "SHOW" => r.addTableColumns.addFieldColumns
    | "DESC" | "DESCRIBE" => r.addFieldColumns
    | _ => r
  else r

end SqlGateway.QueryResult
