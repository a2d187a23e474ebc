import SqlGateway.Sql.Comment
import SqlGateway.Statement.Fallback
import SqlGateway.Log

/-!
# From Text to Statements

`Statement.parse` describes a text of SQL. It never fails: a text without statements has a
description that is not valid, and a text that cannot be cut into tokens is described by its
words. `Statement.format` writes a text in the normal form.
-/

namespace SqlGateway.Statement

open Sql
open Text (NameSet)

/-- The first statement with the highest risk. -/
def riskiest (first : Statement) : List Statement → Statement
  | [] => first
  | s :: rest => riskiest (if first.risk.rank < s.risk.rank then s else first) rest

/-- The description of several statements together. -/
def aggregate (first : Statement) (more : List Statement) (text : String)
    (fallback : Bool) : Statement :=
  let parts := first :: more
  let model := riskiest first more
  { operation := model.operation
    category := model.category
    tables := .ofList (parts.flatMap (·.tables.names))
    hasWhere := parts.any (·.hasWhere)
    hasLimit := parts.any (·.hasLimit)
    isMulti := true
    count := parts.length
    normalized := String.intercalate "; " (parts.map (·.normalized))
    text := text
    isValid := parts.all (·.isValid)
    usedFallback := fallback
    parts := parts }

/-- The description of a text, from those of its statements. -/
def combine (statements : List Statement) (text : String) (fallback : Bool) : Statement :=
  match statements with
  | [] => empty text
  | [s] => { s with text := text }
  | first :: more => aggregate first more text fallback

/-- Describes a text of SQL. -/
def parse (sql : String) : Statement :=
  let text := stripComments sql.toList
  if (Text.trim text).isEmpty then empty sql
  else
    match tokenize text with
    | .ok tokens => combine ((splitStatements tokens).map analyze) sql false
    | .error _ => combine (fallbackPieces text) sql true

/-- Writes a text in the normal form: comments removed, single blanks, keywords in upper
case, statements joined by a semicolon and a blank. -/
def format (sql : String) : String :=
  let text := stripComments sql.toList
  match tokenize text with
  | .ok tokens =>
    String.intercalate "; " ((splitStatements tokens).map fun s => String.ofList (render s))
  | .error _ => String.intercalate " " ((Text.words text).map String.ofList)

/-- What is reported while a text is described: the failure of the tokenizer, if it fails. -/
def parseEvents (sql : String) : List Log.Event :=
  let text := stripComments sql.toList
  if (Text.trim text).isEmpty then []
  else
    match tokenize text with
    | .ok _ => []
    | .error e =>
      [⟨.debug, "mysql_gate::safety::parser", "tokenizer rejected SQL, using fallback parse",
        [Log.Field.shown "error" (e.message text)]⟩]

end SqlGateway.Statement
