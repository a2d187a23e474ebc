import SqlGateway.Statement.Analysis

/-!
# Statements the Tokenizer Refuses

A text with an open quote cannot be cut into tokens. It is still divided at its semicolons,
wherever they stand, so that a destructive statement cannot hide behind a broken literal, and
each piece is described from its words between blanks.
-/

namespace SqlGateway.Statement

open Text (NameSet)

/-- The verb of a piece, from its words in upper case. -/
def fallbackVerb (upper : List String) : String :=
  match upper with
  | [] => ""
  | first :: rest =>
    let verb := String.ofList (first.toList.dropWhile (· == '('))
    match verb, rest with
    | "SHOW", next :: _ => "SHOW " ++ next
    | verb, _ => verb

/-- The table that a word names after a marker, if it names one. -/
def fallbackTable? (word : String) : Option String :=
  match word.toList with
  | '(' :: _ | '\'' :: _ => none
  | chars =>
    let name := Text.lower (Text.dropEndWhile (fun c => c == ';' || c == ',' || c == ')')
      (chars.filter (· != '`')))
    if name.isEmpty || notTables.contains (String.ofList (Text.upper name)) then none
    else some (String.ofList name)

/-- The tables of a piece: the words after markers. -/
def fallbackTables : List String → List String
  | marker :: next :: rest =>
    let here :=
      if tableMarkers.contains (Text.upperString marker) then (fallbackTable? next).toList else []
    here ++ fallbackTables (next :: rest)
  | _ => []

/-- The description of a piece without semicolons. -/
def fallbackPiece (piece : List Char) : Statement :=
  let words := (Text.words piece).map String.ofList
  let upper := words.map Text.upperString
  single (fallbackVerb upper) (String.intercalate " " words) (.ofList (fallbackTables words))
    (upper.contains "WHERE") (upper.contains "LIMIT") true

/-- The descriptions of the pieces of a text that are not blank. -/
def fallbackPieces (text : List Char) : List Statement :=
  (((Text.cutAt (· == ';') text).map Text.trim).filter (!·.isEmpty)).map fallbackPiece

end SqlGateway.Statement
