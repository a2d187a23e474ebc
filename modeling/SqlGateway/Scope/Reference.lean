import SqlGateway.Sql.Comment
import SqlGateway.Text.Pattern
import SqlGateway.Text.Case
import SqlGateway.Text.NameSet

/-!
# References to Databases

Which databases a text names is read off its characters and not off its tokens, so that the
answer does not depend on the tokenizer. Comments are removed, string literals emptied,
backticks dropped and variables blanked out (`maskSql`); the rest is cut at its semicolons
and each piece is searched for the phrases that name a database.

A name before a point counts as a database unless the piece declares it as a table, an alias,
a derived table or a common table expression; but where a table is expected, or when the name
has three parts, it counts whatever the piece declares.
-/

namespace SqlGateway.Scope

open Text

/-- How a database is named. -/
inductive ReferenceKind where
  /-- As the qualifier of a table, or in `SHOW … FROM`. -/
  | qualifier
  | use
  | createDatabase
  | dropDatabase
  | alterDatabase
  deriving DecidableEq, Repr

/-- A database that a text names. -/
structure Reference where
  name : String
  kind : ReferenceKind
  /-- Whether the statement changes schema objects. -/
  inDefinition : Bool
  deriving DecidableEq, Repr

/-- The name in lower case. -/
def Reference.lowerName (r : Reference) : String :=
  lowerString r.name

/-! ### Masking -/

/-- A variable at the front of a text: one or two signs, a name, and perhaps a second name
after a point. -/
def variableName? : Recogniser Unit := fun _ cs =>
  match cs with
  | '@' :: rest => do
    let rest := match rest with
      | '@' :: more => more
      | _ => rest
    let (_, after) ← takeName? rest
    match after with
    | '.' :: more =>
      match takeName? more with
      | some (_, after') => return ((), after')
      | none => return ((), after)
    | _ => return ((), after)
  | _ => none

/-- Replaces every variable by a blank. The number tells how many characters belong to the
last variable. -/
def blankVariablesFrom (skip : Nat) : List Char → List Char
  | [] => []
  | c :: rest =>
    match skip with
    | n + 1 => blankVariablesFrom n rest
    | 0 =>
      match variableName? none (c :: rest) with
      | some (_, after) => ' ' :: blankVariablesFrom (rest.length - after.length) rest
      | none => c :: blankVariablesFrom 0 rest

/-- Replaces every variable by a blank. -/
def blankVariables (cs : List Char) : List Char :=
  blankVariablesFrom 0 cs

/-- The text that is searched: comments removed, string literals emptied, backticks dropped,
variables blanked out. -/
def maskSql (sql : String) : List Char :=
  blankVariables ((Sql.maskLiterals (Sql.stripComments sql.toList)).filter (· != '`'))

/-! ### Phrases -/

/-- Words that can follow a table name without being its alias. -/
def clauseWords : List String := [
  "WHERE", "ON", "USING", "JOIN", "INNER", "LEFT", "RIGHT", "OUTER", "CROSS", "NATURAL",
  "STRAIGHT_JOIN", "SET", "GROUP", "ORDER", "LIMIT", "HAVING", "WINDOW", "UNION", "VALUES",
  "VALUE", "SELECT", "PARTITION", "FOR", "LOCK", "INTO", "USE", "IGNORE", "FORCE", "WITH",
  "AS", "FROM", "WRITE", "READ", "LOW_PRIORITY", "DEFAULT", "CHARACTER", "COLLATE"]

/-- Whether a word is a clause word, in any letter case. -/
def isClauseWord (word : List Char) : Bool :=
  clauseWords.contains (String.ofList (upper word))

/-- Whether a place is the start of a word: there is a word boundary. -/
def atBoundary (before : Option Char) (cs : List Char) : Bool :=
  isWordBoundary before cs

/-- The first of several words at a word boundary that is a whole word. -/
def wholeWord? (words : List String) : Recogniser String := fun before cs =>
  if atBoundary before cs then
    words.findSome? fun w =>
      match dropWord? w cs with
      | some rest => if startsWord rest then none else some (w, rest)
      | none => none
  else none

/-- The words after which a table is expected. -/
def tablePosition? : Recogniser String :=
  wholeWord? ["FROM", "JOIN", "UPDATE", "INTO", "TABLE", "TABLES"]

/-- A name after an optional `AS`. -/
def aliasName? (cs : List Char) : Option (List Char × List Char) :=
  match (dropWordGap? "AS" cs).bind takeName? with
  | some r => some r
  | none => takeName? cs

/-- A table where one is expected: its name, the second name after a point if there is one,
and its alias if there is one. -/
structure TableItem where
  first : List Char
  second : Option (List Char)
  asName : Option (List Char)
  deriving DecidableEq, Repr

/-- What follows a point with optional blanks on both sides. -/
def dropPoint? (cs : List Char) : Option (List Char) :=
  match cs.dropWhile isBlank with
  | '.' :: rest => some (rest.dropWhile isBlank)
  | _ => none

/-- Reads a table with its alias and the blanks around it. -/
def tableItem? (cs : List Char) : Option (TableItem × List Char) := do
  let (first, rest) ← takeName? (cs.dropWhile isBlank)
  let (second, rest) := match (dropPoint? rest).bind takeName? with
    | some (name, after) => (some name, after)
    | none => (none, rest)
  let (asName, rest) := match (dropBlanks? rest).bind aliasName? with
    | some (name, after) => (some name, after)
    | none => (none, rest)
  return (⟨first, second, asName⟩, rest.dropWhile isBlank)

/-- Whether a character can start a name that is read as a qualifier. -/
def isQualifierStart (c : Char) : Bool :=
  c.isAlpha || c == '_' || c == '$' || c == 'ſ' || c == '\u212a'

/-- A name whose first character satisfies a test. -/
def nameFrom? (start : Char → Bool) : List Char → Option (List Char × List Char)
  | [] => none
  | c :: rest =>
    if start c then some (c :: rest.takeWhile isNameChar, rest.dropWhile isNameChar) else none

/-- A name after a point, or a star with what stands directly behind it. -/
def pointedName? (cs : List Char) : Option (List Char × List Char) := do
  nameFrom? (fun c => isQualifierStart c || c == '*') (← dropPoint? cs)

/-- A qualified name: the qualifier, and whether two more names follow it. -/
def qualified? : Recogniser (List Char × Bool) := fun before cs =>
  if atBoundary before cs then do
    let (qualifier, rest) ← nameFrom? isQualifierStart cs
    let (_, rest) ← pointedName? rest
    match pointedName? rest with
    | some (_, after) => return ((qualifier, true), after)
    | none => return ((qualifier, false), rest)
  else none

/-- The alias of what stands in parentheses, or the name of a common table expression. -/
def derivedAlias? : Recogniser (List Char) := fun before cs =>
  match cs with
  | ')' :: rest => aliasName? (rest.dropWhile isBlank)
  | _ =>
    if atBoundary before cs then do
      let (name, rest) ← takeName? cs
      let rest ← dropWord? "AS" (← dropBlanks? rest)
      match rest.dropWhile isBlank with
      | '(' :: after => return (name, after)
      | _ => none
    else none

/-- `SHOW`, its blanks and an optional `FULL` at a word boundary, and what follows. -/
def showPhrase? (before : Option Char) (cs : List Char) : Option (List Char) :=
  if atBoundary before cs then (dropWordGap? "SHOW" cs).map (dropWordGap "FULL") else none

/-- The first of several phrases of words at the front of a text, each word with blanks
after it. -/
def dropOneOfPhrases? (phrases : List (List String)) (cs : List Char) : Option (List Char) :=
  phrases.findSome? fun phrase =>
    phrase.foldl (fun rest word => rest.bind (dropWordGap? word)) (some cs)

/-- The database of `SHOW TABLES FROM` and its like. -/
def showFrom? : Recogniser (List Char) := fun before cs => do
  let rest ← showPhrase? before cs
  let rest ← dropOneOfPhrases?
    [["TABLES"], ["TABLE", "STATUS"], ["TRIGGERS"], ["EVENTS"], ["OPEN", "TABLES"]] rest
  takeName? (← dropOneOfGap? ["FROM", "IN"] rest)

/-- The database of `SHOW COLUMNS FROM table FROM` and its like. -/
def showColumnsFrom? : Recogniser (List Char) := fun before cs => do
  let rest ← showPhrase? before cs
  let rest ← dropOneOfGap? ["COLUMNS", "FIELDS", "INDEX", "INDEXES", "KEYS"] rest
  let rest ← dropOneOfGap? ["FROM", "IN"] rest
  let table := rest.takeWhile fun c => isNameChar c || c == '.'
  if table.isEmpty then none
  let rest ← dropBlanks? (rest.dropWhile fun c => isNameChar c || c == '.')
  takeName? (← dropOneOfGap? ["FROM", "IN"] rest)

/-- `SHOW DATABASES` or `SHOW SCHEMAS`. -/
def showDatabases? : Recogniser Unit := fun before cs =>
  if atBoundary before cs then do
    let rest ← dropWordGap? "SHOW" cs
    ["DATABASES", "SCHEMAS"].findSome? fun w =>
      match dropWord? w rest with
      | some after => if startsWord after then none else some ((), after)
      | none => none
  else none

/-- The database of a `USE` statement. -/
def useDatabase? (piece : List Char) : Option (List Char) := do
  let rest ← dropWordGap? "USE" (piece.dropWhile isBlank)
  return (← takeName? rest).1

/-- Drops `IF EXISTS` or `IF NOT EXISTS` with the blanks after each word, if all is there. -/
def dropExistence (cs : List Char) : List Char :=
  let tail? := do
    let rest ← dropWordGap? "IF" cs
    match (dropWordGap? "NOT" rest).bind (dropWordGap? "EXISTS") with
    | some after => return after
    | none => dropWordGap? "EXISTS" rest
  tail?.getD cs

/-- A statement about a database as a whole: what is done, and the name if one follows. -/
def databaseStatement? : Recogniser (ReferenceKind × Option (List Char)) := fun before cs =>
  if atBoundary before cs then do
    let (kind, rest) ←
      [("CREATE", ReferenceKind.createDatabase), ("DROP", .dropDatabase),
        ("ALTER", .alterDatabase)].findSome? fun (word, kind) =>
          (dropWordGap? word cs).map (kind, ·)
    let rest := dropExistence (← dropOneOfGap? ["DATABASE", "SCHEMA"] rest)
    match takeName? rest with
    | some (name, after) => return ((kind, some name), after)
    | none => return ((kind, none), rest)
  else none

/-- Whether a word after `ALTER DATABASE` is an option and no name. -/
def isDatabaseOption (word : List Char) : Bool :=
  ["DEFAULT", "CHARACTER", "CHARSET", "COLLATE", "ENCRYPTION", "READ"].contains
    (String.ofList (upper word))

/-! ### Tables and local names -/

/-- What a place where tables are expected gives: the databases that qualify a table there,
and the names that it declares, in lower case. -/
structure TablePlaces where
  databases : List (List Char)
  declared : List String
  deriving Repr

/-- The first of two lists of places, then the second. -/
def TablePlaces.append (a b : TablePlaces) : TablePlaces :=
  ⟨a.databases ++ b.databases, a.declared ++ b.declared⟩

/-- A name in lower case. -/
def localName (name : List Char) : String :=
  String.ofList (lower name)

/-- What a table in a list gives. A clause word is no alias. -/
def TableItem.places (item : TableItem) : TablePlaces :=
  let named := (item.asName.toList.filter fun a => !isClauseWord a).map localName
  match item.second with
  | some table => ⟨[item.first], localName table :: named⟩
  | none => ⟨[], localName item.first :: named⟩

/-- Whether tables can be listed with commas after a word. -/
def listsTables (marker : String) : Bool :=
  ["FROM", "TABLE", "TABLES", "UPDATE"].contains marker

/-- Reads tables after a word, as many as are listed. The number bounds the tables. -/
def listedTables (marker : String) : Nat → List Char → TablePlaces
  | 0, _ => ⟨[], []⟩
  | n + 1, cs =>
    match tableItem? cs with
    | none => ⟨[], []⟩
    | some (item, rest) =>
      if isClauseWord item.first then ⟨[], []⟩
      else
        match rest with
        | ',' :: more =>
          if listsTables marker then item.places.append (listedTables marker n more)
          else item.places
        | _ => item.places

/-- A place where tables are expected, with the text after its word. -/
def tablePlace? : Recogniser TablePlaces := fun before cs => do
  let (marker, rest) ← tablePosition? before cs
  return (listedTables marker (rest.length + 1) rest, rest)

/-- What all places of a piece give: databases in table position, and declared names. -/
def tablePlaces (piece : List Char) : TablePlaces :=
  let aliases := ((findAll derivedAlias? piece).filter fun a => !isClauseWord a).map localName
  (findAll tablePlace? piece).foldl TablePlaces.append ⟨[], aliases⟩

/-! ### References -/

/-- Whether a piece starts with a verb that changes schema objects. -/
def isDefinition (piece : List Char) : Bool :=
  match words piece with
  | [] => false
  | verb :: _ =>
    ["CREATE", "ALTER", "DROP", "TRUNCATE", "RENAME"].contains (String.ofList (upper verb))

/-- The references of one piece, in the order in which the phrases are looked for. -/
def pieceReferences (piece : List Char) : List Reference :=
  let inDefinition := isDefinition piece
  let reference (kind : ReferenceKind) (name : List Char) : Reference :=
    ⟨String.ofList name, kind, inDefinition⟩
  let uses := (useDatabase? piece).toList.map (reference .use)
  let whole := (findAll databaseStatement? piece).filterMap fun (kind, name) =>
    match name with
    | some name => if isDatabaseOption name then none else some (reference kind name)
    | none => none
  let shown := (findAll showFrom? piece ++ findAll showColumnsFrom? piece).map
    (reference .qualifier)
  let places := tablePlaces piece
  let tables := places.databases.map (reference .qualifier)
  let qualified := ((findAll qualified? piece).filter fun (name, three) =>
    three || !places.declared.contains (localName name)).map fun (name, _) =>
      reference .qualifier name
  uses ++ whole ++ shown ++ tables ++ qualified

/-- The references of a text. -/
def references (sql : String) : List Reference :=
  (cutAt (· == ';') (maskSql sql)).flatMap pieceReferences

/-- The databases that a text names, in lower case. -/
def referencedDatabases (sql : String) : NameSet :=
  .ofList ((references sql).map Reference.lowerName)

end SqlGateway.Scope
