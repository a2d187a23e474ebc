import SqlGateway.Sql.Token
import SqlGateway.Statement.Basic

/-!
# Reading a Statement from Its Tokens

The gateway needs the verb of a statement, the tables it names and two flags about its
clauses, and it takes them from the tokens without a grammar.

* The verb is the first word; `SHOW` is completed by the words after it, and behind a `WITH`
  clause the verb is the first main verb outside parentheses.
* A table name follows one of the words of `tableMarkers`, unless the word stands inside
  parentheses that hold an expression and no query; after `FROM` a list of tables is read.
* `EXPLAIN ANALYZE` runs the statement it explains, so a statement explained that way that
  writes rows counts as itself.
-/

namespace SqlGateway.Statement

open Sql
open Text (NameSet)

/-- The words after which a table name follows. -/
def tableMarkers : List String := ["FROM", "JOIN", "UPDATE", "INTO", "TABLE"]

/-- Unquoted words that can follow such a word without naming a table. -/
def notTables : List String :=
  ["SELECT", "WHERE", "SET", "DUAL", "OUTFILE", "DUMPFILE", "LATERAL", "VALUES"]

/-- Words that open a query after a parenthesis. -/
def queryStarts : List String := ["SELECT", "WITH", "VALUES", "TABLE"]

/-- The verbs that a `WITH` clause can stand before. -/
def mainVerbs : List String := ["SELECT", "INSERT", "UPDATE", "DELETE", "REPLACE"]

/-- The `SHOW` verbs that name no tables. -/
def tablelessVerbs : List String :=
  ["SHOW PROCESSLIST", "SHOW FULL PROCESSLIST", "SHOW VARIABLES", "SHOW STATUS",
    "SHOW DATABASES"]

/-! ### Formatting -/

/-- Writes a token in the normal form of a statement: keywords in upper case. -/
def formatToken (t : Token) : List Char :=
  match t with
  | .word value => if isKeyword value then Text.upper value else value
  | t => t.text

/-- Writes tokens with one blank where blanks stood. The flags tell whether blanks stood
before the next token, and whether there was a token before them. -/
def renderFrom (afterBlank started : Bool) : List Token → List Char
  | [] => []
  | .blank :: rest => renderFrom true started rest
  | t :: rest =>
    (if afterBlank && started then [' '] else []) ++ formatToken t ++ renderFrom false true rest

/-- Writes tokens with single blanks, none at the ends, and keywords in upper case. -/
def render (tokens : List Token) : List Char :=
  renderFrom false false tokens

/-- Cuts tokens at every semicolon. -/
def cutAtSemicolons : List Token → List (List Token)
  | [] => [[]]
  | .semicolon :: rest => [] :: cutAtSemicolons rest
  | t :: rest =>
    match cutAtSemicolons rest with
    | [] => [[t]]
    | piece :: pieces => (t :: piece) :: pieces

/-- The statements of a text as tokens; one of blanks alone is dropped. -/
def splitStatements (tokens : List Token) : List (List Token) :=
  (cutAtSemicolons tokens).filter fun piece => piece.any (· != .blank)

/-! ### The verb -/

/-- The unquoted words outside parentheses, given how many are open. -/
def topLevelWordsAt (depth : Nat) : List Token → List String
  | [] => []
  | .openParen :: rest => topLevelWordsAt (depth + 1) rest
  | .closeParen :: rest => topLevelWordsAt (depth - 1) rest
  | t :: rest =>
    match t.keyword?, depth with
    | some word, 0 => word :: topLevelWordsAt 0 rest
    | _, _ => topLevelWordsAt depth rest

/-- The unquoted words outside parentheses, in upper case. -/
def topLevelWords (body : List Token) : List String :=
  topLevelWordsAt 0 body

/-- The unquoted words at the front, up to the first other token. -/
def leadingWords : List Token → List String
  | [] => []
  | t :: rest =>
    match t.keyword? with
    | some word => word :: leadingWords rest
    | none => []

/-- The compound verb of a `SHOW` statement, from the tokens after that word. -/
def showVerb (rest : List Token) : String :=
  let words := leadingWords (rest.take 4)
  let words := match words with
    | "GLOBAL" :: more => more
    | "SESSION" :: more => more
    | _ => words
  match words with
  | "FULL" :: next :: _ => "SHOW FULL " ++ next
  | "ENGINE" :: engine :: "STATUS" :: _ => "SHOW ENGINE " ++ engine ++ " STATUS"
  | next :: _ => "SHOW " ++ next
  | [] => "SHOW"

/-- The verb of a statement, empty when it does not start with an unquoted word. -/
def verbOf (body : List Token) : String :=
  match body with
  | [] => ""
  | first :: rest =>
    match first.keyword? with
    | none => ""
    | some "SHOW" => showVerb rest
    | some "WITH" => (((topLevelWords body).drop 1).find? mainVerbs.contains).getD "WITH"
    | some word => word

/-! ### Tables -/

/-- Whether the next token is the given word. -/
def startsWith (name : String) : List Token → Bool
  | [] => false
  | t :: _ => t.isWord name

/-- Drops the next token if it is the given word. -/
def dropWord (name : String) (tokens : List Token) : List Token :=
  if startsWith name tokens then tokens.drop 1 else tokens

/-- The text of a word, quoted or not. -/
def wordText? : Token → Option (List Char)
  | .word value => some value
  | .quotedWord value => some value
  | _ => none

/-- The further parts of a dotted name, and the tokens after it. -/
def nameTail : List Token → List (List Char) × List Token
  | .period :: t :: rest =>
    match wordText? t with
    | some part =>
      let tail := nameTail rest
      (part :: tail.1, tail.2)
    | none => ([], .period :: t :: rest)
  | tokens => ([], tokens)

/-- Whether a token can begin a table name: a quoted word, or an unquoted one that is not a
variable and not one of the words that name no table. -/
def beginsTable : Token → Bool
  | .quotedWord _ => true
  | .word value =>
    !notTables.contains (String.ofList (Text.upper value)) && value.head? != some '@'
  | _ => false

/-- Reads a table name, in lower case and with its database, and gives the tokens after it.
With `refuseCall`, a name before a parenthesis is a function and no table. -/
def tableName? (refuseCall : Bool) : List Token → Option (String × List Token)
  | [] => none
  | first :: rest =>
    match wordText? first with
    | none => none
    | some head =>
      if beginsTable first then
        let tail := nameTail rest
        if refuseCall && tail.2.head? == some .openParen then none
        else
          let parts := head :: tail.1
          some (String.ofList (Text.lower (['.'].intercalate parts)), tail.2)
      else none

/-- Drops an alias: the word `AS`, and a quoted word or one that is no keyword. -/
def dropAlias (tokens : List Token) : List Token :=
  match dropWord "AS" tokens with
  | .quotedWord _ :: rest => rest
  | .word value :: rest => if isKeyword value then .word value :: rest else rest
  | rest => rest

theorem length_nameTail_le (tokens : List Token) :
    (nameTail tokens).2.length ≤ tokens.length := by
  fun_induction nameTail tokens with
  | case1 t rest part h tail ih => exact Nat.le_trans ih (by simp; omega)
  | case2 => simp
  | case3 => simp

theorem length_dropWord_le (name : String) (tokens : List Token) :
    (dropWord name tokens).length ≤ tokens.length := by
  unfold dropWord
  split <;> simp

theorem length_dropAlias_le (tokens : List Token) :
    (dropAlias tokens).length ≤ tokens.length := by
  have h := length_dropWord_le "AS" tokens
  unfold dropAlias
  split
  · rename_i heq
    rw [heq, List.length_cons] at h
    omega
  · rename_i heq
    rw [heq, List.length_cons] at h
    split
    · exact h
    · omega
  · exact h

theorem length_lt_of_tableName? {refuseCall : Bool} {tokens : List Token}
    {r : String × List Token} (h : tableName? refuseCall tokens = some r) :
    r.2.length < tokens.length := by
  cases tokens with
  | nil => simp [tableName?] at h
  | cons first rest =>
    simp only [tableName?] at h
    split at h
    · simp at h
    · split at h
      · split at h
        · simp at h
        · cases h
          exact Nat.lt_succ_of_le (length_nameTail_le rest)
      · simp at h

/-- The tables of a comma-separated list with optional aliases. -/
def tableList? (tokens : List Token) : List String :=
  match h : tableName? true tokens with
  | none => []
  | some (name, rest) =>
    match h' : dropAlias rest with
    | .comma :: more =>
      have : more.length < tokens.length := by
        have h₁ := length_lt_of_tableName? h
        have h₂ := length_dropAlias_le rest
        rw [h', List.length_cons] at h₂
        simp only at h₁
        omega
      name :: tableList? more
    | _ => [name]
termination_by tokens.length

theorem tableList?_of_none {l : List Token} (h : tableName? true l = none) :
    tableList? l = [] := by
  rw [tableList?]
  split
  · rfl
  · rename_i heq
    rw [h] at heq
    cases heq

/-- A comma behind a table goes on with the list. -/
theorem tableList?_of_comma {l rest more : List Token} {name : String}
    (h : tableName? true l = some (name, rest)) (h' : dropAlias rest = .comma :: more) :
    tableList? l = name :: tableList? more := by
  rw [tableList?]
  split
  · rename_i heq
    rw [h] at heq
    cases heq
  · rename_i heq
    rw [h] at heq
    cases heq
    split
    · rename_i heq'
      rw [h'] at heq'
      cases heq'
      rfl
    · rename_i hne
      exact absurd h' (hne more)

theorem tableList?_of_last {l rest : List Token} {name : String}
    (h : tableName? true l = some (name, rest)) (h' : ∀ more, dropAlias rest ≠ .comma :: more) :
    tableList? l = [name] := by
  rw [tableList?]
  split
  · rename_i heq
    rw [h] at heq
    cases heq
  · rename_i heq
    rw [h] at heq
    cases heq
    split
    · rename_i more heq'
      exact absurd heq' (h' more)
    · rfl

/-- Drops `IF`, `IF EXISTS` or `IF NOT EXISTS`. -/
def dropCondition (tokens : List Token) : List Token :=
  if startsWith "IF" tokens then dropWord "EXISTS" (dropWord "NOT" (tokens.drop 1)) else tokens

/-- The tables named after a marker, given the token before it and the tokens after it. In
`ON DUPLICATE KEY UPDATE` the marker names no table. A name before a parenthesis is a table
function after `FROM` and `JOIN`, and a table with its columns after the other markers. -/
def tablesAfter (before : Option Token) (marker : String) (rest : List Token) : List String :=
  if marker == "UPDATE" && before.any (Token.isWord "KEY") then []
  else
    let rest := dropCondition rest
    if marker == "FROM" then tableList? rest
    else ((tableName? (marker == "JOIN") rest).map Prod.fst).toList

/-- Whether a parenthesis opens a query, given what follows it. -/
def opensQuery : List Token → Bool
  | [] => false
  | .openParen :: _ => true
  | t :: _ => t.keyword?.any queryStarts.contains

/-- The tables named after markers. The stack holds, for each open parenthesis, whether it
opened a query; a marker counts outside parentheses and directly inside a query. -/
def markedTables (opened : List Bool) (before : Option Token) : List Token → List String
  | [] => []
  | .openParen :: rest => markedTables (opensQuery rest :: opened) (some .openParen) rest
  | .closeParen :: rest => markedTables (opened.drop 1) (some .closeParen) rest
  | t :: rest =>
    let here :=
      match t.keyword? with
      | some marker =>
        if tableMarkers.contains marker && opened.headD true then tablesAfter before marker rest
        else []
      | none => []
    here ++ markedTables opened (some t) rest

/-- The table named directly after the verb, for the verbs that allow it. -/
def directTable (operation : String) (body : List Token) : List String :=
  if ["DESC", "DESCRIBE", "TRUNCATE"].contains operation && !startsWith "TABLE" (body.drop 1) then
    ((tableName? false (body.drop 1)).map Prod.fst).toList
  else []

/-- The tables that a statement names. -/
def tablesOf (operation : String) (body : List Token) : NameSet :=
  if tablelessVerbs.contains operation ||
      (Text.dropStart? "SHOW ENGINE".toList operation.toList).isSome then .empty
  else .ofList (directTable operation body ++ markedTables [] none body)

/-! ### The description -/

/-- The description of a statement that starts with a word. -/
def describe (normalized : String) (body : List Token) : Statement :=
  let operation := verbOf body
  let words := topLevelWords body
  single operation normalized (tablesOf operation body) (words.contains "WHERE")
    (words.contains "LIMIT") false

/-- The statement behind `EXPLAIN ANALYZE`, if the tokens start that way. -/
def explained? : List Token → Option (List Token)
  | first :: second :: rest =>
    if first.isWord "EXPLAIN" && second.isWord "ANALYZE" then some rest else none
  | _ => none

theorem length_lt_of_explained? {tokens rest : List Token} (h : explained? tokens = some rest) :
    rest.length < tokens.length := by
  match tokens, h with
  | first :: second :: more, h =>
    simp only [explained?] at h
    split at h
    · cases h
      simp only [List.length_cons]
      omega
    · cases h

/-- The description of a statement, from its tokens that are no blanks. -/
def analyzeBody (normalized : String) (tokens : List Token) : Statement :=
  let body := tokens.dropWhile (· == .openParen)
  match h : explained? body with
  | some rest =>
    have : rest.length < tokens.length :=
      Nat.lt_of_lt_of_le (length_lt_of_explained? h) (Text.length_dropWhile_le _ _)
    let inner := analyzeBody normalized rest
    if inner.category == .manipulation && inner.operation != "SELECT" then inner
    else describe normalized body
  | none => describe normalized body
termination_by tokens.length

/-- The description of a statement, from its tokens. -/
def analyze (tokens : List Token) : Statement :=
  analyzeBody (String.ofList (render tokens)) (tokens.filter (· != .blank))

end SqlGateway.Statement
