import SqlGateway.Json.Basic

/-!
# Reading Structured Data

A text is first cut into lexemes; a machine with a stack of open lists and objects then
builds the value. Reading is strict: no comments, no trailing commas, no unescaped control
characters, surrogate escapes only in pairs, no number that is too large for a double, and
no more than `maxDepth` open brackets at a time.
-/

namespace SqlGateway.Json

open Text

/-- A lexeme of the data format. -/
inductive Lexeme where
  | openArray
  | closeArray
  | openObject
  | closeObject
  | comma
  | colon
  /-- A string, a number, a truth value or `null`. -/
  | scalar (value : Json)
  deriving Repr, Inhabited

/-! ### Strings -/

/-- The value of a hexadecimal digit. -/
def hexValue? (c : Char) : Option Nat :=
  if c.isDigit then some (c.toNat - 48)
  else if 'a' ≤ c ∧ c ≤ 'f' then some (c.toNat - 87)
  else if 'A' ≤ c ∧ c ≤ 'F' then some (c.toNat - 55)
  else none

/-- The value of four hexadecimal digits. -/
def hexFour? (a b c d : Char) : Option Nat := do
  return ((← hexValue? a) * 16 + (← hexValue? b)) * 256 + (← hexValue? c) * 16 + (← hexValue? d)

/-- The character that a simple escape stands for. -/
def simpleEscape? : Char → Option Char
  | '"' => some '"'
  | '\\' => some '\\'
  | '/' => some '/'
  | 'b' => some (Char.ofNat 8)
  | 'f' => some (Char.ofNat 12)
  | 'n' => some '\n'
  | 'r' => some '\r'
  | 't' => some '\t'
  | _ => none

/-- Reads a string from after its opening quote: its sixteen-bit units and characters, as
numbers, with `true` for a unit that was escaped, and the text after the closing quote. -/
def readUnits : List Char → Option (List (Bool × Nat) × List Char)
  | [] => none
  | '"' :: rest => some ([], rest)
  | '\\' :: 'u' :: a :: b :: c :: d :: rest => do
    let unit ← hexFour? a b c d
    let (units, after) ← readUnits rest
    return ((true, unit) :: units, after)
  | '\\' :: c :: rest => do
    let escaped ← simpleEscape? c
    let (units, after) ← readUnits rest
    return ((false, escaped.toNat) :: units, after)
  | c :: rest =>
    if c == '\\' || c.toNat < 0x20 then none
    else do
      let (units, after) ← readUnits rest
      return ((false, c.toNat) :: units, after)

/-- Joins surrogate pairs; a surrogate that stands alone is refused. -/
def joinUnits : List (Bool × Nat) → Option (List Char)
  | [] => some []
  | (true, u) :: rest =>
    if 0xD800 ≤ u ∧ u < 0xDC00 then
      match rest with
      | (true, v) :: rest' =>
        if 0xDC00 ≤ v ∧ v < 0xE000 then
          (joinUnits rest').map (Char.ofNat (0x10000 + (u - 0xD800) * 0x400 + (v - 0xDC00)) :: ·)
        else none
      | _ => none
    else if 0xDC00 ≤ u ∧ u < 0xE000 then none
    else (joinUnits rest).map (Char.ofNat u :: ·)
  | (false, u) :: rest => (joinUnits rest).map (Char.ofNat u :: ·)

/-! ### Numbers and words -/

/-- Whether a character can occur in a number. -/
def isNumberChar (c : Char) : Bool :=
  c.isDigit || c == '-' || c == '+' || c == '.' || c == 'e' || c == 'E'

/-- Whether a text has the form of a number: no needless leading zero, digits on both sides
of a point, and a size that a double can hold. -/
def isNumber (cs : List Char) : Bool :=
  let unsigned := match cs with
    | '-' :: rest => rest
    | _ => cs
  let whole := unsigned.takeWhile Char.isDigit
  let rest := unsigned.dropWhile Char.isDigit
  let wholeOk := match whole with
    | [] => false
    | ['0'] => true
    | c :: _ => c != '0'
  let (placesOk, tail) := match rest with
    | '.' :: after => (!(after.takeWhile Char.isDigit).isEmpty, after.dropWhile Char.isDigit)
    | _ => (true, rest)
  wholeOk && placesOk && (Decimal.readExponent? tail).isSome &&
    (Decimal.readDouble? cs).any Decimal.Double.isFinite

/-- The word values. -/
def wordValue? (cs : List Char) : Option Json :=
  if cs == "null".toList then some .null
  else if cs == "true".toList then some (.bool true)
  else if cs == "false".toList then some (.bool false)
  else none

/-! ### Lexemes -/

/-- Whether a character is blank between lexemes. -/
def isSpace (c : Char) : Bool :=
  c == ' ' || c == '\n' || c == '\t' || c == '\r'

/-- Reads one lexeme that starts with `c`, if there is one, and gives the text after it. -/
def nextLexeme? (c : Char) (rest : List Char) : Option (Lexeme × List Char) :=
  match c with
  | '[' => some (.openArray, rest)
  | ']' => some (.closeArray, rest)
  | '{' => some (.openObject, rest)
  | '}' => some (.closeObject, rest)
  | ',' => some (.comma, rest)
  | ':' => some (.colon, rest)
  | '"' => do
    let (units, after) ← readUnits rest
    let chars ← joinUnits units
    return (.scalar (.string (String.ofList chars)), after)
  | c =>
    if c == '-' || c.isDigit then
      let text := c :: rest.takeWhile isNumberChar
      if isNumber text then
        some (.scalar (.number (String.ofList text)), rest.dropWhile isNumberChar)
      else none
    else do
      let value ← wordValue? (c :: rest.takeWhile Char.isAlpha)
      return (.scalar value, rest.dropWhile Char.isAlpha)

/-- Cuts a text into lexemes. A lexeme that would not shorten the text is refused, so the
reading ends. -/
def lexemes? (cs : List Char) : Option (List Lexeme) :=
  match cs with
  | [] => some []
  | c :: rest =>
    if isSpace c then lexemes? rest
    else
      match nextLexeme? c rest with
      | none => none
      | some (lexeme, after) =>
        if _h : after.length ≤ rest.length then (lexemes? after).map (lexeme :: ·) else none
termination_by cs.length

/-! ### Building the value -/

/-- An open list or object: what it holds so far, the last first. -/
inductive Frame where
  | array (items : List Json)
  | object (members : List (String × Json)) (key : String)
  deriving Repr, Inhabited

/-- What the machine waits for. -/
inductive Expect where
  /-- A value. -/
  | value
  /-- A value or the end of a list. -/
  | item
  /-- A key. -/
  | key
  /-- A key or the end of an object. -/
  | member
  /-- The colon after a key. -/
  | colon (key : String)
  /-- What follows a complete value. -/
  | after (value : Json)
  deriving Repr, Inhabited

/-- The number of brackets that may be open at a time. -/
def maxDepth : Nat := 127

/-- Takes one lexeme: the stack and the expectation after it. -/
def step? (stack : List Frame) : Expect → Lexeme → Option (List Frame × Expect)
  | .value, .scalar v | .item, .scalar v => some (stack, .after v)
  | .value, .openArray | .item, .openArray =>
    if stack.length < maxDepth then some (.array [] :: stack, .item) else none
  | .value, .openObject | .item, .openObject =>
    if stack.length < maxDepth then some (.object [] "" :: stack, .member) else none
  | .item, .closeArray => some (stack.drop 1, .after (.array []))
  | .key, .scalar (.string k) | .member, .scalar (.string k) => some (stack, .colon k)
  | .member, .closeObject => some (stack.drop 1, .after (.object []))
  | .colon k, .colon =>
    match stack with
    | .object members _ :: below => some (.object members k :: below, .value)
    | _ => none
  | .after v, .comma =>
    match stack with
    | .array items :: below => some (.array (v :: items) :: below, .value)
    | .object members k :: below => some (.object ((k, v) :: members) k :: below, .key)
    | [] => none
  | .after v, .closeArray =>
    match stack with
    | .array items :: below => some (below, .after (.array (v :: items).reverse))
    | _ => none
  | .after v, .closeObject =>
    match stack with
    | .object members k :: below =>
      some (below, .after (.object ((k, v) :: members).reverse))
    | _ => none
  | _, _ => none

/-- Runs the machine to the end of the lexemes. -/
def build? (stack : List Frame) (expect : Expect) : List Lexeme → Option Json
  | [] =>
    match stack, expect with
    | [], .after v => some v
    | _, _ => none
  | lexeme :: lexemes =>
    match step? stack expect lexeme with
    | none => none
    | some (stack', expect') => build? stack' expect' lexemes

/-- Reads a value from a text that holds nothing else. -/
def read? (text : String) : Option Json := do
  build? [] .value (← lexemes? text.toList)

end SqlGateway.Json
