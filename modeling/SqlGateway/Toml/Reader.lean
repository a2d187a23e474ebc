import SqlGateway.Toml.Lexeme

/-!
# Reading TOML Documents

A document is a sequence of statements, one on a line: a header opens a table or the next
table of an array, and a pair adds a value to the open table. Reading is all or nothing.
Arrays and tables in braces may be nested `nestingLimit` deep, and a dotted key may have as
many parts.
-/

namespace SqlGateway.Toml

/-- How deep values may be nested and how many parts a key may have. -/
def nestingLimit : Nat := 79

/-! ### Scalars -/

/-- Digits with single underscores between them, without these. -/
def joinDigits? (isDigit : Char → Bool) : List Char → Option (List Char)
  | [] => none
  | [c] => if isDigit c then some [c] else none
  | c :: '_' :: rest => if isDigit c then (joinDigits? isDigit rest).map (c :: ·) else none
  | c :: rest => if isDigit c then (joinDigits? isDigit rest).map (c :: ·) else none

/-- The sign of a number, and the text after it. -/
def cutSign : List Char → List Char × List Char
  | '+' :: rest => (['+'], rest)
  | '-' :: rest => (['-'], rest)
  | cs => ([], cs)

/-- Decimal digits that may stand before the point: no needless zero in front. -/
def wholeDigits? (cs : List Char) : Option (List Char) :=
  if cs.head? = some '0' ∧ cs ≠ ['0'] then none else joinDigits? Char.isDigit cs

/-- Reads an integer in a base that is a power of two. -/
def readInBase? (base : Nat) (cs : List Char) : Option Value := do
  let value? (c : Char) : Option Nat :=
    (if c.isDigit then some (c.toNat - 48)
      else if 'a' ≤ c.toLower ∧ c.toLower ≤ 'f' then some (c.toLower.toNat - 87)
      else none).filter (· < base)
  let digits ← joinDigits? (fun c => (value? c).isSome) cs
  let n := digits.foldl (fun n c => n * base + (value? c).getD 0) 0
  if n < 0x8000000000000000 then some (.integer n) else none

/-- Reads an integer of sixty-four bits. -/
def readInteger? (cs : List Char) : Option Value :=
  match cs with
  | '0' :: 'x' :: digits => readInBase? 16 digits
  | '0' :: 'o' :: digits => readInBase? 8 digits
  | '0' :: 'b' :: digits => readInBase? 2 digits
  | _ => do
    let (sign, rest) := cutSign cs
    let digits ← wholeDigits? rest
    (Decimal.readInt64? (sign ++ digits)).map .integer

/-- Reads an exponent: nothing, or a letter `e`, an optional sign and digits. -/
def exponent? (cs : List Char) : Option (List Char) := do
  match cs with
  | [] => some []
  | e :: rest =>
    if e = 'e' ∨ e = 'E' then
      let (sign, rest) := cutSign rest
      let digits ← joinDigits? Char.isDigit rest
      some ('e' :: sign ++ digits)
    else none

/-- Reads a floating-point number that has a point or an exponent. One that is too large is
refused, unless it is negative. -/
def readFloat? (cs : List Char) : Option Value := do
  let (sign, rest) := cutSign cs
  let isExponent (c : Char) : Bool := c == 'e' || c == 'E'
  let number := rest.takeWhile (!isExponent ·)
  let whole ← wholeDigits? (number.takeWhile (· != '.'))
  let places ← match number.dropWhile (· != '.') with
    | [] => if rest.any isExponent then some [] else none
    | _ :: digits => (joinDigits? Char.isDigit digits).map ('.' :: ·)
  let exponent ← exponent? (rest.dropWhile (!isExponent ·))
  let x ← Decimal.readDouble? (sign ++ whole ++ places ++ exponent)
  if x.isInfinite && !x.isNegative then none else some (.float x)

/-- Reads a word that stands for a number. -/
def readSpecialFloat? (cs : List Char) : Option Value :=
  let (_, rest) := cutSign cs
  if rest = ['i', 'n', 'f'] ∨ rest = ['n', 'a', 'n'] then
    (Decimal.readDouble? cs).map .float
  else none

/-- Reads a value without quotes and brackets. -/
def readScalar? (cs : List Char) : Option Value :=
  if cs = "true".toList then some (.boolean true)
  else if cs = "false".toList then some (.boolean false)
  else
    ((readDatetime? cs).map Value.datetime).or
      ((readFloat? cs).or ((readInteger? cs).or (readSpecialFloat? cs)))

/-- The text of a lexeme that may be part of a scalar. -/
def Lexeme.scalarText? : Lexeme → Option (List Char)
  | .word text => some text
  | .mark c => if c = '.' ∨ c = '+' ∨ c = ':' then some [c] else none
  | _ => none

/-- The text of the scalar that starts here, and the lexemes after it. -/
def cutScalar : List Lexeme → List Char × List Lexeme
  | [] => ([], [])
  | l :: rest =>
    match l.scalarText? with
    | some text =>
      let (more, after) := cutScalar rest
      (text ++ more, after)
    | none => ([], l :: rest)

/-- Reads a scalar. A single space may stand between a date and a time. -/
def takeScalar? (ls : List Lexeme) : Option (Value × List Lexeme) :=
  let (text, after) := cutScalar ls
  let alone := (readScalar? text).map (·, after)
  match after with
  | .blank [' '] :: rest =>
    let (clock, after) := cutScalar rest
    if (readDate? text).isSome then
      match readDatetime? (text ++ ' ' :: clock) with
      | some d => some (.datetime d, after)
      | none => alone
    else alone
  | _ => alone

/-! ### Keys -/

/-- Drops blanks. -/
def skipBlanks : List Lexeme → List Lexeme
  | .blank _ :: rest => skipBlanks rest
  | ls => ls

/-- Drops blanks and line ends. -/
def skipLines : List Lexeme → List Lexeme
  | .blank _ :: rest => skipLines rest
  | .lineEnd :: rest => skipLines rest
  | ls => ls

/-- Reads the parts of a key, blanks around them included; `wanted` says that a part comes
next and not a point. -/
def keyParts? (wanted : Bool) : List Lexeme → Option (List String × List Lexeme)
  | .blank _ :: rest => keyParts? wanted rest
  | .word text :: rest =>
    if wanted then (keyParts? false rest).map fun (parts, after) =>
      (String.ofList text :: parts, after)
    else none
  | .quoted false text :: rest =>
    if wanted then (keyParts? false rest).map fun (parts, after) => (text :: parts, after)
    else none
  | .mark '.' :: rest => if wanted then none else keyParts? true rest
  | ls => if wanted then none else some ([], ls)

/-- Reads a key, which has at least one part. -/
def takeKey? (ls : List Lexeme) : Option (List String × List Lexeme) :=
  (keyParts? true ls).filter fun (parts, _) => parts.length ≤ nestingLimit

/-! ### Values -/

mutual

/-- Reads a value. Each step uses up some of the first number, which bounds the lexemes that
are looked at; `depth` is how deep the value may be nested. -/
def takeValue? (steps depth : Nat) (ls : List Lexeme) : Option (Value × List Lexeme) :=
  match steps with
  | 0 => none
  | steps + 1 =>
    match ls with
    | .quoted _ text :: rest => some (.string text, rest)
    | .mark '[' :: rest =>
      if depth = 0 then none else takeItems? steps (depth - 1) [] (skipLines rest)
    | .mark '\x7b' :: rest =>
      if depth = 0 then none
      else
        match skipBlanks rest with
        | .mark '\x7d' :: rest => some (.table .braces [], rest)
        | rest => takePairs? steps (depth - 1) [] rest
    | ls => takeScalar? ls

/-- Reads the items of an array that are left, given those before them in reverse. -/
def takeItems? (steps depth : Nat) (items : List Value) (ls : List Lexeme) :
    Option (Value × List Lexeme) :=
  match steps with
  | 0 => none
  | steps + 1 =>
    match ls with
    | .mark ']' :: rest => some (.array false items.reverse, rest)
    | ls => do
      let (item, rest) ← takeValue? steps depth ls
      match skipLines rest with
      | .mark ',' :: rest => takeItems? steps depth (item :: items) (skipLines rest)
      | .mark ']' :: rest => some (.array false (item :: items).reverse, rest)
      | _ => none

/-- Reads the pairs of a table in braces that are left, given the entries so far. -/
def takePairs? (steps depth : Nat) (entries : Entries) (ls : List Lexeme) :
    Option (Value × List Lexeme) :=
  match steps with
  | 0 => none
  | steps + 1 => do
    let (key, rest) ← takeKey? ls
    match rest with
    | .mark '=' :: rest =>
      let (v, rest) ← takeValue? steps depth (skipBlanks rest)
      let entries ← Entries.add v key entries
      match skipBlanks rest with
      | .mark ',' :: rest => takePairs? steps depth entries (skipBlanks rest)
      | .mark '\x7d' :: rest => some (.table .braces entries, rest)
      | _ => none
    | _ => none

end

/-! ### Statements -/

/-- A document that is being read: its entries, and the header of the open table. -/
structure Draft where
  entries : Entries
  header : List String
  deriving Repr

/-- Reads a header after its brackets, which as many brackets close. -/
def takeHeader? (brackets : Nat) (enter : String → Entries → Option Entries) (d : Draft)
    (ls : List Lexeme) : Option (Draft × List Lexeme) := do
  let (key, rest) ← takeKey? ls
  let last ← key.getLast?
  let closing ← (rest.take brackets).mapM fun
    | .mark ']' => some ()
    | _ => none
  if closing.length ≠ brackets then none
  let entries ← Entries.change (enter last) key.dropLast d.entries
  some (⟨entries, key⟩, rest.drop brackets)

/-- Reads a statement. -/
def takeStatement? (d : Draft) (ls : List Lexeme) : Option (Draft × List Lexeme) :=
  match ls with
  | .mark '[' :: .mark '[' :: rest => takeHeader? 2 Entries.openItem d rest
  | .mark '[' :: rest => takeHeader? 1 Entries.openTable d rest
  | ls => do
    let (key, rest) ← takeKey? ls
    match rest with
    | .mark '=' :: rest =>
      let rest := skipBlanks rest
      let (v, rest) ← takeValue? (2 * rest.length + 1) nestingLimit rest
      let entries ← Entries.change (Entries.add v key) d.header d.entries
      some (⟨entries, d.header⟩, rest)
    | _ => none

/-- Reads statements, each on a line of its own; `steps` bounds their number. -/
def takeStatements? (steps : Nat) (d : Draft) (ls : List Lexeme) : Option Draft :=
  match steps with
  | 0 => none
  | steps + 1 =>
    match skipLines ls with
    | [] => some d
    | ls => do
      let (d, rest) ← takeStatement? d ls
      match skipBlanks rest with
      | [] => some d
      | .lineEnd :: rest => takeStatements? steps d rest
      | _ => none

/-- Reads a document: its entries, in ascending order of their keys. -/
def read? (text : String) : Option Entries := do
  let cs := match text.toList with
    | '\uFEFF' :: rest => rest
    | cs => cs
  let ls ← lex? cs
  (takeStatements? (ls.length + 1) ⟨[], []⟩ ls).map (·.entries)

end SqlGateway.Toml
