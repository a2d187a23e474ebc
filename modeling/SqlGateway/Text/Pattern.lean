import SqlGateway.Text.Blank
import SqlGateway.Text.WordChar

/-!
# Finding Phrases

The gateway looks for phrases: words in any letter case with blanks between them, and names
after them. A recogniser is tried at a place of a text, given the character before it, and
gives what it found and the text that is left. `findAll` tries it at every place from the
left and goes on behind each find; `findSome?` stops at the first.
-/

namespace SqlGateway.Text

/-- A recogniser: from the character before a place and the text from there on, what was
found and the text after it. -/
abbrev Recogniser (α : Type) := Option Char → List Char → Option (α × List Char)

/-- All finds of a recogniser, none overlapping another. The number tells how many
characters belong to the last find. -/
def findAllFrom {α : Type} (r : Recogniser α) (before : Option Char) (skip : Nat) :
    List Char → List α
  | [] => []
  | c :: rest =>
    match skip with
    | n + 1 => findAllFrom r (some c) n rest
    | 0 =>
      match r before (c :: rest) with
      | some (found, after) => found :: findAllFrom r (some c) (rest.length - after.length) rest
      | none => findAllFrom r (some c) 0 rest

/-- All finds of a recogniser in a text. -/
def findAll {α : Type} (r : Recogniser α) (cs : List Char) : List α :=
  findAllFrom r none 0 cs

/-- The first find of a recogniser, given the character before the text. -/
def findFrom? {α : Type} (r : Recogniser α) (before : Option Char) : List Char → Option α
  | [] => none
  | c :: rest =>
    match r before (c :: rest) with
    | some (found, _) => some found
    | none => findFrom? r (some c) rest

/-- Whether a recogniser finds something in a text. -/
def isFound {α : Type} (r : Recogniser α) (cs : List Char) : Bool :=
  (findFrom? r none cs).isSome

/-! ### Parts of phrases -/

/-- Whether a character is the given capital letter in some case. The long s and the Kelvin
sign are forms of two letters. -/
def sameLetter (capital c : Char) : Bool :=
  c.toUpper == capital || (capital == 'S' && c == 'ſ') || (capital == 'K' && c == '\u212a')

/-- What follows a word, given in capitals, at the front of a text. -/
def dropLetters? : List Char → List Char → Option (List Char)
  | [], cs => some cs
  | _ :: _, [] => none
  | w :: ws, c :: cs => if sameLetter w c then dropLetters? ws cs else none

/-- What follows a word at the front of a text, in any letter case. -/
def dropWord? (word : String) (cs : List Char) : Option (List Char) :=
  dropLetters? word.toList cs

/-- What follows at least one blank. -/
def dropBlanks? : List Char → Option (List Char)
  | [] => none
  | c :: rest => if isBlank c then some (rest.dropWhile isBlank) else none

/-- What follows a word and the blanks after it, of which there has to be one. -/
def dropWordGap? (word : String) (cs : List Char) : Option (List Char) := do
  dropBlanks? (← dropWord? word cs)

/-- What follows a word and the blanks after it if they are there, else the text. -/
def dropWordGap (word : String) (cs : List Char) : List Char :=
  (dropWordGap? word cs).getD cs

/-- What follows the first of several words that stands at the front with blanks after it. -/
def dropOneOfGap? (words : List String) (cs : List Char) : Option (List Char) :=
  words.findSome? fun w => dropWordGap? w cs

/-- Whether a character can stand in a name. -/
def isNameChar (c : Char) : Bool :=
  isWordChar c || c == '$'

/-- A name at the front of a text, and what follows it. -/
def takeName? (cs : List Char) : Option (List Char × List Char) :=
  let name := cs.takeWhile isNameChar
  if name.isEmpty then none else some (name, cs.dropWhile isNameChar)

end SqlGateway.Text
