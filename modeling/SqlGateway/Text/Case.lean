import SqlGateway.Text.CaseTable

/-!
# Letter Case

The full upper- and lower-case mappings of a text. A character may become several (`ß`
becomes `SS`), and the lower-case form of a capital sigma depends on its place: at the end
of a word it is `ς`, elsewhere `σ`. Case is ignored throughout the gateway by comparing
upper-case or lower-case forms, so these two functions decide what counts as the same
keyword, table or database.
-/

namespace SqlGateway.Text

/-- Bisection for the run that covers a code point, between two positions. -/
def CaseRuns.search (table : CaseRuns) (code lo hi : Nat) : Option Nat :=
  if lo < hi then
    let mid := (lo + hi) / 2
    match table[mid]? with
    | none => none
    | some (first, last, step, shift) =>
      if code < first then table.search code lo mid
      else if last < code then table.search code (mid + 1) hi
      else if (code - first) % step = 0 then some ((code : Int) + shift).toNat
      else none
  else none
termination_by hi - lo
decreasing_by all_goals omega

/-- Maps a character past ASCII: by its expansion if it has one, else by its run, else to
itself. -/
def mapCase (runs : CaseRuns) (expansions : CaseExpansions) (c : Char) : List Char :=
  match expansions.find? (fun entry => entry.1 == c.toNat) with
  | some (_, codes) => codes.map Char.ofNat
  | none =>
    match runs.search c.toNat 0 runs.size with
    | some code => [Char.ofNat code]
    | none => [c]

/-- The upper-case form of a character. -/
def upperChar (c : Char) : List Char :=
  if c.toNat < 0x80 then [c.toUpper] else mapCase upperRuns upperExpansions c

/-- The lower-case form of a character outside any context. -/
def lowerChar (c : Char) : List Char :=
  if c.toNat < 0x80 then [c.toLower] else mapCase lowerRuns lowerExpansions c

/-- Whether a character has a case. -/
def isCased (c : Char) : Bool :=
  if c.toNat < 0x80 then c.isAlpha else casedIntervals.holds c.toNat

/-- Whether a character is passed over when a neighbour with a case is looked for. -/
def isCaseIgnorable (c : Char) : Bool :=
  if c.toNat < 0x80 then c == '\'' || c == '.' || c == ':' || c == '^' || c.toNat == 0x60
  else caseIgnorableIntervals.holds c.toNat

/-- Whether a text goes on, after what is passed over, with a character that has a case. -/
def continuesCased (cs : List Char) : Bool :=
  match cs.dropWhile isCaseIgnorable with
  | [] => false
  | c :: _ => isCased c

/-- The upper-case form of a list of characters. -/
def upper (cs : List Char) : List Char :=
  cs.flatMap upperChar

/-- The lower-case form of a list of characters. The flag tells whether the last character
before it that is not passed over has a case: a capital sigma after such a character, and
before none, ends a word. -/
def lowerFrom (afterCased : Bool) : List Char → List Char
  | [] => []
  | c :: rest =>
    let image :=
      if c = 'Σ' then (if afterCased && !continuesCased rest then ['ς'] else ['σ'])
      else lowerChar c
    image ++ lowerFrom (if isCaseIgnorable c then afterCased else isCased c) rest

/-- The lower-case form of a list of characters. -/
def lower (cs : List Char) : List Char :=
  lowerFrom false cs

/-- The upper-case form of a string. -/
def upperString (s : String) : String :=
  String.ofList (upper s.toList)

/-- The lower-case form of a string. -/
def lowerString (s : String) : String :=
  String.ofList (lower s.toList)

theorem upper_append (a b : List Char) : upper (a ++ b) = upper a ++ upper b := by
  simp [upper]

theorem upperChar_of_ascii {c : Char} (h : c.toNat < 0x80) : upperChar c = [c.toUpper] := by
  simp [upperChar, h]

theorem lowerChar_of_ascii {c : Char} (h : c.toNat < 0x80) : lowerChar c = [c.toLower] := by
  simp [lowerChar, h]

end SqlGateway.Text
