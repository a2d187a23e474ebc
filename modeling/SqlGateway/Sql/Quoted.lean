import SqlGateway.Text.Blank

/-!
# Quoted Sections

A quoted section is a string literal in single or double quotes, or an identifier in
backticks. It runs from its opening quote to the next quote of the same kind that is not
doubled; in a string literal a backslash takes the next character with it, whatever that
is. A section without a closing quote runs to the end of the text.

`segments` cuts a text without comments into its quoted sections and the single characters
between them, and `Segment.source_segments` says that the cut loses nothing. Every reader of
comment-free text that has to skip quoted material goes through this one cut, so all agree
on where a literal ends:

* `maskLiterals` empties the string literals;
* `hasSeparator` finds the first semicolon outside quotes.
-/

namespace SqlGateway.Sql

open Text

/-- Whether a character opens a quoted section. -/
def isQuote (c : Char) : Bool :=
  c == '\'' || c == '"' || c == '`'

/-- What a reader finds after an opening quote. -/
structure QuotedTail where
  /-- The text between the quotes, as written. -/
  body : List Char
  /-- Whether a closing quote was found. -/
  closed : Bool
  /-- The text after the closing quote. -/
  rest : List Char
  deriving DecidableEq, Repr

/-- Puts characters in front of the body. -/
def QuotedTail.extend (chars : List Char) (t : QuotedTail) : QuotedTail :=
  { t with body := chars ++ t.body }

/-- Reads from just after an opening quote to its closing quote. -/
def readQuoted (quote : Char) : List Char → QuotedTail
  | [] => ⟨[], false, []⟩
  | [c] => if c == quote then ⟨[], true, []⟩ else ⟨[c], false, []⟩
  | c :: d :: rest =>
    if c == '\\' && quote != '`' then (readQuoted quote rest).extend [c, d]
    else if c == quote then
      if d == quote then (readQuoted quote rest).extend [c, d] else ⟨[], true, d :: rest⟩
    else (readQuoted quote (d :: rest)).extend [c]

/-- The text of a quoted section with its quotes. -/
def quotedSource (quote : Char) (body : List Char) (closed : Bool) : List Char :=
  quote :: body ++ (if closed then [quote] else [])

/-- Reading a quoted section loses nothing. -/
theorem quotedSource_readQuoted (quote : Char) (cs : List Char) :
    quotedSource quote (readQuoted quote cs).body (readQuoted quote cs).closed ++
      (readQuoted quote cs).rest = quote :: cs := by
  fun_induction readQuoted quote cs with
  | case7 c d rest _ _ ih =>
    simp only [quotedSource, List.cons_append, List.cons.injEq, true_and] at ih
    simp only [quotedSource, QuotedTail.extend, List.cons_append, List.nil_append,
      List.cons.injEq, true_and]
    exact ih
  | _ => simp_all [quotedSource, QuotedTail.extend]

/-- What follows a quoted section is no longer than what follows its opening quote. -/
theorem length_rest_readQuoted_le (quote : Char) (cs : List Char) :
    (readQuoted quote cs).rest.length ≤ cs.length := by
  have h := congrArg List.length (quotedSource_readQuoted quote cs)
  simp only [quotedSource, List.cons_append, List.length_cons, List.length_append] at h
  omega

/-- A part of a text without comments. -/
inductive Segment where
  /-- A character outside quotes. -/
  | plain (c : Char)
  /-- A quoted section. -/
  | quoted (quote : Char) (body : List Char) (closed : Bool)
  deriving DecidableEq, Repr

/-- The text of a segment. -/
def Segment.source : Segment → List Char
  | .plain c => [c]
  | .quoted quote body closed => quotedSource quote body closed

/-- Cuts a text without comments into quoted sections and characters outside them. -/
def segments (cs : List Char) : List Segment :=
  match cs with
  | [] => []
  | c :: rest =>
    if isQuote c then
      let t := readQuoted c rest
      have : t.rest.length < rest.length + 1 :=
        Nat.lt_succ_of_le (length_rest_readQuoted_le c rest)
      .quoted c t.body t.closed :: segments t.rest
    else .plain c :: segments rest
termination_by cs.length
decreasing_by
  · exact this
  · simp

/-- The segments of a text, put together, are the text. -/
theorem Segment.source_segments (cs : List Char) :
    (segments cs).flatMap Segment.source = cs := by
  fun_induction segments cs with
  | case1 => rfl
  | case2 c rest hq t _ ih =>
    rw [List.flatMap_cons, ih]
    exact quotedSource_readQuoted c rest
  | case3 c rest hq ih => simp [ih, Segment.source]

/-! ### String literals -/

/-- Writes a segment with its string literals emptied; identifiers in backticks stay. -/
def Segment.mask : Segment → List Char
  | .plain c => [c]
  | .quoted quote body closed =>
    if quote == '`' then quotedSource quote body closed else ['\'', '\'']

/-- Replaces every string literal of a comment-free text by an empty one. -/
def maskLiterals (cs : List Char) : List Char :=
  (segments cs).flatMap Segment.mask

/-! ### Statement separators -/

/-- Whether a segment is a semicolon outside quotes. -/
def Segment.isSemicolon : Segment → Bool
  | .plain c => c == ';'
  | .quoted .. => false

/-- Whether a segment holds something other than blanks and semicolons outside quotes. -/
def Segment.isSubstance : Segment → Bool
  | .plain c => !isBlank c && c != ';'
  | .quoted .. => true

/-- Whether the first semicolon outside quotes of a comment-free text has more than blanks
and semicolons after it. -/
def separates (cs : List Char) : Bool :=
  (((segments cs).dropWhile fun s => !s.isSemicolon).drop 1).any Segment.isSubstance

end SqlGateway.Sql
