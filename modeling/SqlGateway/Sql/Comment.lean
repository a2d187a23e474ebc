import SqlGateway.Sql.Quoted

/-!
# Comments

Comments are read the way the server reads them:

* `#` runs to the end of the line;
* `--` opens such a comment only before a blank, a control character or the end of the
  text; otherwise it is two minus signs, and they are written apart so that no later reader
  takes them for a comment;
* `/*` runs to the first `*/`, without nesting;
* the body of a versioned comment (`/*!50000 … */`) is executed by the server and stays.

`pieces` cuts a text into these parts, quoted sections and single characters;
`Piece.source_pieces` says that the cut loses nothing, and `stripComments` writes what is
kept of each part.
-/

namespace SqlGateway.Sql

open Text

/-- A part of a text as the server divides it. -/
inductive Piece where
  /-- A character outside quotes and comments. -/
  | plain (c : Char)
  /-- A quoted section. -/
  | quoted (quote : Char) (body : List Char) (closed : Bool)
  /-- A comment to the end of its line, without the line break. -/
  | lineComment (text : List Char)
  /-- A block comment. -/
  | blockComment (body : List Char) (closed : Bool)
  /-- The opening of a versioned comment, with its version digits. -/
  | versionOpen (digits : List Char)
  /-- The end of a versioned comment. -/
  | versionClose
  /-- A minus sign before another one, the two of which open no comment. -/
  | minus
  deriving DecidableEq, Repr

/-- The text of a piece. -/
def Piece.source : Piece → List Char
  | .plain c => [c]
  | .quoted quote body closed => quotedSource quote body closed
  | .lineComment text => text
  | .blockComment body closed => '/' :: '*' :: body ++ (if closed then ['*', '/'] else [])
  | .versionOpen digits => '/' :: '*' :: '!' :: digits
  | .versionClose => ['*', '/']
  | .minus => ['-']

/-- What stays of a piece when comments are removed. -/
def Piece.kept : Piece → List Char
  | .plain c => [c]
  | .quoted quote body closed => quotedSource quote body closed
  | .lineComment _ => []
  | .blockComment .. => [' ']
  | .versionOpen _ => [' ']
  | .versionClose => [' ']
  | .minus => ['-', ' ']

/-- Reads the body of a block comment: the text before the first `*/`, whether there is
one, and the text after it. -/
def readBlock : List Char → List Char × Bool × List Char
  | [] => ([], false, [])
  | c :: rest =>
    match c, rest with
    | '*', '/' :: after => ([], true, after)
    | _, _ =>
      let r := readBlock rest
      (c :: r.1, r.2.1, r.2.2)

/-- A character that does not end a block comment belongs to it. -/
theorem readBlock_cons {c : Char} {rest : List Char}
    (h : ¬(c = '*' ∧ ∃ after, rest = '/' :: after)) :
    readBlock (c :: rest) = (c :: (readBlock rest).1, (readBlock rest).2) := by
  rw [readBlock]
  intro after hc hrest
  exact h ⟨hc, after, hrest⟩

theorem source_readBlock (cs : List Char) :
    (readBlock cs).1 ++ (if (readBlock cs).2.1 then ['*', '/'] else []) ++ (readBlock cs).2.2
      = cs := by
  induction cs with
  | nil => rfl
  | cons c rest ih =>
    by_cases hend : c = '*' ∧ ∃ after, rest = '/' :: after
    · obtain ⟨rfl, after, rfl⟩ := hend
      rfl
    · rw [readBlock_cons hend, List.cons_append, List.cons_append, ih]

/-- Whether two minus signs open a comment, given what follows them. -/
def opensDashComment : List Char → Bool
  | [] => true
  | c :: _ => isBlank c || isControl c

/-- A piece read from the front of a text: whether a versioned comment is open after it,
and the text that is left. -/
structure PieceStep where
  piece : Piece
  versioned : Bool
  rest : List Char
  deriving DecidableEq, Repr

/-- Reads one piece from a text that starts with `c`. -/
def nextPiece (versioned : Bool) (c : Char) (rest : List Char) : PieceStep :=
  if isQuote c then
    let t := readQuoted c rest
    ⟨.quoted c t.body t.closed, versioned, t.rest⟩
  else
    match c, rest with
    | '#', rest =>
      ⟨.lineComment ('#' :: rest.takeWhile (· != '\n')), versioned,
        rest.dropWhile (· != '\n')⟩
    | '/', '*' :: '!' :: after =>
      ⟨.versionOpen (after.takeWhile Char.isDigit), true, after.dropWhile Char.isDigit⟩
    | '/', '*' :: after =>
      let r := readBlock after
      ⟨.blockComment r.1 r.2.1, versioned, r.2.2⟩
    | '*', '/' :: after =>
      if versioned then ⟨.versionClose, false, after⟩
      else ⟨.plain '*', versioned, '/' :: after⟩
    | '-', '-' :: after =>
      if opensDashComment after then
        ⟨.lineComment ('-' :: '-' :: after.takeWhile (· != '\n')), versioned,
          after.dropWhile (· != '\n')⟩
      else ⟨.minus, versioned, '-' :: after⟩
    | c, rest => ⟨.plain c, versioned, rest⟩

/-- Reading one piece loses nothing. -/
theorem source_nextPiece (versioned : Bool) (c : Char) (rest : List Char) :
    (nextPiece versioned c rest).piece.source ++ (nextPiece versioned c rest).rest
      = c :: rest := by
  unfold nextPiece
  split
  · exact quotedSource_readQuoted c rest
  · split
    · simp [Piece.source]
    · simp [Piece.source]
    · rename_i after _ _
      have h := source_readBlock after
      simp only [List.append_assoc] at h
      simp only [Piece.source, List.cons_append, List.append_assoc, List.cons.injEq, true_and]
      exact h
    · split <;> rfl
    · split <;> simp [Piece.source]
    · rfl

/-- A piece is never empty, so each reading shortens the text. -/
theorem length_rest_nextPiece_le (versioned : Bool) (c : Char) (rest : List Char) :
    (nextPiece versioned c rest).rest.length ≤ rest.length := by
  have hpos : 1 ≤ (nextPiece versioned c rest).piece.source.length := by
    unfold nextPiece
    split
    · simp [Piece.source, quotedSource]
    · split
      · simp [Piece.source]
      · simp [Piece.source]
      · simp [Piece.source]
      · split <;> simp [Piece.source]
      · split <;> simp [Piece.source]
      · simp [Piece.source]
  have h := congrArg List.length (source_nextPiece versioned c rest)
  simp only [List.length_append, List.length_cons] at h
  omega

/-- Cuts a text into pieces. The flag tells whether it starts inside a versioned comment. -/
def pieces (versioned : Bool) (cs : List Char) : List Piece :=
  match cs with
  | [] => []
  | c :: rest =>
    let step := nextPiece versioned c rest
    have : step.rest.length < rest.length + 1 :=
      Nat.lt_succ_of_le (length_rest_nextPiece_le versioned c rest)
    step.piece :: pieces step.versioned step.rest
termination_by cs.length
decreasing_by exact this

/-- The pieces of a text, put together, are the text. -/
theorem Piece.source_pieces (versioned : Bool) (cs : List Char) :
    (pieces versioned cs).flatMap Piece.source = cs := by
  fun_induction pieces versioned cs with
  | case1 => rfl
  | case2 versioned c rest step _ ih =>
    rw [List.flatMap_cons, ih]
    exact source_nextPiece versioned c rest

/-- Removes the comments from a text. Quoted sections and the bodies of versioned comments
stay; a block comment leaves a space. -/
def stripComments (cs : List Char) : List Char :=
  (pieces false cs).flatMap Piece.kept

/-- Whether the server would read more than one statement from a text: a semicolon outside
quotes and comments is followed by something other than blanks and semicolons. -/
def hasSeparator (cs : List Char) : Bool :=
  separates (stripComments cs)

end SqlGateway.Sql
