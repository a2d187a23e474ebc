import SqlGateway.Error
import SqlGateway.Query.Value
import SqlGateway.Sql.Quoted
import SqlGateway.Text.NameMap

/-!
# Placeholders

A statement is sent with `?` placeholders only. Named placeholders, written `%(name)s` or
`:name`, are replaced by `?` in the order in which they stand, and the values are laid out
to match; a name may occur more than once. Nothing inside quotes is a placeholder.

`parts` divides a statement into text and placeholders; `Part.source_parts` says that the
division loses nothing.
-/

namespace SqlGateway.Query

/-- A part of a statement with placeholders. -/
inductive Part where
  /-- Text that is sent as it stands. -/
  | text (chars : List Char)
  /-- A `?`. -/
  | mark
  /-- `%(name)s` -/
  | percent (name : List Char)
  /-- `:name` -/
  | colon (name : List Char)
  deriving DecidableEq, Repr

namespace Part

/-- The text of a part. -/
def source : Part → List Char
  | text chars => chars
  | mark => ['?']
  | percent name => '%' :: '(' :: name ++ [')', 's']
  | colon name => ':' :: name

/-- The name of a named placeholder. -/
def name? : Part → Option String
  | percent name | colon name => some (String.ofList name)
  | _ => none

/-- What is sent for a part. -/
def sent : Part → List Char
  | text chars => chars
  | _ => ['?']

end Part

/-- Whether a character can start a name after a colon. -/
def isNameStart (c : Char) : Bool :=
  c.isAlpha || c == '_'

/-- Whether a character can stand in a name after a colon. -/
def isNameChar (c : Char) : Bool :=
  c.isAlphanum || c == '_'

/-- A part read from the front of a statement: the quote that is open after it, and the
text that is left. -/
structure PartStep where
  part : Part
  quote : Option Char
  rest : List Char
  deriving DecidableEq, Repr

/-- Whether a text starts with a letter or an underscore. -/
def startsName : List Char → Bool
  | [] => false
  | c :: _ => isNameStart c

/-- Whether a colon after a character can start a placeholder. -/
def allowsColon (before : Option Char) : Bool :=
  !before.any fun c => isNameChar c || c == ':'

/-- Splits the name and the end of `%(name)s` off the text after its parenthesis. -/
def splitPercent? (cs : List Char) : Option (List Char × List Char) :=
  let name := cs.takeWhile (· != ')')
  match cs.dropWhile (· != ')') with
  | ')' :: 's' :: rest => if name.isEmpty then none else some (name, rest)
  | _ => none

/-- Reads one part inside quotes. A backslash takes the next character with it, except in
backticks. -/
def nextQuotedPart (q c : Char) (rest : List Char) : PartStep :=
  if c == '\\' && q != '`' then
    match rest with
    | d :: more => ⟨.text [c, d], some q, more⟩
    | [] => ⟨.text [c], some q, []⟩
  else if c == q then ⟨.text [c], none, rest⟩
  else ⟨.text [c], some q, rest⟩

/-- Reads one part outside quotes, given the character before it. -/
def nextPlainPart (before : Option Char) (c : Char) (rest : List Char) : PartStep :=
  if Sql.isQuote c then ⟨.text [c], some c, rest⟩
  else if c == '?' then ⟨.mark, none, rest⟩
  else if c == '%' && rest.head? == some '(' then
    match splitPercent? (rest.drop 1) with
    | some (name, after) => ⟨.percent name, none, after⟩
    | none => ⟨.text [c], none, rest⟩
  else if c == ':' && startsName rest && allowsColon before then
    ⟨.colon (rest.takeWhile isNameChar), none, rest.dropWhile isNameChar⟩
  else ⟨.text [c], none, rest⟩

/-- Reads one part of a statement from its first character, given the quote that is open and
the character before. -/
def nextPart (quote before : Option Char) (c : Char) (rest : List Char) : PartStep :=
  match quote with
  | some q => nextQuotedPart q c rest
  | none => nextPlainPart before c rest

theorem eq_append_of_splitPercent? {cs name rest : List Char}
    (h : splitPercent? cs = some (name, rest)) : cs = name ++ ')' :: 's' :: rest := by
  simp only [splitPercent?] at h
  split at h
  · rename_i after heq
    split at h
    · cases h
    · cases h
      rw [← heq, List.takeWhile_append_dropWhile]
  · cases h

/-- Reading one part loses nothing. -/
theorem source_nextPart (quote before : Option Char) (c : Char) (rest : List Char) :
    (nextPart quote before c rest).part.source ++ (nextPart quote before c rest).rest
      = c :: rest := by
  unfold nextPart
  split
  · unfold nextQuotedPart
    split
    · split <;> simp [Part.source]
    · split <;> simp [Part.source]
  · unfold nextPlainPart
    split; · simp [Part.source]
    split; · rename_i h; simp [Part.source, beq_iff_eq.1 h]
    split
    · rename_i h
      simp only [Bool.and_eq_true, beq_iff_eq] at h
      cases rest with
      | nil => simp at h
      | cons d more =>
        simp only [List.head?_cons, Option.some.injEq] at h
        split
        · rename_i heq
          have := eq_append_of_splitPercent? heq
          simp only [List.drop_succ_cons, List.drop_zero] at this
          simp [Part.source, h.1, h.2, this]
        · simp [Part.source]
    split
    · rename_i h
      simp only [Bool.and_eq_true, beq_iff_eq] at h
      simp [Part.source, h.1.1, List.takeWhile_append_dropWhile]
    · simp [Part.source]

/-- A part is never empty. -/
theorem length_rest_nextPart_le (quote before : Option Char) (c : Char) (rest : List Char) :
    (nextPart quote before c rest).rest.length ≤ rest.length := by
  have hpos : 1 ≤ (nextPart quote before c rest).part.source.length := by
    unfold nextPart
    split
    · unfold nextQuotedPart
      split
      · split <;> simp [Part.source]
      · split <;> simp [Part.source]
    · unfold nextPlainPart
      split; · simp [Part.source]
      split; · simp [Part.source]
      split
      · split <;> simp [Part.source]
      split <;> simp [Part.source]
  have h := congrArg List.length (source_nextPart quote before c rest)
  simp only [List.length_append, List.length_cons] at h
  omega

/-- Divides a statement, given the open quote and the character before it. -/
def partsFrom (quote before : Option Char) (cs : List Char) : List Part :=
  match cs with
  | [] => []
  | c :: rest =>
    let step := nextPart quote before c rest
    have : step.rest.length < rest.length + 1 :=
      Nat.lt_succ_of_le (length_rest_nextPart_le quote before c rest)
    step.part :: partsFrom step.quote step.part.source.getLast? step.rest
termination_by cs.length
decreasing_by exact this

/-- The parts of a statement. -/
def parts (cs : List Char) : List Part :=
  partsFrom none none cs

/-- The parts of a text, put together, are the text. -/
theorem source_partsFrom (quote before : Option Char) (cs : List Char) :
    (partsFrom quote before cs).flatMap Part.source = cs := by
  fun_induction partsFrom quote before cs with
  | case1 => rfl
  | case2 quote before c rest step _ ih =>
    rw [List.flatMap_cons, ih]
    exact source_nextPart quote before c rest

/-- The parts of a statement, put together, are the statement. -/
theorem Part.source_parts (cs : List Char) : (parts cs).flatMap Part.source = cs :=
  source_partsFrom none none cs

/-! ### Binding -/

/-- The values for a statement. -/
inductive Params where
  | none
  /-- For the `?` placeholders from the left. -/
  | positional (values : List Value)
  /-- For the named placeholders. -/
  | named (values : Text.NameMap Value)
  deriving DecidableEq, Repr

namespace Params

/-- Whether no values are given. -/
def isEmpty : Params → Bool
  | none => true
  | positional values => values.isEmpty
  | named values => values.entries.isEmpty

end Params

/-- Why values cannot be bound. -/
inductive BindError where
  | countMismatch (placeholders values : Nat)
  /-- Names without a value, in the order in which they stand. -/
  | missing (names : List String)
  deriving DecidableEq, Repr

/-- The message of an error. -/
def BindError.message : BindError → String
  | countMismatch placeholders values =>
    "statement has " ++ Decimal.digitsText placeholders ++ " placeholders but " ++
      Decimal.digitsText values ++ " parameters were given"
  | missing names => "missing value for parameter " ++ String.intercalate ", " names

/-- The error that a caller sees. -/
def BindError.toGateway (e : BindError) : GatewayError :=
  .validation e.message

/-- A statement as it is sent, with its values. -/
structure Bound where
  sql : String
  values : List Value
  deriving DecidableEq, Repr

/-- Drops a name that equals the one before it. -/
def dropRepeats : List String → List String
  | a :: b :: rest => if a == b then dropRepeats (b :: rest) else a :: dropRepeats (b :: rest)
  | names => names

/-- The number of `?` placeholders of a statement. -/
def markCount (sql : String) : Nat :=
  (parts sql.toList).countP (· == .mark)

/-- The names of the named placeholders of a statement, in order. -/
def placeholderNames (sql : String) : List String :=
  (parts sql.toList).filterMap Part.name?

/-- Binds values to a statement. -/
def bind (params : Params) (sql : String) : Except BindError Bound :=
  match params with
  | .none => .ok ⟨sql, []⟩
  | .positional values =>
    if markCount sql = values.length then .ok ⟨sql, values⟩
    else .error (.countMismatch (markCount sql) values.length)
  | .named values =>
    let names := placeholderNames sql
    let missing := names.filter fun n => (values.get? n).isNone
    if missing.isEmpty then
      .ok ⟨String.ofList ((parts sql.toList).flatMap Part.sent), names.filterMap values.get?⟩
    else .error (.missing (dropRepeats missing))

end SqlGateway.Query
