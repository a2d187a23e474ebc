import SqlGateway.Toml.Basic

/-!
# TOML Lexemes

The lexemes of a TOML document: words of the characters that keys may have without quotes,
quoted texts, marks, blanks and line ends. Comments leave no lexeme. Numbers, dates and
truth values are words with marks between them.
-/

namespace SqlGateway.Toml

/-- A lexeme. -/
inductive Lexeme where
  | word (text : List Char)
  /-- A text in quotes; only a text on one line can be a key. -/
  | quoted (lines : Bool) (text : String)
  | mark (c : Char)
  | blank (text : List Char)
  | lineEnd
  deriving Repr

/-- Whether a character may stand in a key without quotes. -/
def isWordChar (c : Char) : Bool :=
  c.isAlphanum || c == '_' || c == '-'

/-- The characters that are lexemes of their own. -/
def isMark (c : Char) : Bool :=
  ['.', '+', ':', '=', ',', '[', ']', '\x7b', '\x7d'].contains c

/-- A space or a tab. -/
def isSpace (c : Char) : Bool :=
  c == ' ' || c == '\t'

/-- Whether a character may stand in a line of text. -/
def isLineChar (c : Char) : Bool :=
  c == '\t' || (0x20 ≤ c.toNat && c.toNat != 0x7F)

/-! ### Quoted texts -/

/-- Splits a text at the first place, escaped characters apart, where the closing quotes
stand; they are dropped. -/
def cutQuoted? (escapes : Bool) (close : List Char) :
    List Char → Option (List Char × List Char)
  | [] => none
  | '\\' :: d :: rest =>
    if escapes then
      (cutQuoted? escapes close rest).map fun (body, after) => ('\\' :: d :: body, after)
    else
      (cutQuoted? escapes close (d :: rest)).map fun (body, after) => ('\\' :: body, after)
  | c :: rest =>
    if close.isPrefixOf (c :: rest) then some ([], rest.drop (close.length - 1))
    else (cutQuoted? escapes close rest).map fun (body, after) => (c :: body, after)

theorem length_cutQuoted? {escapes : Bool} {close cs body after : List Char}
    (h : cutQuoted? escapes close cs = some (body, after)) : after.length ≤ cs.length := by
  fun_induction cutQuoted? escapes close cs generalizing body with
  | case1 => simp at h
  | case2 d rest _ ih =>
    obtain ⟨⟨b, a⟩, hb, heq⟩ := Option.map_eq_some_iff.1 h
    cases heq
    have := ih hb
    simp only [List.length_cons]
    omega
  | case3 d rest _ ih =>
    obtain ⟨⟨b, a⟩, hb, heq⟩ := Option.map_eq_some_iff.1 h
    cases heq
    have := ih hb
    simp only [List.length_cons] at this ⊢
    omega
  | case4 c rest _ _ =>
    cases h
    simp only [List.length_drop, List.length_cons]
    omega
  | case5 c rest _ _ ih =>
    obtain ⟨⟨b, a⟩, hb, heq⟩ := Option.map_eq_some_iff.1 h
    cases heq
    have := ih hb
    simp only [List.length_cons]
    omega

/-- A line end of two characters becomes one of one. -/
def normalizeLines : List Char → List Char
  | '\x0d' :: '\n' :: rest => '\n' :: normalizeLines rest
  | c :: rest => c :: normalizeLines rest
  | [] => []

/-- The character of a code in hexadecimal digits. -/
def readCode? (digits : List Char) : Option Char := do
  let n ← digits.foldlM (fun n c =>
    if c.isDigit then some (n * 16 + (c.toNat - 48))
    else if 'a' ≤ c.toLower ∧ c.toLower ≤ 'f' then some (n * 16 + (c.toLower.toNat - 87))
    else none) 0
  if h : n.isValidChar then some ⟨n.toUInt32, by
    have : n < UInt32.size := by
      rcases h with h | ⟨_, h⟩ <;> simp only [UInt32.size] <;> omega
    simpa [UInt32.isValidChar, Nat.toUInt32, UInt32.toNat_ofNat_of_lt' this] using h⟩
  else none

/-- The character that a letter after a backslash means. -/
def simpleEscape? : Char → Option Char
  | 'b' => some '\x08'
  | 't' => some '\t'
  | 'n' => some '\n'
  | 'f' => some '\x0c'
  | 'r' => some '\x0d'
  | '"' => some '"'
  | '\\' => some '\\'
  | _ => none

/-- Decodes a text with escapes. In a text of several lines a backslash at the end of a
line drops the line end and the blanks after it; `dropping` says that these are being
dropped. -/
def decode? (lines : Bool) (dropping : Bool) : List Char → Option (List Char)
  | [] => some []
  | '\\' :: 'u' :: a :: b :: c :: d :: rest => do
    let x ← readCode? [a, b, c, d]
    (decode? lines false rest).map (x :: ·)
  | '\\' :: 'U' :: a :: b :: c :: d :: e :: f :: g :: h :: rest => do
    let x ← readCode? [a, b, c, d, e, f, g, h]
    (decode? lines false rest).map (x :: ·)
  | '\\' :: c :: rest =>
    match simpleEscape? c with
    | some x => (decode? lines false rest).map (x :: ·)
    | none =>
      if lines && ((c :: rest).dropWhile isSpace).head? == some '\n' then
        decode? lines true (c :: rest)
      else none
  | c :: rest =>
    if dropping && (isSpace c || c == '\n') then decode? lines true rest
    else if isLineChar c || (lines && c == '\n') then
      (decode? lines false rest).map (c :: ·)
    else none

/-- The text between single quotes, which has no escapes. -/
def plain? (lines : Bool) (body : List Char) : Option (List Char) :=
  if body.all fun c => isLineChar c || (lines && c == '\n') then some body else none

/-- The text of a body of several lines; a line end at its start is dropped. -/
def linesText? (decode : List Char → Option (List Char)) (body : List Char) :
    Option (List Char) :=
  match normalizeLines body with
  | '\n' :: rest => decode rest
  | all => decode all

/-- The text of a body between quotes. -/
def quotedText? (quote : Char) (lines : Bool) (body : List Char) : Option String :=
  let decode := if quote = '"' then decode? lines false else plain? lines
  ((if lines then linesText? decode body else decode body)).map String.ofList

/-- Reads a text in quotes, after the first quote. Three quotes open a text of several
lines, which up to two quotes may precede the closing ones. -/
def readQuoted? (quote : Char) (cs : List Char) : Option (Lexeme × List Char) :=
  match cs with
  | a :: b :: rest =>
    if a = quote ∧ b = quote then do
      let (body, after) ← cutQuoted? (quote == '"') [quote, quote, quote] rest
      let extra := (after.take 2).takeWhile (· == quote)
      let text ← quotedText? quote true (body ++ extra)
      some (.quoted true text, after.drop extra.length)
    else do
      let (body, after) ← cutQuoted? (quote == '"') [quote] cs
      (quotedText? quote false body).map fun text => (.quoted false text, after)
  | _ => do
    let (body, after) ← cutQuoted? (quote == '"') [quote] cs
    (quotedText? quote false body).map fun text => (.quoted false text, after)

theorem length_readQuoted? {quote : Char} {cs after : List Char} {l : Lexeme}
    (h : readQuoted? quote cs = some (l, after)) : after.length ≤ cs.length := by
  unfold readQuoted? at h
  split at h
  · rename_i a b rest
    split at h
    · simp only [Option.bind_eq_bind, Option.bind_eq_some_iff] at h
      obtain ⟨⟨body, rest'⟩, hc, text, _, h⟩ := h
      simp only [Option.some.injEq, Prod.mk.injEq] at h
      have := length_cutQuoted? hc
      rw [← h.2, List.length_drop]
      simp only [List.length_cons]
      omega
    · simp only [Option.bind_eq_bind, Option.bind_eq_some_iff, Option.map_eq_some_iff] at h
      obtain ⟨⟨body, rest'⟩, hc, text, _, h⟩ := h
      simp only [Prod.mk.injEq] at h
      rw [← h.2]
      exact length_cutQuoted? hc
  · simp only [Option.bind_eq_bind, Option.bind_eq_some_iff, Option.map_eq_some_iff] at h
    obtain ⟨⟨body, rest'⟩, hc, text, _, h⟩ := h
    simp only [Prod.mk.injEq] at h
    rw [← h.2]
    exact length_cutQuoted? hc

/-! ### Lexemes -/

/-- The lexemes of a text, unless it has a character that may not stand where it is. -/
def lex? (cs : List Char) : Option (List Lexeme) :=
  match cs with
  | [] => some []
  | '\n' :: rest => (lex? rest).map (.lineEnd :: ·)
  | '\x0d' :: '\n' :: rest => (lex? rest).map (.lineEnd :: ·)
  | c :: rest =>
    if c = '#' then
      have : (rest.dropWhile isLineChar).length < (c :: rest).length :=
        Nat.lt_succ_of_le (Text.length_dropWhile_le _ rest)
      lex? (rest.dropWhile isLineChar)
    else if c = '"' ∨ c = '\'' then
      match h : readQuoted? c rest with
      | none => none
      | some (l, after) =>
        have : after.length < (c :: rest).length :=
          Nat.lt_succ_of_le (length_readQuoted? h)
        (lex? after).map (l :: ·)
    else if isMark c then (lex? rest).map (.mark c :: ·)
    else if isWordChar c then
      have : (rest.dropWhile isWordChar).length < (c :: rest).length :=
        Nat.lt_succ_of_le (Text.length_dropWhile_le _ rest)
      (lex? (rest.dropWhile isWordChar)).map (.word (c :: rest.takeWhile isWordChar) :: ·)
    else if isSpace c then
      have : (rest.dropWhile isSpace).length < (c :: rest).length :=
        Nat.lt_succ_of_le (Text.length_dropWhile_le _ rest)
      (lex? (rest.dropWhile isSpace)).map (.blank (c :: rest.takeWhile isSpace) :: ·)
    else none
termination_by cs.length
decreasing_by
  · simp
  · simp only [List.length_cons]; omega
  · exact this
  · exact this
  · simp
  · exact this
  · exact this

end SqlGateway.Toml
