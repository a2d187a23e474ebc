import SqlGateway.Sql.Quoted
import SqlGateway.Sql.Keyword
import SqlGateway.Text.Alphabetic
import SqlGateway.Text.Numeric

/-!
# Tokens

`tokenize` cuts a comment-free text into tokens. It fails only on a quoted section that has
no end or on an escape that names no character, and then says where that section starts.

* An unquoted word is made of letters, digits, `_`, `$`, `@` and any other character up to
  U+FFFF that is past ASCII; a word may start with a digit if letters follow (`1a`).
* Every run of blanks is one or more `blank` tokens, whatever the blanks were.
* Strings, in all their forms but one, end where the quoted section ends. The exception is
  `E'…'`, whose escapes are decoded.

`Token.text` writes a token back.
-/

namespace SqlGateway.Sql

open Text

/-- The forms of a string. -/
inductive StringForm where
  /-- `'…'` -/
  | single
  /-- `"…"` -/
  | double
  /-- `N'…'` -/
  | national
  /-- `E'…'`, kept with its escapes decoded -/
  | escaped
  /-- `X'…'` and `0x…` -/
  | hex
  deriving DecidableEq, Repr

/-- A token. -/
inductive Token where
  | blank
  /-- A word outside quotes. -/
  | word (value : List Char)
  /-- A word in backticks, without them. -/
  | quotedWord (value : List Char)
  /-- A number, with the mark of a long one. -/
  | number (digits : List Char) (long : Bool)
  | string (form : StringForm) (body : List Char)
  | comma
  | period
  | semicolon
  | openParen
  | closeParen
  /-- An operator or any other character. -/
  | sign (text : List Char)
  deriving DecidableEq, Repr

namespace Token

/-- The opening of a string of some form. -/
def opening : StringForm → List Char
  | .single => ['\'']
  | .double => ['"']
  | .national => ['N', '\'']
  | .escaped => ['E', '\'']
  | .hex => ['X', '\'']

/-- The closing of a string of some form. -/
def closing : StringForm → List Char
  | .double => ['"']
  | _ => ['\'']

/-- Writes a token. -/
def text : Token → List Char
  | blank => [' ']
  | word value => value
  | quotedWord value => '`' :: value ++ ['`']
  | number digits long => digits ++ (if long then ['L'] else [])
  | string form body => opening form ++ body ++ closing form
  | comma => [',']
  | period => ['.']
  | semicolon => [';']
  | openParen => ['(']
  | closeParen => [')']
  | sign text => text

/-- The upper-case form of a word outside quotes. -/
def keyword? : Token → Option String
  | word value => some (String.ofList (upper value))
  | _ => none

/-- Whether a token is the given word, outside quotes and in any letter case. -/
def isWord (name : String) (t : Token) : Bool :=
  t.keyword? == some name

end Token

/-! ### Words and numbers -/

/-- Whether a character can start a word. -/
def isWordStart (c : Char) : Bool :=
  isAlphabetic c || c == '_' || c == '$' || c == '@' || (0x80 ≤ c.toNat && c.toNat ≤ 0xFFFF)

/-- Whether a character can stand inside a word. -/
def isWordPart (c : Char) : Bool :=
  isWordStart c || c.isDigit

/-- Whether a character is a hexadecimal digit. -/
def isHexDigit (c : Char) : Bool :=
  c.isDigit || ('a' ≤ c && c ≤ 'f') || ('A' ≤ c && c ≤ 'F')

/-- A token and the text after it. -/
abbrev TokenStep := Token × List Char

/-- Splits an exponent off: a letter `e`, an optional sign and at least one digit. -/
def splitExponent? : List Char → Option (List Char × List Char)
  | [] => none
  | e :: rest =>
    if e == 'e' || e == 'E' then
      let sign := match rest with
        | '+' :: _ => ['+']
        | '-' :: _ => ['-']
        | _ => []
      let digits := (rest.drop sign.length).takeWhile Char.isDigit
      if digits.isEmpty then none
      else some (e :: sign ++ digits, (rest.drop sign.length).dropWhile Char.isDigit)
    else none

/-- Whether a text starts with the letter `e`. -/
def startsWithE : List Char → Bool
  | c :: _ => c == 'e' || c == 'E'
  | [] => false

/-- Ends a number whose digits and point are read. -/
def finishNumber (digits rest : List Char) : TokenStep :=
  match splitExponent? rest with
  | some (exponent, 'L' :: after) => (.number (digits ++ exponent) true, after)
  | some (exponent, after) => (.number (digits ++ exponent) false, after)
  | none =>
    let letters := if startsWithE rest then [] else rest.takeWhile isWordPart
    if letters.isEmpty then (.number digits false, rest)
    else (.word (digits ++ letters), rest.dropWhile isWordPart)

/-- Reads a token that starts with a digit or a point. -/
def readNumber (cs : List Char) : TokenStep :=
  let whole := cs.takeWhile Char.isDigit
  let rest := cs.dropWhile Char.isDigit
  match whole, rest with
  | ['0'], 'x' :: after => (.string .hex (after.takeWhile isHexDigit), after.dropWhile isHexDigit)
  | _, '.' :: after =>
    let places := after.takeWhile Char.isDigit
    if whole.isEmpty && places.isEmpty then (.period, after)
    else finishNumber (whole ++ '.' :: places) (after.dropWhile Char.isDigit)
  | _, _ => finishNumber whole rest

/-! ### Escaped strings -/

/-- The value of a hexadecimal digit. -/
def hexDigitValue (c : Char) : Nat :=
  if c.isDigit then c.toNat - 48 else (c.toNat - 55) % 32

/-- The number that hexadecimal digits write; one plus sign may stand before them. -/
def hexNumber? (cs : List Char) : Option Nat :=
  let digits := match cs with
    | '+' :: rest => rest
    | _ => cs
  if !digits.isEmpty && digits.all isHexDigit then
    some (digits.foldl (fun n c => n * 16 + hexDigitValue c) 0)
  else none

/-- The character of a code point, unless there is none or it is the null character. -/
def escapedChar? (code : Nat) : Option Char :=
  if code = 0 then none
  else if code < 0xD800 ∨ (0xE000 ≤ code ∧ code < 0x110000) then some (Char.ofNat code)
  else none

/-- The character of a byte escape, of which the low eight bits count and only the ASCII
characters are allowed. -/
def byteChar? (code : Nat) : Option Char :=
  if code % 256 < 128 then escapedChar? (code % 256) else none

/-- The longest start of a text, of at most `n` characters, that satisfies a test. -/
def takeUpTo (n : Nat) (p : Char → Bool) (cs : List Char) : List Char :=
  (cs.take n).takeWhile p

/-- Decodes what follows a backslash in an escaped string: the character meant, and the
number of characters used. -/
def decodeEscape? (c : Char) (rest : List Char) : Option (Char × Nat) :=
  match c with
  | 'b' => some (Char.ofNat 8, 0)
  | 'f' => some (Char.ofNat 12, 0)
  | 'n' => some ('\n', 0)
  | 'r' => some ('\r', 0)
  | 't' => some ('\t', 0)
  | 'u' =>
    if rest.length < 4 then none
    else ((hexNumber? (rest.take 4)).bind escapedChar?).map (·, 4)
  | 'U' =>
    if rest.length < 8 then none
    else ((hexNumber? (rest.take 8)).bind escapedChar?).map (·, 8)
  | 'x' =>
    let digits := takeUpTo 2 isHexDigit rest
    if digits.isEmpty then some ('x', 0)
    else ((hexNumber? digits).bind byteChar?).map (·, digits.length)
  | c =>
    if '0' ≤ c ∧ c ≤ '7' then
      let more := takeUpTo 2 (fun d => '0' ≤ d && d ≤ '7') rest
      let code := (c :: more).foldl (fun n d => n * 8 + (d.toNat - 48)) 0
      (byteChar? code).map (·, more.length)
    else if c.toNat = 0 then none
    else some (c, 0)

/-- Reads an escaped string from after its opening quote: the decoded text and the text
after the closing quote. -/
def readEscaped? (cs : List Char) : Option (List Char × List Char) :=
  match cs with
  | [] => none
  | ['\''] => some ([], [])
  | '\'' :: '\'' :: rest => (readEscaped? rest).map fun (body, after) => ('\'' :: body, after)
  | '\'' :: c :: rest => some ([], c :: rest)
  | ['\\'] => none
  | '\\' :: c :: rest =>
    match decodeEscape? c rest with
    | none => none
    | some (decoded, used) =>
      (readEscaped? (rest.drop used)).map fun (body, after) => (decoded :: body, after)
  | c :: rest => (readEscaped? rest).map fun (body, after) => (c :: body, after)
termination_by cs.length
decreasing_by all_goals simp only [List.length_cons, List.length_drop]; omega

/-! ### The tokenizer -/

/-- Why a text cannot be cut into tokens. -/
inductive ScanFault where
  | openString
  | openEscapedString
  | openIdentifier
  deriving DecidableEq, Repr

/-- A failure, with the text from the place it is reported at. -/
structure ScanError where
  fault : ScanFault
  rest : List Char
  deriving DecidableEq, Repr

/-- The operators, each after those that it is the start of. -/
def operators : List String := [
  "->>", "->", "-", "/", "%", "||/", "||", "|/", "|", "==", "=>", "=", "!~~*", "!~~", "!~*",
  "!~", "!!", "!=", "!", "<=>", "<=", "<>", "<<", "<@", "<", ">=", ">>", ">", "::", ":=", ":",
  "&&", "&", "^@", "^", "~~*", "~~", "~*", "~", "\\", "[", "]", "\x7b", "\x7d", "+", "*", "#"]

/-- Splits the longest operator off the front of a text. -/
def splitOperator? (cs : List Char) : Option (List Char × List Char) :=
  operators.findSome? fun op => (dropStart? op.toList cs).map (op.toList, ·)

/-- The token of an operator. One of the two spellings of "not equal" stands for both. -/
def operatorToken (op : List Char) : Token :=
  if op = ['!', '='] then .sign ['<', '>'] else .sign op

/-- Reads a string from after its opening quote. -/
def readString (form : StringForm) (quote : Char) (rest : List Char) :
    Except ScanError TokenStep :=
  let t := readQuoted quote rest
  if t.closed then .ok (.string form t.body, t.rest)
  else .error ⟨.openString, quote :: rest⟩

/-- Reads a word from its first character. -/
def readWord (cs : List Char) : TokenStep :=
  (.word (cs.takeWhile isWordPart), cs.dropWhile isWordPart)

/-- Reads what starts with `@`: an operator, the sign itself, or the name of a variable. The
character after the one or two signs belongs to the name whatever it is. -/
def readAt (rest : List Char) : TokenStep :=
  match rest with
  | [] => (.sign ['@'], [])
  | '>' :: after => (.sign ['@', '>'], after)
  | '?' :: after => (.sign ['@', '?'], after)
  | ' ' :: _ => (.sign ['@'], rest)
  | '@' :: after =>
    match after with
    | [] => (.sign ['@', '@'], [])
    | ' ' :: _ => (.sign ['@', '@'], after)
    | c :: more =>
      (.word ('@' :: '@' :: c :: more.takeWhile isWordPart), more.dropWhile isWordPart)
  | c :: more => (.word ('@' :: c :: more.takeWhile isWordPart), more.dropWhile isWordPart)

/-- Reads a token that is neither a string nor a number. -/
def readSign (c : Char) (rest : List Char) : TokenStep :=
  if c == '(' then (.openParen, rest)
  else if c == ')' then (.closeParen, rest)
  else if c == ',' then (.comma, rest)
  else if c == ';' then (.semicolon, rest)
  else if c == '@' then readAt rest
  else if c == '?' then (.sign ('?' :: rest.takeWhile isNumeric), rest.dropWhile isNumeric)
  else if isWordStart c then readWord (c :: rest)
  else
    match splitOperator? (c :: rest) with
    | some (op, after) => (operatorToken op, after)
    | none => if isBlank c then (.blank, rest) else (.sign [c], rest)

/-- Reads one token from a text that starts with `c`. -/
def nextToken (c : Char) (rest : List Char) : Except ScanError TokenStep :=
  if c == ' ' || c == '\t' || c == '\n' || c == '\r' then .ok (.blank, rest)
  else if c == '\'' then readString .single '\'' rest
  else if c == '"' then readString .double '"' rest
  else if c == '`' then
    let t := readQuoted '`' rest
    if t.closed then .ok (.quotedWord t.body, t.rest)
    else .error ⟨.openIdentifier, '`' :: rest⟩
  else if c.isDigit || c == '.' then .ok (readNumber (c :: rest))
  else
    match rest with
    | '\'' :: after =>
      if c == 'N' || c == 'n' then readString .national '\'' after
      else if c == 'X' || c == 'x' then readString .hex '\'' after
      else if c == 'E' || c == 'e' then
        match readEscaped? after with
        | some (body, more) => .ok (.string .escaped body, more)
        | none => .error ⟨.openEscapedString, c :: rest⟩
      else .ok (readSign c rest)
    | _ => .ok (readSign c rest)

/-! ### Every token shortens the text -/

theorem length_lt_of_splitExponent? {cs : List Char} {r : List Char × List Char}
    (h : splitExponent? cs = some r) : r.2.length < cs.length := by
  cases cs with
  | nil => simp [splitExponent?] at h
  | cons e rest =>
    simp only [splitExponent?] at h
    split at h
    · generalize (match rest with
        | '+' :: _ => ['+']
        | '-' :: _ => ['-']
        | _ => []) = sign at h
      split at h
      · simp at h
      · cases h
        refine Nat.lt_succ_of_le (Nat.le_trans (length_dropWhile_le _ _) ?_)
        simp
    · simp at h

theorem length_finishNumber_le (digits rest : List Char) :
    (finishNumber digits rest).2.length ≤ rest.length := by
  unfold finishNumber
  split
  · rename_i h
    have := length_lt_of_splitExponent? h
    simp only [List.length_cons] at this
    simp only
    omega
  · rename_i h
    exact Nat.le_of_lt (length_lt_of_splitExponent? h)
  · simp only
    generalize (if startsWithE rest then ([] : List Char) else rest.takeWhile isWordPart) = letters
    by_cases h : letters.isEmpty
    · simp [h]
    · simpa [h] using length_dropWhile_le isWordPart rest

theorem length_readNumber_le (c : Char) (rest : List Char) (h : c.isDigit || c == '.') :
    (readNumber (c :: rest)).2.length ≤ rest.length := by
  have hdrop : ((c :: rest).dropWhile Char.isDigit).length ≤ rest.length ∨
      (c :: rest).dropWhile Char.isDigit = '.' :: rest := by
    by_cases hd : c.isDigit
    · left
      rw [List.dropWhile_cons_of_pos hd]
      exact length_dropWhile_le _ _
    · right
      have hc : c = '.' := by simpa [hd] using h
      subst hc
      rfl
  unfold readNumber
  dsimp only
  split
  · rename_i after _ heq
    have := length_dropWhile_le isHexDigit after
    rcases hdrop with hl | he
    · rw [heq, List.length_cons] at hl
      simp only
      omega
    · rw [heq] at he
      simp at he
  · rename_i after heq
    have hafter : after.length ≤ rest.length := by
      rcases hdrop with hl | he
      · rw [heq, List.length_cons] at hl
        omega
      · rw [heq] at he
        exact Nat.le_of_eq (congrArg List.length (List.cons.inj he).2)
    split
    · exact hafter
    · exact Nat.le_trans (length_finishNumber_le _ _)
        (Nat.le_trans (length_dropWhile_le _ _) hafter)
  · rename_i hdot _
    rcases hdrop with hl | he
    · exact Nat.le_trans (length_finishNumber_le _ _) hl
    · exact absurd he (hdot rest)

theorem length_lt_of_readEscaped? {cs : List Char} {r : List Char × List Char}
    (h : readEscaped? cs = some r) : r.2.length < cs.length := by
  fun_induction readEscaped? cs generalizing r with
  | case1 => simp at h
  | case2 => cases h; simp
  | case3 rest ih =>
    obtain ⟨u, hu, rfl⟩ := Option.map_eq_some_iff.1 h
    have := ih hu
    simp only [List.length_cons]
    omega
  | case4 => cases h; simp
  | case5 => simp at h
  | case6 => simp at h
  | case7 c rest decoded used hd ih =>
    obtain ⟨u, hu, rfl⟩ := Option.map_eq_some_iff.1 h
    have := ih hu
    simp only [List.length_drop] at this
    simp only [List.length_cons]
    omega
  | case8 c rest _ _ _ _ _ ih =>
    obtain ⟨u, hu, rfl⟩ := Option.map_eq_some_iff.1 h
    have := ih hu
    simp only [List.length_cons]
    omega

theorem length_readAt_le (rest : List Char) : (readAt rest).2.length ≤ rest.length := by
  have hd := length_dropWhile_le isWordPart
  unfold readAt
  split <;> try simp
  · split <;> try simp
    rename_i c more _
    have := hd more
    omega
  · rename_i c more _ _ _ _
    have := hd more
    omega

theorem length_lt_of_splitOperator? {cs : List Char} {r : List Char × List Char}
    (h : splitOperator? cs = some r) : r.2.length < cs.length := by
  obtain ⟨op, hop, hr⟩ := List.exists_of_findSome?_eq_some h
  obtain ⟨u, hu, rfl⟩ := Option.map_eq_some_iff.1 hr
  have hlen := congrArg List.length (dropStart?_eq_some hu)
  have hall : ∀ op ∈ operators, op.toList.length ≠ 0 := by decide
  have hne := hall op hop
  simp only [List.length_append] at hlen
  simp only
  omega

theorem length_readSign_le (c : Char) (rest : List Char) :
    (readSign c rest).2.length ≤ rest.length := by
  unfold readSign
  split; · simp
  split; · simp
  split; · simp
  split; · simp
  split; · exact length_readAt_le rest
  split; · exact length_dropWhile_le isNumeric rest
  split
  · rename_i h
    have hp : isWordPart c = true := by simp [isWordPart, h]
    simp only [readWord, List.dropWhile_cons_of_pos hp]
    exact length_dropWhile_le isWordPart rest
  · split
    · rename_i h
      have := length_lt_of_splitOperator? h
      simp only [List.length_cons] at this
      exact Nat.le_of_lt_succ this
    · split <;> simp

theorem length_le_of_readString {form : StringForm} {quote : Char} {rest : List Char}
    {step : TokenStep} (h : readString form quote rest = .ok step) :
    step.2.length ≤ rest.length := by
  simp only [readString] at h
  split at h
  · cases h
    exact length_rest_readQuoted_le quote rest
  · cases h

theorem length_le_of_nextToken {c : Char} {rest : List Char} {step : TokenStep}
    (h : nextToken c rest = .ok step) : step.2.length ≤ rest.length := by
  unfold nextToken at h
  split at h
  · cases h; simp
  split at h
  · exact length_le_of_readString h
  split at h
  · exact length_le_of_readString h
  split at h
  · simp only at h
    split at h
    · cases h
      exact length_rest_readQuoted_le _ rest
    · cases h
  split at h
  · rename_i hnum
    cases h
    exact length_readNumber_le c rest hnum
  split at h
  · rename_i after
    split at h
    · exact Nat.le_succ_of_le (length_le_of_readString h)
    split at h
    · exact Nat.le_succ_of_le (length_le_of_readString h)
    split at h
    · split at h
      · rename_i he
        cases h
        have := length_lt_of_readEscaped? he
        simp only [List.length_cons] at *
        omega
      · cases h
    · cases h
      exact length_readSign_le c _
  · cases h
    exact length_readSign_le c rest

/-- Cuts a comment-free text into tokens. -/
def tokenize (cs : List Char) : Except ScanError (List Token) :=
  match cs with
  | [] => .ok []
  | c :: rest =>
    match h : nextToken c rest with
    | .error e => .error e
    | .ok step =>
      have : step.2.length < rest.length + 1 := Nat.lt_succ_of_le (length_le_of_nextToken h)
      match tokenize step.2 with
      | .error e => .error e
      | .ok tokens => .ok (step.1 :: tokens)
termination_by cs.length

/-! ### Reporting a failure -/

/-- What a failure is called. -/
def ScanFault.message : ScanFault → String
  | .openString => "Unterminated string literal"
  | .openEscapedString => "Unterminated encoded string literal"
  | .openIdentifier => "Expected close delimiter '`' before EOF."

/-- The line and the column, both from one, at the end of a text. -/
def lineAndColumn (before : List Char) : Nat × Nat :=
  before.foldl (fun (line, column) c => if c == '\n' then (line + 1, 1) else (line, column + 1))
    (1, 1)

/-- The report of a failure in a text: what failed, and where. -/
def ScanError.message (e : ScanError) (text : List Char) : String :=
  let (line, column) := lineAndColumn (text.take (text.length - e.rest.length))
  e.fault.message ++ " at Line: " ++ toString line ++ ", Column: " ++ toString column

end SqlGateway.Sql
