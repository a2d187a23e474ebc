import SqlGateway.Text.Pattern

/-!
# Redaction

SQL that is logged has its secrets masked: the literal after `IDENTIFIED BY`, `PASSWORD(` or
`PASSWORD =` in account statements, in any letter case, and then every occurrence of the
configured password.
-/

namespace SqlGateway.Query

open Text

/-- What is written for a secret. -/
def mask : List Char := ['*', '*', '*']

/-- What stands before a secret, at the front of a text: the text after it. -/
abbrev Opener := List Char → Option (List Char)

/-- A run of characters that are no blanks, with blanks after it: the text after both. -/
def dropFieldGap? (cs : List Char) : Option (List Char) :=
  if (cs.takeWhile fun c => !isBlank c).isEmpty then none
  else dropBlanks? (cs.dropWhile fun c => !isBlank c)

/-- `IDENTIFIED BY` and `IDENTIFIED WITH plugin BY`, with blanks after them. -/
def identifiedBy : Opener := fun cs => do
  let rest ← dropWordGap? "IDENTIFIED" cs
  match ((dropWordGap? "WITH" rest).bind dropFieldGap?).bind (dropWordGap? "BY") with
  | some after => return after
  | none => dropWordGap? "BY" rest

/-- `PASSWORD` and a sign, with optional blanks around the sign. -/
def passwordSign (sign : Char) : Opener := fun cs => do
  let rest ← dropWord? "PASSWORD" cs
  match rest.dropWhile isBlank with
  | c :: after => if c == sign then return after.dropWhile isBlank else none
  | [] => none

/-- The text after a literal in single or double quotes. Here a literal ends at the next
quote of its kind. -/
def dropLiteral? : List Char → Option (List Char)
  | [] => none
  | q :: rest =>
    if q == '\'' || q == '"' then
      match rest.dropWhile (· != q) with
      | [] => none
      | _ :: after => some after
    else none

/-- Masks the literals after an opener. The number tells how many characters belong to the
last find. -/
def maskAfterFrom (opener : Opener) (skip : Nat) : List Char → List Char
  | [] => []
  | c :: rest =>
    match skip with
    | n + 1 => maskAfterFrom opener n rest
    | 0 =>
      match opener (c :: rest) with
      | none => c :: maskAfterFrom opener 0 rest
      | some literal =>
        match dropLiteral? literal with
        | none => c :: maskAfterFrom opener 0 rest
        | some after =>
          (c :: rest).take (rest.length + 1 - literal.length) ++ '\'' :: mask ++ '\'' ::
            maskAfterFrom opener (rest.length - after.length) rest

/-- Masks the literals after an opener. -/
def maskAfter (opener : Opener) (cs : List Char) : List Char :=
  maskAfterFrom opener 0 cs

/-- Masks the secrets of account statements. -/
def maskAccounts (cs : List Char) : List Char :=
  maskAfter (passwordSign '=') (maskAfter (passwordSign '(') (maskAfter identifiedBy cs))

/-- Masks the secrets of account statements and every occurrence of a password. -/
def redact (sql password : String) : String :=
  String.ofList (replaceAll password.toList mask (maskAccounts sql.toList))

/-- Cuts a text to a number of characters and marks the cut. -/
def truncate (max : Nat) (text : String) : String :=
  if text.toList.length ≤ max then text
  else String.ofList (text.toList.take max) ++ "..."

end SqlGateway.Query
