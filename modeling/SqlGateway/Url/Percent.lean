/-!
# Percent Encoding

A character that may not stand in a part of a URL is written as the bytes of its UTF-8 form,
each a percent sign and two hexadecimal digits. Which ASCII characters may not stand there
depends on the part; control characters and characters outside ASCII never may. A percent
sign itself always may, so what is encoded already stays as it is.
-/

namespace SqlGateway.Url

/-- A byte as a percent sign and two hexadecimal digits in upper case. -/
def escapeByte (b : UInt8) : List Char :=
  ['%', (Nat.digitChar (b.toNat / 16)).toUpper, (Nat.digitChar (b.toNat % 16)).toUpper]

/-- Whether a character may stand in no part of a URL. -/
def isNeverPlain (c : Char) : Bool :=
  c.toNat < 0x20 || 0x7F ≤ c.toNat

/-- Encodes the characters of a set and those that may stand nowhere. -/
def percentEncode (set : List Char) (cs : List Char) : List Char :=
  cs.flatMap fun c =>
    if isNeverPlain c || set.contains c then (String.utf8EncodeChar c).flatMap escapeByte
    else [c]

/-- The characters that are encoded in a path. -/
def pathSet : List Char :=
  [' ', '"', '<', '>', '\x60', '#', '?', '\x7b', '\x7d']

/-- The characters that are encoded in a user name and in a password. -/
def credentialSet : List Char :=
  pathSet ++ ['/', ':', ';', '=', '@', '[', '\\', ']', '^', '|']

/-- The value of a hexadecimal digit. -/
def hexDigit? (c : Char) : Option Nat :=
  if c.isDigit then some (c.toNat - 48)
  else if 'a' ≤ c ∧ c ≤ 'f' then some (c.toNat - 87)
  else if 'A' ≤ c ∧ c ≤ 'F' then some (c.toNat - 55)
  else none

/-- Decodes the encoded ASCII characters; other encoded bytes stay as they are. -/
def percentDecodeAscii : List Char → List Char
  | '%' :: a :: b :: rest =>
    match hexDigit? a, hexDigit? b with
    | some m, some n =>
      if m < 8 then Char.ofNat (16 * m + n) :: percentDecodeAscii rest
      else '%' :: percentDecodeAscii (a :: b :: rest)
    | _, _ => '%' :: percentDecodeAscii (a :: b :: rest)
  | c :: rest => c :: percentDecodeAscii rest
  | [] => []

end SqlGateway.Url
