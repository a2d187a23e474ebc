import SqlGateway.Url.Host

/-!
# URLs

The parts of an absolute URL, read as the URL standard reads them: surrounding blanks and
control characters are dropped, and tabs and line ends inside; the scheme is put in lower
case; what stands before the last at sign of the authority are the credentials; the segments
`.` and `..` of the path are resolved. Nothing that is percent-encoded is decoded.
-/

namespace SqlGateway

open Text

/-- The parts of an absolute URL. A query and a fragment are not kept. -/
structure Url where
  scheme : String
  user : String
  /-- Absent when it is empty. -/
  password : Option String
  host : Option String
  port : Option Nat
  /-- The path, with its first slash if it has one. -/
  path : String
  deriving DecidableEq, Repr

namespace Url

/-! ### Schemes -/

/-- The schemes that the standard knows, apart from files. -/
def specialSchemes : List String := ["ftp", "http", "https", "ws", "wss"]

/-- Whether a character may stand in a scheme. -/
def isSchemeChar (c : Char) : Bool :=
  c.isAlphanum || c == '+' || c == '-' || c == '.'

/-- Splits a text into its scheme, in lower case, and what follows the colon. -/
def cutScheme? (cs : List Char) : Option (String × List Char) :=
  match cs.head?.map Char.isAlpha, cs.dropWhile isSchemeChar with
  | some true, ':' :: rest =>
    some (String.ofList ((cs.takeWhile isSchemeChar).map Char.toLower), rest)
  | _, _ => none

/-- Drops what a URL is cleaned of: control characters and blanks at both ends, and tabs and
line ends anywhere. -/
def clean (cs : List Char) : List Char :=
  (dropEndWhile (·.toNat ≤ 0x20) (cs.dropWhile (·.toNat ≤ 0x20))).filter fun c =>
    c != '\t' && c != '\n' && c.toNat != 0x0D

/-! ### Paths -/

/-- Whether a segment means the directory itself. -/
def isHere (segment : List Char) : Bool :=
  [".", "%2e"].contains (String.ofList (segment.map Char.toLower))

/-- Whether a segment means the directory above. -/
def isAbove (segment : List Char) : Bool :=
  ["..", ".%2e", "%2e.", "%2e%2e"].contains (String.ofList (segment.map Char.toLower))

/-- Whether a segment names a drive, which is never left upwards; a backslash may follow the
name. -/
def isDrive : List Char → Bool
  | letter :: mark :: rest =>
    letter.isAlpha && (mark == ':' || mark == '|') && (rest.isEmpty || rest.head? == some '\\')
  | _ => false

/-- Leaves the last of the directories, given in reverse. -/
def leave : List (List Char) → List (List Char)
  | [] => []
  | last :: rest => if isDrive last then last :: rest else rest

/-- The segments of a path without `.` and `..`; the directories entered so far come first,
in reverse. A path that ends in one of these ends in a slash. -/
def resolve (entered : List (List Char)) : List (List Char) → List (List Char)
  | [] => entered.reverse
  | [last] =>
    if isAbove last then ([] :: leave entered).reverse
    else if isHere last then ([] :: entered).reverse
    else (last :: entered).reverse
  | segment :: rest =>
    if isAbove segment then resolve (leave entered) rest
    else if isHere segment then resolve entered rest
    else resolve (segment :: entered) rest

/-- The path that follows an authority, or the scheme; a missing first slash is added. -/
def readPath (isSlash : Char → Bool) (cs : List Char) : List Char :=
  let body := percentEncode pathSet (cs.takeWhile fun c => c != '?' && c != '#')
  let body := match body with
    | c :: rest => if isSlash c then rest else body
    | [] => body
  '/' :: ['/'].intercalate (resolve [] (cutAt isSlash body))

/-! ### Authorities -/

/-- Splits a text at the last character that satisfies a test. -/
def cutAtLast? (p : Char → Bool) (cs : List Char) : Option (List Char × List Char) :=
  match cs.reverse.dropWhile (!p ·) with
  | [] => none
  | _ :: before => some (before.reverse, (cs.reverse.takeWhile (!p ·)).reverse)

/-- The host part of a text: what stands before the first colon outside brackets. -/
def hostPart (inside : Bool) : List Char → List Char
  | [] => []
  | c :: rest =>
    if c = ':' ∧ !inside then []
    else c :: hostPart (c == '[' || (inside && c != ']')) rest

/-- The user name and the password of the credentials, which a colon separates. -/
def readCredentials (cs : List Char) : String × Option String :=
  let user := cs.takeWhile (· != ':')
  let password := (cs.dropWhile (· != ':')).tail
  (String.ofList (percentEncode credentialSet user),
    if password.isEmpty then none
    else some (String.ofList (percentEncode credentialSet password)))

/-- Reads a port, which may be missing. -/
def readPort (cs : List Char) : Except UrlError (Option Nat) :=
  if cs.isEmpty then .ok none
  else if isDigits cs && digitsValue cs < UInt16.size then .ok (some (digitsValue cs))
  else .error .invalidPort

/-- Reads what follows the two slashes. -/
def readAuthority (scheme : String) (special : Bool) (cs : List Char) : Except UrlError Url := do
  let isSlash (c : Char) : Bool := c == '/' || (special && c == '\\')
  let isEnd (c : Char) : Bool := isSlash c || c == '?' || c == '#'
  let authority := cs.takeWhile (!isEnd ·)
  let after := cs.dropWhile (!isEnd ·)
  let (credentials, place) := (cutAtLast? (· == '@') authority).getD ([], authority)
  if authority.head? = some '@' ∧ credentials.isEmpty ∧ place.isEmpty ∧ !after.isEmpty then
    throw .emptyHost
  let (user, password) := readCredentials credentials
  let name := hostPart false place
  let tail := place.drop name.length
  if special ∧ name.isEmpty then throw .emptyHost
  let host ← if special then readDomain name else readOpaqueHost name
  if name.isEmpty ∧ (!tail.isEmpty ∨ user ≠ "" ∨ password.isSome) then throw .emptyHost
  let port ← readPort (tail.tail.takeWhile (· != '\\'))
  let rest := tail.dropWhile (· != '\\') ++ after
  let path := match rest with
    | [] => if special then ['/'] else []
    | c :: _ => if !special && (c == '?' || c == '#') then [] else readPath isSlash rest
  return { scheme, user, password, host := if name.isEmpty then none else some host, port,
           path := String.ofList path }

/-- Reads the URL of a file, of which only the host can be wrong. -/
def readFile (cs : List Char) : Except UrlError Url := do
  let isSlash (c : Char) : Bool := c == '/' || c == '\\'
  let isEnd (c : Char) : Bool := isSlash c || c == '?' || c == '#'
  let (host, rest) ← match cs with
    | a :: b :: rest =>
      let name := rest.takeWhile (!isEnd ·)
      if isSlash a && isSlash b then
        if name.isEmpty || isDrive name then pure (none, rest)
        else (readDomain name).map fun host => (some host, rest.drop name.length)
      else pure (none, cs)
    | _ => pure (none, cs)
  return { scheme := "file", user := "", password := none, host, port := none,
           path := String.ofList (readPath isSlash rest) }

/-! ### Reading -/

/-- Reads an absolute URL. -/
def read (text : String) : Except UrlError Url :=
  match cutScheme? (clean text.toList) with
  | none => .error .noScheme
  | some (scheme, rest) =>
    if scheme = "file" then readFile rest
    else if specialSchemes.contains scheme then
      readAuthority scheme true (rest.dropWhile fun c => c == '/' || c == '\\')
    else
      match rest with
      | '/' :: '/' :: rest => readAuthority scheme false rest
      | '/' :: _ =>
        .ok { scheme, user := "", password := none, host := none, port := none,
              path := String.ofList (readPath (· == '/') rest) }
      | _ =>
        .ok { scheme, user := "", password := none, host := none, port := none,
              path := String.ofList (percentEncode []
                (rest.takeWhile fun c => c != '?' && c != '#')) }

end Url

end SqlGateway
