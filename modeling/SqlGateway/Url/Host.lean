import SqlGateway.Text.Blank
import SqlGateway.Url.Percent

/-!
# Hosts

The host of a URL is an IPv6 address in brackets or a name. An address is written with its
longest run of zero groups left out and in lower case. A name of a scheme that the URL
standard does not know is kept as it is, with the characters encoded that may not stand in
it; a name of a scheme that the standard knows has to be a domain or an IPv4 address.
-/

namespace SqlGateway.Url

open Text

/-- Why a text is no URL. -/
inductive UrlError where
  | noScheme
  | emptyHost
  | invalidPort
  | invalidIpv6
  | invalidIpv4
  | invalidDomainCharacter
  | invalidDomain
  deriving DecidableEq, Repr

/-- The message of an error. -/
def UrlError.message : UrlError → String
  | noScheme => "relative URL without a base"
  | emptyHost => "empty host"
  | invalidPort => "invalid port number"
  | invalidIpv6 => "invalid IPv6 address"
  | invalidIpv4 => "invalid IPv4 address"
  | invalidDomainCharacter => "invalid domain character"
  | invalidDomain => "invalid international domain name"

/-! ### IPv6 addresses -/

/-- The value of a group of one to four hexadecimal digits. -/
def readGroup? (cs : List Char) : Option Nat :=
  if cs.isEmpty || 4 < cs.length then none
  else cs.foldlM (fun n c => (hexDigit? c).map (n * 16 + ·)) 0

/-- The value of a number below 256 without leading zeros. -/
def readOctet? (cs : List Char) : Option Nat :=
  if isDigits cs && (cs.length = 1 || cs.head? != some '0') && digitsValue cs < 256 then
    some (digitsValue cs)
  else none

/-- The two groups that four octets with dots between them stand for. -/
def readDotted? (cs : List Char) : Option (List Nat) := do
  match ← (cutAt (· == '.') cs).mapM readOctet? with
  | [a, b, c, d] => some [256 * a + b, 256 * c + d]
  | _ => none

/-- The groups that a list of texts spells; the last text may be four octets. -/
def readGroups? : List (List Char) → Option (List Nat)
  | [] => some []
  | [last] => if last.contains '.' then readDotted? last else (readGroup? last).map ([·])
  | cs :: rest => do
    let n ← readGroup? cs
    let groups ← readGroups? rest
    some (n :: groups)

/-- Splits a text at the first two colons in a row. -/
def cutAtGap? : List Char → Option (List Char × List Char)
  | ':' :: ':' :: rest => some ([], rest)
  | c :: rest => (cutAtGap? rest).map fun (before, after) => (c :: before, after)
  | [] => none

/-- The groups of a text with colons between them; none in the empty text. -/
def groupsOf? (cs : List Char) : Option (List Nat) :=
  if cs.isEmpty then some [] else readGroups? (cutAt (· == ':') cs)

/-- Whether the groups before a gap are spelt without octets. -/
def isPlainGroups (cs : List Char) : Bool := !cs.contains '.'

/-- The eight groups of an IPv6 address. A gap stands for as many zero groups as are
missing, at least one. -/
def readIpv6? (cs : List Char) : Option (List Nat) := do
  match cutAtGap? cs with
  | none =>
    let groups ← readGroups? (cutAt (· == ':') cs)
    if groups.length = 8 then some groups else none
  | some (before, after) =>
    let left ← if isPlainGroups before then groupsOf? before else none
    let right ← groupsOf? after
    if left.length + right.length < 8 then
      some (left ++ List.replicate (8 - left.length - right.length) 0 ++ right)
    else none

/-- The length of the run of zeros that a list starts with. -/
def zeroRun (groups : List Nat) : Nat :=
  (groups.takeWhile (· == 0)).length

/-- The first of the longest runs of zeros: how many groups stand before it, and its
length. -/
def longestZeroRun : List Nat → Nat × Nat
  | [] => (0, 0)
  | n :: rest =>
    let (start, length) := longestZeroRun rest
    if length ≤ zeroRun (n :: rest) then (0, zeroRun (n :: rest)) else (start + 1, length)

/-- Groups with colons between them. -/
def writeGroups (groups : List Nat) : String :=
  String.intercalate ":" (groups.map fun n => String.ofList (Nat.toDigits 16 n))

/-- Writes an IPv6 address in brackets. -/
def writeIpv6 (groups : List Nat) : String :=
  let (start, length) := longestZeroRun groups
  if length < 2 then "[" ++ writeGroups groups ++ "]"
  else
    "[" ++ writeGroups (groups.take start) ++ "::" ++
      writeGroups (groups.drop (start + length)) ++ "]"

/-! ### Names -/

/-- The characters that may not stand in a name. -/
def forbiddenInName : List Char :=
  ['\x00', '\t', '\n', '\x0d', ' ', '#', '/', ':', '<', '>', '?', '@', '[', '\\', ']', '^', '|']

/-- Reads a host in brackets. -/
def readBracketed (cs : List Char) : Except UrlError String :=
  if cs.getLast? = some ']' then
    match readIpv6? cs.tail.dropLast with
    | some groups => .ok (writeIpv6 groups)
    | none => .error .invalidIpv6
  else .error .invalidIpv6

/-- Reads a host of a scheme that the standard does not know. -/
def readOpaqueHost (cs : List Char) : Except UrlError String :=
  if cs.head? = some '[' then readBracketed cs
  else if cs.any forbiddenInName.contains then .error .invalidDomainCharacter
  else .ok (String.ofList (percentEncode [] cs))

/-- The value of a part of an IPv4 address: decimal, octal after a zero, or hexadecimal
after `0x`. -/
def readIpv4Part? (cs : List Char) : Option Nat :=
  let digits (base : Nat) (cs : List Char) : Option Nat :=
    cs.foldlM (fun n c =>
      (hexDigit? c).bind fun d => if d < base then some (n * base + d) else none) 0
  match cs with
  | [] => none
  | '0' :: x :: rest =>
    if x = 'x' ∨ x = 'X' then digits 16 rest else digits 8 (x :: rest)
  | cs => digits 10 cs

/-- The labels of a domain, without the empty one after a final dot. -/
def labels (cs : List Char) : List (List Char) :=
  match (cutAt (· == '.') cs).reverse with
  | [] :: rest => if rest.isEmpty then [[]] else rest.reverse
  | all => all.reverse

/-- Whether a domain has to be an IPv4 address: its last label is a number. -/
def endsInNumber (cs : List Char) : Bool :=
  match (labels cs).getLast? with
  | none => false
  | some last =>
    isDigits last ||
      (match last with
        | '0' :: x :: rest => (x = 'x' ∨ x = 'X') && (readIpv4Part? ('0' :: x :: rest)).isSome
        | _ => false)

/-- Whether numbers are the parts of an IPv4 address: all but the last are octets, and the
last fills the remaining octets. -/
def fitIpv4 (parts : List Nat) : Bool :=
  match parts.reverse with
  | [] => false
  | last :: before =>
    before.length < 4 && before.all (· < 256) && last < Nat.pow 256 (4 - before.length)

/-- Reads a host of a scheme that the standard knows. -/
def readDomain (cs : List Char) : Except UrlError String :=
  if cs.head? = some '[' then readBracketed cs
  else
    let name := percentDecodeAscii cs
    if name.any fun c => c.toNat < 0x20 || c.toNat == 0x7F || c == '%' ||
        forbiddenInName.contains c then .error .invalidDomain
    else if endsInNumber name then
      match (labels name).mapM readIpv4Part? with
      | some parts => if fitIpv4 parts then .ok (String.ofList name) else .error .invalidIpv4
      | none => .error .invalidIpv4
    else .ok (String.ofList (name.map Char.toLower))

end SqlGateway.Url
