/-!
# SHA-256

The digest of a text: its bytes in UTF-8 are padded to whole blocks of sixty-four bytes, and
the blocks are mixed one after another into a state of eight words. A block is first
stretched to sixty-four words, one for each round of the mixing.
-/

namespace SqlGateway.Digest

/-- The state of a digest: eight words. -/
structure State where
  a : UInt32
  b : UInt32
  c : UInt32
  d : UInt32
  e : UInt32
  f : UInt32
  g : UInt32
  h : UInt32
  deriving DecidableEq, Repr

namespace State

/-- The state before the first block: the fractional parts of the square roots of the first
eight primes. -/
def initial : State :=
  ⟨0x6a09e667, 0xbb67ae85, 0x3c6ef372, 0xa54ff53a, 0x510e527f, 0x9b05688c, 0x1f83d9ab,
    0x5be0cd19⟩

/-- The words of a state. -/
def words (s : State) : List UInt32 :=
  [s.a, s.b, s.c, s.d, s.e, s.f, s.g, s.h]

/-- The sums of the words of two states. -/
def add (s t : State) : State :=
  ⟨s.a + t.a, s.b + t.b, s.c + t.c, s.d + t.d, s.e + t.e, s.f + t.f, s.g + t.g, s.h + t.h⟩

end State

/-- The constants of the rounds: the fractional parts of the cube roots of the first
sixty-four primes. -/
def roundConstants : List UInt32 :=
  [0x428a2f98, 0x71374491, 0xb5c0fbcf, 0xe9b5dba5, 0x3956c25b, 0x59f111f1, 0x923f82a4,
    0xab1c5ed5, 0xd807aa98, 0x12835b01, 0x243185be, 0x550c7dc3, 0x72be5d74, 0x80deb1fe,
    0x9bdc06a7, 0xc19bf174, 0xe49b69c1, 0xefbe4786, 0x0fc19dc6, 0x240ca1cc, 0x2de92c6f,
    0x4a7484aa, 0x5cb0a9dc, 0x76f988da, 0x983e5152, 0xa831c66d, 0xb00327c8, 0xbf597fc7,
    0xc6e00bf3, 0xd5a79147, 0x06ca6351, 0x14292967, 0x27b70a85, 0x2e1b2138, 0x4d2c6dfc,
    0x53380d13, 0x650a7354, 0x766a0abb, 0x81c2c92e, 0x92722c85, 0xa2bfe8a1, 0xa81a664b,
    0xc24b8b70, 0xc76c51a3, 0xd192e819, 0xd6990624, 0xf40e3585, 0x106aa070, 0x19a4c116,
    0x1e376c08, 0x2748774c, 0x34b0bcb5, 0x391c0cb3, 0x4ed8aa4a, 0x5b9cca4f, 0x682e6ff3,
    0x748f82ee, 0x78a5636f, 0x84c87814, 0x8cc70208, 0x90befffa, 0xa4506ceb, 0xbef9a3f7,
    0xc67178f2]

/-- A word turned to the right by `n` places, `n` being between 1 and 31. -/
def rotate (x : UInt32) (n : UInt32) : UInt32 :=
  (x >>> n) ||| (x <<< (32 - n))

/-! ### Stretching a block -/

/-- The next word of the stretched block, from the words before it, the latest first. -/
def nextWord (latest : List UInt32) : UInt32 :=
  let x := latest.getD 14 0
  let y := latest.getD 1 0
  (rotate y 17 ^^^ rotate y 19 ^^^ (y >>> 10)) + latest.getD 6 0 +
    (rotate x 7 ^^^ rotate x 18 ^^^ (x >>> 3)) + latest.getD 15 0

/-- Stretches a list of words, the latest first, by `n` words. -/
def stretch (latest : List UInt32) : Nat → List UInt32
  | 0 => latest
  | n + 1 => stretch (nextWord latest :: latest) n

/-! ### Mixing -/

/-- One round: a word and a constant are mixed into the state. -/
def round (s : State) (word constant : UInt32) : State :=
  let choice := (s.e &&& s.f) ^^^ (~~~s.e &&& s.g)
  let majority := (s.a &&& s.b) ^^^ (s.a &&& s.c) ^^^ (s.b &&& s.c)
  let t := s.h + (rotate s.e 6 ^^^ rotate s.e 11 ^^^ rotate s.e 25) + choice + constant + word
  let u := (rotate s.a 2 ^^^ rotate s.a 13 ^^^ rotate s.a 22) + majority
  ⟨t + u, s.a, s.b, s.c, s.d + t, s.e, s.f, s.g⟩

/-- Mixes a block of sixteen words into the state. -/
def mix (s : State) (block : List UInt32) : State :=
  let words := (stretch block.reverse 48).reverse
  s.add ((words.zip roundConstants).foldl (fun t wk => round t wk.1 wk.2) s)

/-! ### Padding -/

/-- A number as `n` bytes, the highest first. -/
def bigEndian (value : Nat) : Nat → List UInt8
  | 0 => []
  | n + 1 => UInt8.ofNat (value / Nat.pow 256 n) :: bigEndian value n

/-- A message with its padding: a set bit, as few zero bits as fill the last block, and the
length of the message in bits. -/
def padded (message : List UInt8) : List UInt8 :=
  message ++ 0x80 :: List.replicate ((119 - message.length % 64) % 64) 0 ++
    bigEndian (8 * message.length) 8

/-- The words that a list of bytes spells, four bytes each. -/
def wordsOfBytes : List UInt8 → List UInt32
  | a :: b :: c :: d :: rest =>
    (a.toUInt32 <<< 24 ||| b.toUInt32 <<< 16 ||| c.toUInt32 <<< 8 ||| d.toUInt32) ::
      wordsOfBytes rest
  | _ => []

/-- Mixes `n` blocks of sixteen words into the state. -/
def mixBlocks (s : State) (words : List UInt32) : Nat → State
  | 0 => s
  | n + 1 => mixBlocks (mix s (words.take 16)) (words.drop 16) n

/-- The state after a message. -/
def digest (message : List UInt8) : State :=
  let words := wordsOfBytes (padded message)
  mixBlocks .initial words (words.length / 16)

/-! ### Text -/

/-- A word as eight hexadecimal digits. -/
def hexWord (x : UInt32) : List Char :=
  (List.range 8).map fun i => Nat.digitChar (x.toNat / Nat.pow 16 (7 - i) % 16)

/-- The digest of a text, as sixty-four hexadecimal digits. -/
def sha256 (text : String) : String :=
  String.ofList ((digest text.toUTF8.toList).words.flatMap hexWord)

end SqlGateway.Digest
