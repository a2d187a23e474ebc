/-!
# Blank Characters, Words and Cuts

The blank characters are those of the property White_Space; a word is a maximal run of
characters that are not blank. Besides trimming and splitting into words this module has
the cuts of a text at a separator character and the plain search for, and replacement of, a
substring.
-/

namespace SqlGateway.Text

/-- Whether a character is blank (the property White_Space). -/
def isBlank (c : Char) : Bool :=
  let n := c.toNat
  (9 ≤ n && n ≤ 13) || n == 0x20 || n == 0x85 || n == 0xA0 || n == 0x1680 ||
    (0x2000 ≤ n && n ≤ 0x200A) || n == 0x2028 || n == 0x2029 || n == 0x202F ||
    n == 0x205F || n == 0x3000

/-- Whether a character is a control character (the general category Cc). -/
def isControl (c : Char) : Bool :=
  let n := c.toNat
  n < 0x20 || (0x7F ≤ n && n ≤ 0x9F)

/-- What is left after dropping a start is no longer than the whole. -/
theorem length_dropWhile_le {α : Type} (p : α → Bool) (xs : List α) :
    (xs.dropWhile p).length ≤ xs.length :=
  (List.dropWhile_suffix p).length_le

/-- Drops the characters at the end that satisfy a test. -/
def dropEndWhile (p : Char → Bool) (cs : List Char) : List Char :=
  (cs.reverse.dropWhile p).reverse

/-- Drops the blank characters at both ends. -/
def trim (cs : List Char) : List Char :=
  dropEndWhile isBlank (cs.dropWhile isBlank)

/-- Drops the blank characters at both ends of a string. -/
def trimString (s : String) : String :=
  String.ofList (trim s.toList)

/-- The maximal runs of characters that are not blank, in order. -/
def words (cs : List Char) : List (List Char) :=
  match h : cs.dropWhile isBlank with
  | [] => []
  | c :: rest =>
    let word := c :: rest.takeWhile (fun d => !isBlank d)
    have : (rest.dropWhile fun d => !isBlank d).length < cs.length := by
      have h₁ : (c :: rest).length ≤ cs.length :=
        h ▸ length_dropWhile_le isBlank cs
      have h₂ : (rest.dropWhile fun d => !isBlank d).length ≤ rest.length :=
        length_dropWhile_le _ rest
      simp only [List.length_cons] at h₁
      omega
    word :: words (rest.dropWhile fun d => !isBlank d)
termination_by cs.length

/-- The words of a string. -/
def wordsOf (s : String) : List String :=
  (words s.toList).map String.ofList

/-- The first word of a string, or the empty string. -/
def firstWord (s : String) : String :=
  match words s.toList with
  | [] => ""
  | w :: _ => String.ofList w

/-- The pieces of a text between the characters that satisfy a test; a text with `n` of
these has `n + 1` pieces. -/
def cutAt (p : Char → Bool) : List Char → List (List Char)
  | [] => [[]]
  | c :: rest =>
    if p c then [] :: cutAt p rest
    else
      match cutAt p rest with
      | [] => [[c]]
      | piece :: pieces => (c :: piece) :: pieces

/-- What follows a given start, if the text starts that way. -/
def dropStart? : List Char → List Char → Option (List Char)
  | [], cs => some cs
  | _ :: _, [] => none
  | p :: ps, c :: cs => if p = c then dropStart? ps cs else none

theorem dropStart?_eq_some {p cs rest : List Char} (h : dropStart? p cs = some rest) :
    cs = p ++ rest := by
  induction p generalizing cs with
  | nil => simpa [dropStart?] using h
  | cons x xs ih =>
    cases cs with
    | nil => simp [dropStart?] at h
    | cons c cs =>
      by_cases hx : x = c
      · simp [dropStart?, hx] at h
        simp [hx, ih h]
      · simp [dropStart?, hx] at h

/-- Whether a text occurs in another. -/
def occursIn (needle : List Char) : List Char → Bool
  | [] => needle.isEmpty
  | c :: rest => needle.isPrefixOf (c :: rest) || occursIn needle rest

/-- Replaces the occurrences of `needle`, read from the left without overlap. Nothing is
replaced when it is empty. -/
def replaceAll (needle by' : List Char) (cs : List Char) : List Char :=
  match cs with
  | [] => []
  | c :: rest =>
    match h : dropStart? needle (c :: rest) with
    | some after =>
      if hn : needle = [] then c :: replaceAll needle by' rest
      else
        have : after.length < (c :: rest).length := by
          have hl := congrArg List.length (dropStart?_eq_some h)
          have : 0 < needle.length := List.length_pos_iff.2 hn
          simp only [List.length_append] at hl
          omega
        by' ++ replaceAll needle by' after
    | none => c :: replaceAll needle by' rest
termination_by cs.length
decreasing_by
  · simp
  · exact this
  · simp

/-- Whether every character is an ASCII decimal digit and there is at least one. -/
def isDigits (cs : List Char) : Bool :=
  !cs.isEmpty && cs.all Char.isDigit

/-- The number that a run of decimal digits names. -/
def digitsValue (cs : List Char) : Nat :=
  cs.foldl (fun n c => n * 10 + (c.toNat - 48)) 0

end SqlGateway.Text
