import SqlGateway.Text.Blank
import SqlGateway.Decimal.Layout

/-!
# Dates and Times

A date, a time of day, or both with or without an offset, as TOML writes them. A fraction of
a second keeps nine places.
-/

namespace SqlGateway.Toml

open Text

/-- A day of the calendar. -/
structure Date where
  year : Nat
  month : Nat
  day : Nat
  deriving DecidableEq, Repr

/-- A time of day. -/
structure Time where
  hour : Nat
  minute : Nat
  second : Nat
  nanosecond : Nat
  deriving DecidableEq, Repr

/-- The offset of a time from universal time. -/
inductive Offset where
  | universal
  | custom (negative : Bool) (minutes : Nat)
  deriving DecidableEq, Repr

/-- A date, a time of day, or both. -/
structure Datetime where
  date : Option Date
  time : Option Time
  offset : Option Offset
  deriving DecidableEq, Repr

/-! ### Reading -/

/-- The value of a run of exactly `n` digits. -/
def readDigits? (n : Nat) (cs : List Char) : Option Nat :=
  if isDigits cs && cs.length = n then some (digitsValue cs) else none

/-- Whether a year has a day more. -/
def isLeapYear (year : Nat) : Bool :=
  year % 4 = 0 && (year % 100 != 0 || year % 400 = 0)

/-- How many days a month has. -/
def daysIn (year month : Nat) : Nat :=
  if month = 2 then if isLeapYear year then 29 else 28
  else if [4, 6, 9, 11].contains month then 30
  else 31

/-- Reads a date: `YYYY-MM-DD`. -/
def readDate? (cs : List Char) : Option Date := do
  match cutAt (· == '-') cs with
  | [y, m, d] =>
    let year ← readDigits? 4 y
    let month ← readDigits? 2 m
    let day ← readDigits? 2 d
    if 1 ≤ month ∧ month ≤ 12 ∧ 1 ≤ day ∧ day ≤ daysIn year month then
      some ⟨year, month, day⟩
    else none
  | _ => none

/-- The nanoseconds that the digits after the point mean. -/
def readFraction? (cs : List Char) : Option Nat :=
  if isDigits cs then
    let kept := cs.take 9
    some (digitsValue kept * Nat.pow 10 (9 - kept.length))
  else none

/-- Reads a time of day: `HH:MM:SS` and a fraction of the second. -/
def readTime? (cs : List Char) : Option Time := do
  let nanosecond ← match cs.dropWhile (· != '.') with
    | [] => some 0
    | _ :: fraction => readFraction? fraction
  match cutAt (· == ':') (cs.takeWhile (· != '.')) with
  | [h, m, s] =>
    let hour ← readDigits? 2 h
    let minute ← readDigits? 2 m
    let second ← readDigits? 2 s
    if hour < 24 ∧ minute < 60 ∧ second ≤ 60 then some ⟨hour, minute, second, nanosecond⟩
    else none
  | _ => none

/-- Reads an offset: `Z`, or a sign and `HH:MM`. -/
def readOffset? (cs : List Char) : Option Offset := do
  match cs with
  | ['Z'] | ['z'] => some .universal
  | sign :: rest =>
    match cutAt (· == ':') rest with
    | [h, m] =>
      let hour ← readDigits? 2 h
      let minute ← readDigits? 2 m
      if (sign = '+' ∨ sign = '-') ∧ hour < 24 ∧ minute < 60 then
        some (.custom (sign == '-') (60 * hour + minute))
      else none
    | _ => none
  | [] => none

/-- Reads a time of day and perhaps an offset. -/
def readClock? (cs : List Char) : Option (Time × Option Offset) := do
  let isPlain (c : Char) : Bool := c.isDigit || c == ':' || c == '.'
  let time ← readTime? (cs.takeWhile isPlain)
  match cs.dropWhile isPlain with
  | [] => some (time, none)
  | offset => (readOffset? offset).map fun o => (time, some o)

/-- Reads a date, a time of day, or both with one character between them. -/
def readDatetime? (cs : List Char) : Option Datetime :=
  match readDate? (cs.take 10) with
  | some date =>
    match cs.drop 10 with
    | [] => some ⟨some date, none, none⟩
    | mark :: rest =>
      if mark = 'T' ∨ mark = 't' ∨ mark = ' ' then
        (readClock? rest).map fun (time, offset) => ⟨some date, some time, offset⟩
      else none
  | none => (readTime? cs).map fun time => ⟨none, some time, none⟩

/-! ### Writing -/

/-- A number with at least `n` digits. -/
def padded (n value : Nat) : String :=
  let digits := Nat.toDigits 10 value
  Decimal.zeros (n - digits.length) ++ String.ofList digits

/-- Writes a date. -/
def Date.write (d : Date) : String :=
  padded 4 d.year ++ "-" ++ padded 2 d.month ++ "-" ++ padded 2 d.day

/-- Writes a time of day; a fraction ends in a digit that is not zero. -/
def Time.write (t : Time) : String :=
  let fraction := String.ofList (dropEndWhile (· == '0') (padded 9 t.nanosecond).toList)
  padded 2 t.hour ++ ":" ++ padded 2 t.minute ++ ":" ++ padded 2 t.second ++
    (if fraction = "" then "" else "." ++ fraction)

/-- Writes an offset. -/
def Offset.write : Offset → String
  | universal => "Z"
  | custom negative minutes =>
    (if negative && minutes != 0 then "-" else "+") ++ padded 2 (minutes / 60) ++ ":" ++
      padded 2 (minutes % 60)

/-- Writes a date, a time of day, or both. -/
def Datetime.write (d : Datetime) : String :=
  (d.date.map Date.write).getD "" ++
    (if d.date.isSome && d.time.isSome then "T" else "") ++
    (d.time.map Time.write).getD "" ++ (d.offset.map Offset.write).getD ""

end SqlGateway.Toml
