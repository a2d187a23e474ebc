/-!
# Sets of Code Points

A property of characters that a standard lists range by range is kept as an array of
closed intervals in ascending order, and membership is decided by bisection. The tables
of this folder start at the first character past ASCII: every predicate answers for an
ASCII character by a rule of its own and looks into its table only for the rest.
-/

namespace SqlGateway.Text

/-- A set of code points: disjoint closed intervals in ascending order. -/
abbrev Intervals := Array (Nat × Nat)

/-- Bisection between the positions `lo` (included) and `hi` (excluded). -/
def Intervals.search (table : Intervals) (code lo hi : Nat) : Bool :=
  if lo < hi then
    let mid := (lo + hi) / 2
    match table[mid]? with
    | none => false
    | some (first, last) =>
      if code < first then table.search code lo mid
      else if last < code then table.search code (mid + 1) hi
      else true
  else false
termination_by hi - lo
decreasing_by all_goals omega

/-- Whether a code point lies in one of the intervals. -/
def Intervals.holds (table : Intervals) (code : Nat) : Bool :=
  table.search code 0 table.size

end SqlGateway.Text
