import SqlGateway.Text.Case
import SqlGateway.Text.Blank

/-!
# Levels of Risk

Four levels in ascending order. A policy holds the set of levels that it allows.
-/

namespace SqlGateway

/-- How much damage a statement can do. -/
inductive RiskLevel where
  | low
  | medium
  | high
  | critical
  deriving DecidableEq, Repr

namespace RiskLevel

/-- The place of a level in the order. -/
def rank : RiskLevel → Nat
  | low => 1
  | medium => 2
  | high => 3
  | critical => 4

/-- All levels, ascending. -/
def all : List RiskLevel := [low, medium, high, critical]

/-- The name of a level. -/
def label : RiskLevel → String
  | low => "LOW"
  | medium => "MEDIUM"
  | high => "HIGH"
  | critical => "CRITICAL"

/-- The name of a level in diagnostics. -/
def debugLabel : RiskLevel → String
  | low => "Low"
  | medium => "Medium"
  | high => "High"
  | critical => "Critical"

/-- The level with a name. -/
def ofLabel? : String → Option RiskLevel
  | "LOW" => some low
  | "MEDIUM" => some medium
  | "HIGH" => some high
  | "CRITICAL" => some critical
  | _ => none

/-- Reads a level, ignoring letter case and surrounding blanks. -/
def read? (text : String) : Option RiskLevel :=
  ofLabel? (Text.upperString (Text.trimString text))

/-- Whether a level warrants a warning. -/
def isDangerous (level : RiskLevel) : Bool :=
  high.rank ≤ level.rank

/-- The higher of two levels. -/
def max (a b : RiskLevel) : RiskLevel :=
  if a.rank ≤ b.rank then b else a

end RiskLevel

/-- A set of levels of risk, by membership. -/
structure RiskSet where
  low : Bool
  medium : Bool
  high : Bool
  critical : Bool
  deriving DecidableEq, Repr

namespace RiskSet

/-- Whether a level is in the set. -/
def contains (s : RiskSet) : RiskLevel → Bool
  | .low => s.low
  | .medium => s.medium
  | .high => s.high
  | .critical => s.critical

/-- The levels of the set, ascending. -/
def toList (s : RiskSet) : List RiskLevel :=
  RiskLevel.all.filter s.contains

/-- The set of the levels in a list. -/
def ofList (levels : List RiskLevel) : RiskSet :=
  ⟨levels.contains .low, levels.contains .medium, levels.contains .high,
    levels.contains .critical⟩

/-- Whether the set has no level. -/
def isEmpty (s : RiskSet) : Bool :=
  !(s.low || s.medium || s.high || s.critical)

/-- The names of the levels, ascending. -/
def labels (s : RiskSet) : List String :=
  s.toList.map RiskLevel.label

/-- Why a level is refused, if it is not in the set. -/
def refusal? (s : RiskSet) (level : RiskLevel) : Option String :=
  if s.contains level then none
  else
    some ("risk level " ++ level.label ++ " is not allowed (allowed: " ++
      String.intercalate ", " s.labels ++ ")")

end RiskSet

end SqlGateway
