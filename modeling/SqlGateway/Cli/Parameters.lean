import SqlGateway.Policy.Sources
import SqlGateway.Query.Placeholder

/-!
# Parameters on the Command Line

Parameters of a statement are given as `NAME=VALUE`. What reads as a whole number is one, the
word `null` in any letter case is the null value, and everything else is a string.
-/

namespace SqlGateway.Cli

/-- The value that a text stands for. -/
def parameterValue (text : String) : Value :=
  match Decimal.readInt64? text.toList with
  | some n => .int n
  | none => if Text.sameName text "null" then .null else .string text

/-- Reads parameters; of several with one name the last counts. -/
def readParameters (texts : List String) : Except PairError Query.Params :=
  if texts.isEmpty then .ok .none
  else do
    let pairs ← texts.mapM (splitPair "--param")
    return .named (.ofList (pairs.map fun p => (p.1, parameterValue p.2)))

end SqlGateway.Cli
