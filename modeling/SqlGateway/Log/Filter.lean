import SqlGateway.Log
import SqlGateway.Decimal.Read
import SqlGateway.Text.Alphabetic
import SqlGateway.Text.Numeric

/-!
# Log Filters

A filter says how much of each component goes into a log. It is written as directives with
commas between them: a level, the start of a component's name, or both with an equality sign
between them. Of the directives whose start fits a component the longest counts, and of two
with the same start the last. A level is a name or a number, from 0 for nothing to 5 for
everything; a start without a level lets everything in.
-/

namespace SqlGateway.Log

open Text

/-- How much of the components with some start goes into a log. -/
structure Directive where
  start : String
  verbosity : Nat
  deriving DecidableEq, Repr

/-- The directives of a log. -/
abbrev Filter := List Directive

/-- The verbosity that lets everything in. -/
def greatestVerbosity : Nat := 5

/-- Reads a level. -/
def readVerbosity? (text : String) : Option Nat :=
  match Decimal.readBelow? (greatestVerbosity + 1) text.toList with
  | some n => some n
  | none =>
    match String.ofList (text.toList.map Char.toLower) with
    | "off" => some 0
    | "error" => some Level.error.verbosity
    | "warn" => some Level.warn.verbosity
    | "info" => some Level.info.verbosity
    | "debug" => some Level.debug.verbosity
    | "trace" => some greatestVerbosity
    | _ => none

/-- Whether a directive may begin with a character. -/
def beginsDirective (c : Char) : Bool :=
  isAlphabetic c || isNumeric c || ['-', ':', '_'].contains c

/-- Reads a directive. -/
def Directive.read? (cs : List Char) : Option Directive :=
  if !cs.head?.any beginsDirective || cs.contains '[' then none
  else
    let start := String.ofList (cs.takeWhile (· != '='))
    match cs.dropWhile (· != '=') with
    | [] =>
      match readVerbosity? start with
      | some n => some ⟨"", n⟩
      | none => some ⟨start, greatestVerbosity⟩
    | [_] => some ⟨start, greatestVerbosity⟩
    | _ :: level => (readVerbosity? (String.ofList level)).map (⟨start, ·⟩)

namespace Filter

/-- The filter that lets in what is not for debugging only. -/
def standard : Filter := [⟨"", Level.info.verbosity⟩]

/-- Reads a filter; without directives it lets errors in. -/
def read? (text : String) : Option Filter :=
  match (cutAt (· == ',') text.toList).filter (fun d => !d.isEmpty) with
  | [] => some [⟨"", Level.error.verbosity⟩]
  | directives => directives.mapM Directive.read?

/-- The filter that a variable describes; one that is missing or cannot be read describes the
standard one. -/
def ofVariable (text : Option String) : Filter :=
  (text.bind read?).getD standard

/-- How much of a component goes into the log. -/
def verbosityFor (component : String) (f : Filter) : Nat :=
  let fitting := f.filter fun d => d.start.toList.isPrefixOf component.toList
  let best := fitting.foldl
    (fun (best : Directive) d => if best.start.length ≤ d.start.length then d else best) ⟨"", 0⟩
  best.verbosity

/-- Whether an event goes into the log. -/
def lets (f : Filter) (e : Event) : Bool :=
  e.level.verbosity ≤ f.verbosityFor e.component

end Filter

end SqlGateway.Log
