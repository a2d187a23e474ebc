/-!
# Log Events

What the gateway reports about its work is a list of events, given as a value beside each
result. An event has a level, the component that reports it, a message and named fields.
-/

namespace SqlGateway.Log

/-- How serious an event is. -/
inductive Level where
  | debug
  | info
  | warn
  | error
  deriving DecidableEq, Repr

namespace Level

/-- The name of a level. -/
def label : Level → String
  | debug => "DEBUG"
  | info => "INFO"
  | warn => "WARN"
  | error => "ERROR"

/-- How much a log has to tell to have events of a level: the more serious, the less. -/
def verbosity : Level → Nat
  | error => 1
  | warn => 2
  | info => 3
  | debug => 4

end Level

/-- A named field of an event. -/
structure Field where
  name : String
  value : String
  /-- Whether the value is a string that a log line writes in quotes. -/
  quoted : Bool
  deriving DecidableEq, Repr

/-- A field that is written as it stands. -/
def Field.shown (name value : String) : Field := ⟨name, value, false⟩

/-- A field that a log line writes in quotes. -/
def Field.inQuotes (name value : String) : Field := ⟨name, value, true⟩

/-- An event. -/
structure Event where
  level : Level
  /-- The component that reports the event. -/
  component : String
  message : String
  fields : List Field
  deriving DecidableEq, Repr

end SqlGateway.Log
