/-!
# Errors of the Gateway

Every refusal and every failure that a caller sees is one of these cases, so callers can
tell which rule fired without reading the message. The first four are denials: they are
decided before any statement reaches the server.
-/

namespace SqlGateway

/-- A refusal or a failure. -/
inductive GatewayError where
  /-- The text is empty, too long or not a statement. -/
  | validation (message : String)
  /-- The risk is not allowed, or the text has a blocked pattern. -/
  | policy (message : String)
  /-- The text leaves the authorized databases. -/
  | scope (violations : List String)
  /-- The verb is refused whatever the policy says. -/
  | hardBlock (operation : String)
  /-- The server rejected the authentication plugin. -/
  | authentication (message : String)
  /-- The pool could not be opened. -/
  | connection (message : String)
  /-- The pool is closed or failed, or no connection came free in time. -/
  | poolUnavailable (message : String)
  /-- The server reported a missing privilege. -/
  | permission (operation table message : String)
  /-- The server reported another error for a statement. -/
  | execution (message : String)
  /-- A setting or a configuration file is not valid. -/
  | config (message : String)
  /-- A state that should not occur. -/
  | internal (message : String)
  deriving DecidableEq, Repr

namespace GatewayError

/-- The name of the case. -/
def category : GatewayError → String
  | validation _ => "validation"
  | policy _ => "policy"
  | scope _ => "scope"
  | hardBlock _ => "hard_block"
  | authentication _ => "authentication"
  | connection _ => "connection"
  | poolUnavailable _ => "pool_unavailable"
  | permission .. => "permission"
  | execution _ => "execution"
  | config _ => "config"
  | internal _ => "internal"

/-- The message shown to a user. -/
def message : GatewayError → String
  | validation m => "Validation error: " ++ m
  | policy m => "Policy violation: " ++ m
  | scope violations => "Scope violation: " ++ String.intercalate "; " violations
  | hardBlock operation => "Operation " ++ operation ++ " is blocked unconditionally"
  | authentication m => "Authentication error: " ++ m
  | connection m => "Connection error: " ++ m
  | poolUnavailable m => "Pool unavailable: " ++ m
  | permission operation table m =>
    "Permission denied for " ++ operation ++ " on " ++ table ++ ": " ++ m
  | execution m => "Execution error: " ++ m
  | config m => "Configuration error: " ++ m
  | internal m => "Internal error: " ++ m

/-- Whether the error is a refusal decided before any statement reaches the server. -/
def isDenial : GatewayError → Bool
  | validation _ | policy _ | scope _ | hardBlock _ => true
  | _ => false

/-- Whether reconnecting may resolve the failure. -/
def isRetryable : GatewayError → Bool
  | poolUnavailable _ => true
  | _ => false

end GatewayError

end SqlGateway
