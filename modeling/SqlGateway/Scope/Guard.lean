import SqlGateway.Scope.Reference
import SqlGateway.Policy.Basic

/-!
# The Scope Guard

Decides whether a text stays inside the databases that the policy authorizes. Every
reference that does not gives one violation; the same violation is reported once.

* At level `strict` only the session's own database may be named, and databases may not be
  listed.
* At level `restricted` the system schemas may be read too.
* At level `permissive` statements that change schema objects may name any database; the
  session's own database may still not be dropped.
-/

namespace SqlGateway.Scope

open Text (NameSet)

/-- The schemas that `restricted` access may read. -/
def systemDatabases : List String :=
  ["information_schema", "mysql", "performance_schema", "sys"]

/-- Whether a database, in lower case, may be named. -/
def isAuthorized (policy : Policy) (name : String) : Bool :=
  (policy.database != "" && Text.sameName name policy.database) ||
    (policy.accessLevel == .restricted && systemDatabases.contains name)

/-- Whether a database, in lower case, is the session's own. -/
def isPrimary (policy : Policy) (name : String) : Bool :=
  let primary := Text.lowerString policy.database
  primary != "" && name == primary

/-- What is wrong with a reference, if anything is. -/
def violation? (policy : Policy) (r : Reference) : Option String :=
  let level := policy.accessLevel
  let name := r.lowerName
  let atLevel := " is not allowed at access level " ++ level.label
  match r.kind with
  | .qualifier =>
    if isAuthorized policy name || (r.inDefinition && level == .permissive) then none
    else if level == .strict && systemDatabases.contains name then
      some ("access to system database '" ++ name ++ "' is not allowed at access level strict")
    else
      some ("access to database '" ++ name ++ "' is not allowed (authorized: '" ++
        policy.database ++ "')")
  | .use =>
    if isAuthorized policy name then none
    else some ("USE " ++ name ++ " switches to a database outside the authorized scope")
  | .createDatabase =>
    if level == .permissive then none else some ("CREATE DATABASE " ++ name ++ atLevel)
  | .dropDatabase =>
    if isPrimary policy name then
      some ("dropping the primary database '" ++ name ++ "' is never allowed")
    else if level == .permissive then none
    else some ("DROP DATABASE " ++ name ++ atLevel)
  | .alterDatabase =>
    if isPrimary policy name || level == .permissive then none
    else some ("ALTER DATABASE " ++ name ++ atLevel)

/-- Keeps the first of equal strings. -/
def firstOfEach (seen : List String) : List String → List String
  | [] => []
  | s :: rest =>
    if seen.contains s then firstOfEach seen rest else s :: firstOfEach (s :: seen) rest

/-- The violation of listing databases, if the text does and may not. -/
def listingViolations (sql : String) (policy : Policy) : List String :=
  if policy.accessLevel == .strict && Text.isFound showDatabases? (maskSql sql) then
    ["SHOW DATABASES is not allowed at access level strict"]
  else []

/-- The violations of a text, whether or not isolation is on. -/
def violations (sql : String) (policy : Policy) : List String :=
  firstOfEach []
    (listingViolations sql policy ++ (references sql).filterMap (violation? policy))

/-- The violations that count: none when isolation is off. -/
def check (sql : String) (policy : Policy) : List String :=
  if policy.isolation then violations sql policy else []

/-- The databases that a session may read. -/
def allowedDatabases (policy : Policy) : List String :=
  (if policy.database = "" then [] else [policy.database]) ++
    (if policy.accessLevel = .restricted then systemDatabases else [])

/-- Whether a text names a database other than the session's own. -/
def isCrossDatabase (sql : String) (policy : Policy) : Bool :=
  (references sql).any fun r => r.lowerName != Text.lowerString policy.database

/-- Everything about the databases of a text, for diagnostics. -/
structure AccessReport where
  isolation : Bool
  primary : String
  accessLevel : AccessLevel
  allowed : List String
  referenced : NameSet
  crossDatabase : Bool
  violations : List String
  deriving DecidableEq, Repr

/-- Reports on a text. Violations are given even when isolation is off, to show what turning
it on would do. -/
def report (sql : String) (policy : Policy) : AccessReport where
  isolation := policy.isolation
  primary := policy.database
  accessLevel := policy.accessLevel
  allowed := allowedDatabases policy
  referenced := referencedDatabases sql
  crossDatabase := isCrossDatabase sql policy
  violations := violations sql policy

end SqlGateway.Scope
