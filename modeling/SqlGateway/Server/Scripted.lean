import SqlGateway.Server.Basic
import SqlGateway.Text.Case
import SqlGateway.Text.Blank

/-!
# Scripted Servers

A server that follows a script instead of keeping data: it fails as it is told, answers a
statement by the first result that is laid out for the statement's start, and says how many
rows were changed. It shows what the gateway does, and what it does not do, without a
network.
-/

namespace SqlGateway

open Text

/-- What a scripted server does. -/
structure Script where
  /-- The plugins that it rejects. -/
  rejected : List (Option AuthPlugin)
  /-- The error by which it fails to open any pool. -/
  openError : Option GatewayError
  /-- How many milliseconds it takes to hand out a connection. -/
  acquireDelay : Option Nat
  /-- Results by the start of the statement, in upper case; the first counts. -/
  results : List (String × QueryResult)
  /-- Errors by the start of the statement, in upper case; they come before results. -/
  errors : List (String × GatewayError)
  affected : Nat
  /-- How many pools were opened. -/
  opened : Nat
  /-- The pools that were closed. -/
  closed : List Nat

namespace Script

/-- A server that fails nowhere. -/
def initial : Script where
  rejected := []
  openError := none
  acquireDelay := none
  results := []
  errors := []
  affected := 0
  opened := 0
  closed := []

/-- What is laid out for a statement. -/
def find? {α : Type} (laidOut : List (String × α)) (sql : String) : Option α :=
  let text := upper (sql.toList.dropWhile isBlank)
  (laidOut.find? fun e => e.1.toList.isPrefixOf text).map Prod.snd

/-- Lays out a result for the statements with a start. -/
def addResult (start : String) (r : QueryResult) (t : Script) : Script :=
  { t with results := t.results ++ [(upperString start, r)] }

/-- Lays out an error for the statements with a start. -/
def addError (start : String) (e : GatewayError) (t : Script) : Script :=
  { t with errors := t.errors ++ [(upperString start, e)] }

/-- Opens a pool; pools are numbered in the order they are opened. -/
def openPool (p : ConnectParams) (t : Script) : Except GatewayError Nat × Script :=
  match t.openError with
  | some e => (.error e, t)
  | none =>
    if t.rejected.contains p.authPlugin then
      (.error (.authentication ("Authentication plugin '" ++ AuthPlugin.label p.authPlugin ++
        "' cannot be loaded")), t)
    else (.ok t.opened, { t with opened := t.opened + 1 })

/-- Closes a pool; once closed it stays so. -/
def closePool (pool : Nat) (t : Script) : Script :=
  if t.closed.contains pool then t else { t with closed := t.closed ++ [pool] }

/-- The milliseconds that a span of time lasts, a part of one included. -/
def wholeMilliseconds (d : Duration) : Nat :=
  (d.total + (1000000 - 1)) / 1000000

/-- Hands out a connection of an open pool, unless the delay is longer than the time
given. -/
def acquire (pool : Nat) (timeout : Duration) (t : Script) :
    Option (Except GatewayError Unit) × Script :=
  if t.closed.contains pool then (some (.error (.poolUnavailable "pool is closed")), t)
  else if wholeMilliseconds timeout < t.acquireDelay.getD 0 then (none, t)
  else (some (.ok ()), t)

/-- The error of a statement, if one is laid out, or else an answer. -/
def answer {α : Type} (sql : String) (a : α) (t : Script) : Except GatewayError α × Script :=
  match find? t.errors sql with
  | some e => (.error e, t)
  | none => (.ok a, t)

/-- The result for a statement that none is laid out for. -/
def echo (sql : String) : QueryResult :=
  .ofRows [⟨"result", "VARCHAR"⟩] [[.string ("Mock result for: " ++ sql)]]

/-- Answers a statement that returns rows. -/
def fetch (sql : String) (t : Script) : Except GatewayError QueryResult × Script :=
  t.answer sql { (find? t.results sql).getD (echo sql) with time := ⟨0, 1000000⟩ }

/-- The server that follows its script. -/
def server : Server Script where
  openPool := openPool
  closePool := closePool
  acquire := acquire
  fetch _ sql _ t := t.fetch sql
  execute _ sql _ t := t.answer sql t.affected
  control _ c t := t.answer c.text ()

end Script

end SqlGateway
