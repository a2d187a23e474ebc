import SqlGateway.Session.Pool

/-!
# Registries of Sessions

The sessions of many callers over one server. The registry knows the live sessions by their
names; a session that it has dropped keeps working for whoever still holds it, so all
sessions are kept in the order they were made, and a name leads to a place in that order.
-/

namespace SqlGateway

/-- Sessions over one server. -/
structure Registry (σ : Type) extends Link σ where
  /-- All sessions, in the order they were made. -/
  sessions : List Session
  /-- The places of the live sessions. -/
  places : Text.NameMap Nat

namespace Registry

variable {σ α : Type}

/-- The registry without sessions. -/
def new (server : σ) : Registry σ :=
  { server, calls := [], events := [], sessions := [], places := .empty }

/-- The place of the live session with a name. -/
def find? (id : String) (g : Registry σ) : Option Nat :=
  g.places.get? id

/-- How many sessions are live. -/
def size (g : Registry σ) : Nat :=
  g.places.entries.length

/-- The run of the session at a place. -/
def run? (place : Nat) (g : Registry σ) : Option (Run σ) :=
  g.sessions[place]?.map fun session => { toSession := session, toLink := g.toLink }

/-- Puts the run of the session at a place back. -/
def put (place : Nat) (r : Run σ) (g : Registry σ) : Registry σ :=
  { g with toLink := r.toLink, sessions := g.sessions.set place r.toSession }

/-- Lets the session at a place do something. -/
def within (place : Nat) (f : Run σ → α × Run σ) (g : Registry σ) : Option (α × Registry σ) :=
  (g.run? place).map fun r =>
    let (a, r) := f r
    (a, g.put place r)

variable (s : Server σ)

/-- Closes the pool of the session at a place. -/
def closeAt (place : Nat) (g : Registry σ) : Registry σ :=
  match g.run? place with
  | some r => g.put place (r.closePool s)
  | none => g

/-- Makes a session; an older live session with the same name is dropped and closed. -/
def create (id : String) (p : Policy) (g : Registry σ) : Registry σ :=
  let made := { g with
    sessions := g.sessions ++ [Session.new id p]
    places := g.places.insert id g.sessions.length }
  match g.find? id with
  | some place => made.closeAt s place
  | none => made

/-- Drops a session and closes its pool; whether there was one. -/
def close (id : String) (g : Registry σ) : Bool × Registry σ :=
  match g.find? id with
  | some place => (true, { g with places := g.places.erase id }.closeAt s place)
  | none => (false, g)

/-- Drops all sessions and closes their pools. -/
def closeAll (g : Registry σ) : Registry σ :=
  (g.places.entries.map Prod.snd).foldl (fun g place => g.closeAt s place)
    { g with places := .empty }

end Registry

end SqlGateway
