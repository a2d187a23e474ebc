import SqlGateway.Proofs.Session.Service
import SqlGateway.Proofs.Text.NameMap
import SqlGateway.Session.Registry

/-!
# What Callers Ask of a Registry

Many callers share one registry and one server. What each asks of it is a `Demand`: that a session
is made, looked up or closed, that all are closed, or that a session does something, be it the
live one with a name or one that was made before and is still held. `Registry.play` answers
demands one after another.

The sessions with a name are known by their positions among those that were made with it
(`Registry.placesOf`); the places that they have in the registry depend on what others made.

## Main results

* `placesOf_put`, `map_seenAt_put`: one session does something.
* `placesOf_make`, `map_seenAt_make`: a session is made.
-/

namespace SqlGateway

/-! ### Demands -/

/-- What callers ask of a registry. -/
inductive Demand where
  | create (id : String) (policy : Policy)
  /-- The live session with a name is looked up. -/
  | get (id : String)
  | close (id : String)
  | closeAll
  /-- The live session with a name does something, or one that was made with this name and is
  still held, by how many were made before it. -/
  | ask (id : String) (held : Option Nat) (service : Service)

/-- What a registry answers. -/
inductive Answer where
  | done
  | found (session : Option Session)
  | closed (wasLive : Bool)
  | served (reply : Option Reply)

/-- Whether a demand concerns the sessions with a name. -/
def Demand.concerns (id : String) : Demand → Bool
  | create name _ | get name | close name | ask name _ _ => name == id
  | closeAll => true

namespace Registry

variable {σ : Type} (s : Server σ)

/-- The places of the sessions that were made with a name, in the order they were made. -/
def placesOf (id : String) (g : Registry σ) : List Nat :=
  (List.range g.sessions.length).filter fun place => g.sessions[place]?.map (·.id) == some id

/-- What is known of the session at a place. -/
def seenAt (g : Registry σ) (place : Nat) : Option Session :=
  g.sessions[place]?.map Session.seen

/-- The place of the session that is meant. -/
def placeFor (id : String) (held : Option Nat) (g : Registry σ) : Option Nat :=
  match held with
  | none => g.find? id
  | some n => (g.placesOf id)[n]?

/-- Answers a demand. -/
def answer (demand : Demand) (g : Registry σ) : Answer × Registry σ :=
  match demand with
  | .create name policy => (.done, g.create s name policy)
  | .get name => (.found ((g.find? name).bind g.seenAt), g)
  | .close name => (g.close s name).map .closed id
  | .closeAll => (.done, g.closeAll s)
  | .ask name held service =>
    match (g.placeFor name held).bind fun place => g.within place (·.grant s service) with
    | some (reply, g) => (.served (some reply), g)
    | none => (.served none, g)

/-- Answers demands one after another. -/
def play : List Demand → Registry σ → List (Demand × Answer) × Registry σ
  | [], g => ([], g)
  | demand :: rest, g =>
    let (answer, g) := g.answer s demand
    let (answers, g) := play rest g
    ((demand, answer) :: answers, g)

/-- What is known under a name: the sessions that were made with it, and the live one. -/
def portrait (id : String) (g : Registry σ) : List (Option Session) × Option Session :=
  ((g.placesOf id).map g.seenAt, (g.find? id).bind g.seenAt)

variable {g : Registry σ} {r r₁ : Run σ} {id : String} {place other : Nat}

/-! ### Places -/

theorem mem_placesOf : place ∈ g.placesOf id ↔
    ∃ session, g.sessions[place]? = some session ∧ session.id = id := by
  rw [placesOf, List.mem_filter, beq_iff_eq, Option.map_eq_some_iff, List.mem_range]
  constructor
  · exact fun h => h.2
  · rintro ⟨session, hsession, hid⟩
    exact ⟨(List.getElem?_eq_some_iff.mp hsession).1, session, hsession, hid⟩

theorem nodup_placesOf (id : String) (g : Registry σ) : (g.placesOf id).Nodup :=
  List.nodup_range.filter _

/-- A session has one name. -/
theorem not_mem_placesOf {name : String} (hmem : place ∈ g.placesOf name) (hne : name ≠ id) :
    place ∉ g.placesOf id := by
  intro hmem'
  obtain ⟨session, hsession, rfl⟩ := mem_placesOf.mp hmem
  obtain ⟨session', hsession', rfl⟩ := mem_placesOf.mp hmem'
  rw [hsession] at hsession'
  exact hne (congrArg Session.id (Option.some.inj hsession'))

theorem sessions_of_run? (hrun : g.run? place = some r) :
    g.sessions[place]? = some r.toSession ∧ r.server = g.server := by
  obtain ⟨session, hsession, rfl⟩ := Option.map_eq_some_iff.mp hrun
  exact ⟨hsession, rfl⟩

theorem exists_run? (hmem : place ∈ g.placesOf id) : ∃ r, g.run? place = some r ∧ r.id = id := by
  obtain ⟨session, hsession, hid⟩ := mem_placesOf.mp hmem
  refine ⟨⟨session, g.toLink⟩, ?_, hid⟩
  rw [run?, hsession]
  rfl

theorem sessions_put_self (hrun : g.run? place = some r) :
    (g.put place r₁).sessions[place]? = some r₁.toSession := by
  have hlt := (List.getElem?_eq_some_iff.mp (sessions_of_run? hrun).1).1
  exact List.getElem?_set_self hlt

theorem sessions_put_of_ne (hne : other ≠ place) :
    (g.put place r₁).sessions[other]? = g.sessions[other]? :=
  List.getElem?_set_ne hne.symm

/-- What a session does gives no session another name. -/
theorem placesOf_put (hrun : g.run? place = some r) (hid : r₁.id = r.id) (name : String) :
    (g.put place r₁).placesOf name = g.placesOf name := by
  have hlength : (g.put place r₁).sessions.length = g.sessions.length := List.length_set
  rw [placesOf, placesOf, hlength]
  refine List.filter_congr fun other _ => ?_
  by_cases hother : other = place
  · subst hother
    rw [sessions_put_self hrun, (sessions_of_run? hrun).1, Option.map_some, Option.map_some, hid]
  · rw [sessions_put_of_ne hother]

theorem seenAt_put_self (hrun : g.run? place = some r) :
    (g.put place r₁).seenAt place = some r₁.seen := by
  rw [seenAt, sessions_put_self hrun]
  rfl

theorem seenAt_put_of_ne (hne : other ≠ place) : (g.put place r₁).seenAt other = g.seenAt other := by
  rw [seenAt, sessions_put_of_ne hne, seenAt]

/-- What is known of sessions changes at one place. -/
theorem map_seenAt_put {places : List Nat} {n : Nat} (hrun : g.run? place = some r)
    (hnodup : places.Nodup) (hn : places[n]? = some place) :
    places.map (g.put place r₁).seenAt = (places.map g.seenAt).set n (some r₁.seen) := by
  obtain ⟨hlt, hget⟩ := List.getElem?_eq_some_iff.mp hn
  refine List.ext_getElem (by simp) fun m hm _ => ?_
  rw [List.length_map] at hm
  by_cases hmn : m = n
  · subst hmn
    simp [hget, seenAt_put_self hrun]
  · have hne : places[m] ≠ place := fun heq =>
      hmn ((List.Nodup.getElem_inj_iff hnodup).mp (heq.trans hget.symm))
    rw [List.getElem_map, seenAt_put_of_ne hne, List.getElem_set_ne (Ne.symm hmn), List.getElem_map]

/-- What is known of other sessions stays. -/
theorem map_seenAt_put_of_not_mem {places : List Nat} (hmem : place ∉ places) :
    places.map (g.put place r₁).seenAt = places.map g.seenAt :=
  List.map_congr_left fun _ hother => seenAt_put_of_ne fun heq => hmem (heq ▸ hother)

/-- A session is made and becomes the live one with its name. -/
def make (name : String) (policy : Policy) (g : Registry σ) : Registry σ :=
  { g with
    sessions := g.sessions ++ [Session.new name policy]
    places := g.places.insert name g.sessions.length }

theorem create_of_none {s : Server σ} {policy : Policy} {name : String}
    (h : g.find? name = none) : g.create s name policy = g.make name policy := by
  rw [create, h, make]

/-- What had the name before is closed. -/
theorem create_of_some {s : Server σ} {policy : Policy} {name : String} {place : Nat}
    (h : g.find? name = some place) :
    g.create s name policy = (g.make name policy).closeAt s place := by
  rw [create, h, make]

/-- A name no longer leads to a session. -/
def drop (name : String) (g : Registry σ) : Registry σ :=
  { g with places := g.places.erase name }

/-- No name leads to a session. -/
def dropAll (g : Registry σ) : Registry σ :=
  { g with places := .empty }

theorem sessions_make_of_lt {policy : Policy} {name : String} (hlt : place < g.sessions.length) :
    (g.make name policy).sessions[place]? = g.sessions[place]? :=
  List.getElem?_append_left hlt

theorem sessions_make_self (name : String) (policy : Policy) (g : Registry σ) :
    (g.make name policy).sessions[g.sessions.length]? = some (Session.new name policy) :=
  List.getElem?_concat_length

/-- A session that was there before stands in its place, and the new one stands last. -/
theorem sessions_make {policy : Policy} {name : String} {session : Session}
    (hsession : (g.make name policy).sessions[place]? = some session) :
    g.sessions[place]? = some session ∨
      place = g.sessions.length ∧ session = Session.new name policy := by
  have hlt := (List.getElem?_eq_some_iff.mp hsession).1
  rw [make, List.length_append, List.length_singleton] at hlt
  rcases Nat.lt_succ_iff_lt_or_eq.mp hlt with hlt | rfl
  · exact .inl ((sessions_make_of_lt hlt).symm.trans hsession)
  · exact .inr ⟨rfl, Option.some.inj (hsession.symm.trans (sessions_make_self name policy g))⟩

theorem lt_of_mem_placesOf (hmem : place ∈ g.placesOf id) : place < g.sessions.length := by
  obtain ⟨session, hsession, -⟩ := mem_placesOf.mp hmem
  exact (List.getElem?_eq_some_iff.mp hsession).1

theorem placesOf_make (name : String) (policy : Policy) (g : Registry σ) (id : String) :
    (g.make name policy).placesOf id =
      g.placesOf id ++ if name = id then [g.sessions.length] else [] := by
  have hlength : (g.make name policy).sessions.length = g.sessions.length + 1 := by
    rw [make, List.length_append, List.length_singleton]
  rw [placesOf, placesOf, hlength, List.range_succ, List.filter_append]
  congr 1
  · refine List.filter_congr fun other hother => ?_
    rw [sessions_make_of_lt (List.mem_range.mp hother)]
  · rw [List.filter_singleton, sessions_make_self, Option.map_some, Session.new]
    by_cases hname : name = id
    · simp [hname]
    · have hbeq : (some name == some id) = false := by simpa using hname
      rw [hbeq, if_neg hname, cond_false]

/-- What is known of the sessions that were there before stays. -/
theorem map_seenAt_make (name : String) (policy : Policy) (g : Registry σ) (id : String) :
    (g.placesOf id).map (g.make name policy).seenAt = (g.placesOf id).map g.seenAt := by
  refine List.map_congr_left fun place hmem => ?_
  rw [seenAt, sessions_make_of_lt (lt_of_mem_placesOf hmem), seenAt]

/-- The pools of the other sessions. -/
def Others (place : Nat) (g : Registry σ) (k : Handle) : Prop :=
  ∃ other session, other ≠ place ∧ g.sessions[other]? = some session ∧ session.slot.handle = some k

end Registry

end SqlGateway
