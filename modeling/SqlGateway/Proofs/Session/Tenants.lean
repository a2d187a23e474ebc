import SqlGateway.Proofs.Session.Demand

/-!
# Tenants Do Not Interfere

At an impartial server no caller can tell whether there are others: the answers to the demands
that concern a name, and what the sessions with this name have come to, are the same if all
demands that do not concern it are left out (`tenants_do_not_interfere`). The proof compares the
two courses step by step. A demand that does not concern the name leaves what is known under it as
it is, and one that does is answered in the same way in both (`Resembles`).

## Main results

* `Resembles.put`, `Resembles.put_other`: one session does something.
* `Resembles.answer`, `Resembles.answer_other`: one demand.
* `tenants_do_not_interfere`: courses of demands.
-/

namespace SqlGateway

namespace Server.Impartial

open Registry

variable {σ : Type} {s : Server σ} {i : s.Impartial} {a : Answers} {g g' g₁ : Registry σ}
  {r r' r₁ r₁' : Run σ} {id name : String} {place place' : Nat}

/-! ### Registries -/

variable (i)

/-- All pools of sessions are open and have numbers of their own, and the server gives the answers
`a`. -/
structure Tidy (a : Answers) (g : Registry σ) : Prop where
  gives : i.Gives g.server a
  own {place : Nat} {session : Session} {h : Handle} (hsession : g.sessions[place]? = some session)
    (hh : session.slot.handle = some h) : i.IsOpen g.server h
  apart {place other : Nat} {session session' : Session} {h k : Handle} (hne : other ≠ place)
    (hsession : g.sessions[place]? = some session) (hh : session.slot.handle = some h)
    (hsession' : g.sessions[other]? = some session') (hk : session'.slot.handle = some k) :
    k.number ≠ h.number

/-- A live session is the last that was made with its name. -/
def Listed (g : Registry σ) : Prop :=
  ∀ name place, g.find? name = some place → (g.placesOf name).getLast? = some place

/-- Two registries of which the same is known under a name. -/
structure Resembles (a : Answers) (id : String) (g g' : Registry σ) : Prop where
  left : i.Tidy a g
  right : i.Tidy a g'
  listed : Listed g
  listed' : Listed g'
  sessions_eq : (g.placesOf id).map g.seenAt = (g'.placesOf id).map g'.seenAt
  live_eq : (g.find? id).isSome = (g'.find? id).isSome

variable {i}

/-- The run of a session guards the pools of the others. -/
theorem Tidy.guards (h : i.Tidy a g) (hrun : g.run? place = some r) :
    i.Guards a (g.Others place) r := by
  obtain ⟨hsession, hserver⟩ := sessions_of_run? hrun
  refine ⟨hserver ▸ h.gives, fun k hk => ⟨hserver ▸ h.own hsession hk, ?_⟩, ?_⟩
  · rintro k' ⟨other, session, hne, hother, hk'⟩
    exact h.apart hne hsession hk hother hk'
  · rintro k ⟨other, session, hne, hother, hk⟩
    exact hserver ▸ h.own hother hk

/-- What a session does leaves all pools as they should be. -/
theorem Tidy.put (h : i.Tidy a g) (hrun : g.run? place = some r)
    (hguards : i.Guards a (g.Others place) r₁) : i.Tidy a (g.put place r₁) := by
  have hself : ∀ {session : Session}, (g.put place r₁).sessions[place]? = some session →
      session = r₁.toSession := fun hsession =>
    Option.some.inj (hsession.symm.trans (sessions_put_self hrun))
  have hother : ∀ {other : Nat} {session : Session} {k : Handle}, other ≠ place →
      (g.put place r₁).sessions[other]? = some session → session.slot.handle = some k →
      g.Others place k := fun hne hsession hk =>
    ⟨_, _, hne, (sessions_put_of_ne hne).symm.trans hsession, hk⟩
  refine ⟨hguards.gives, fun {p session k} hsession hk => ?_,
    fun {p q session session' k k'} hne hsession hk hsession' hk' => ?_⟩
  · by_cases hp : p = place
    · subst hp
      obtain rfl := hself hsession
      exact (hguards.own k hk).isOpen
    · exact hguards.isOpen k (hother hp hsession hk)
  · by_cases hp : p = place
    · subst hp
      obtain rfl := hself hsession
      exact (hguards.own k hk).apart k' (hother hne hsession' hk')
    · by_cases hq : q = place
      · subst hq
        obtain rfl := hself hsession'
        exact ((hguards.own k' hk').apart k (hother hp hsession hk)).symm
      · rw [sessions_put_of_ne hp] at hsession
        rw [sessions_put_of_ne hq] at hsession'
        exact h.apart hne hsession hk hsession' hk'

theorem Tidy.make (h : i.Tidy a g) (name : String) (policy : Policy) :
    i.Tidy a (g.make name policy) := by
  have hold : ∀ {place : Nat} {session : Session} {k : Handle},
      (g.make name policy).sessions[place]? = some session → session.slot.handle = some k →
      g.sessions[place]? = some session := by
    intro place session k hsession hk
    rcases sessions_make hsession with hold | ⟨-, rfl⟩
    · exact hold
    · cases hk
  exact ⟨h.gives, fun hsession hh => h.own (hold hsession hh) hh,
    fun hne hsession hh hsession' hk => h.apart hne (hold hsession hh) hh (hold hsession' hk) hk⟩

theorem listed_make (h : Listed g) (name : String) (policy : Policy) :
    Listed (g.make name policy) := by
  intro other place hplace
  rw [placesOf_make]
  by_cases hname : name = other
  · subst hname
    have hself : (g.make name policy).find? name = some g.sessions.length :=
      Text.NameMap.get?_insert_self
    rw [if_pos rfl, List.getLast?_concat, ← hplace, hself]
  · rw [if_neg hname, List.append_nil]
    exact h other place ((Text.NameMap.get?_insert_of_ne (Ne.symm hname)).symm.trans hplace)

theorem listed_drop (h : Listed g) (name : String) : Listed (g.drop name) := by
  intro other place hplace
  by_cases hname : other = name
  · subst hname
    have hnone : (g.drop other).find? other = none := Text.NameMap.get?_erase_self
    rw [hnone] at hplace
    cases hplace
  · exact h other place ((Text.NameMap.get?_erase_of_ne hname).symm.trans hplace)

theorem listed_dropAll (g : Registry σ) : Listed g.dropAll := by
  intro name place hplace
  cases hplace

theorem listed_put (h : Listed g) (hrun : g.run? place = some r) (hid : r₁.id = r.id) :
    Listed (g.put place r₁) := by
  intro name live hlive
  rw [placesOf_put hrun hid]
  exact h name live hlive

namespace Resembles

theorem symm (h : i.Resembles a id g g') : i.Resembles a id g' g :=
  ⟨h.right, h.left, h.listed', h.listed, h.sessions_eq.symm, h.live_eq.symm⟩

/-- As many sessions were made with the name in both. -/
theorem length_eq (h : i.Resembles a id g g') :
    (g.placesOf id).length = (g'.placesOf id).length := by
  have hlength := congrArg List.length h.sessions_eq
  rwa [List.length_map, List.length_map] at hlength

/-- The runs of sessions in the same position look alike. -/
theorem alike {n : Nat} (h : i.Resembles a id g g') (hn : (g.placesOf id)[n]? = some place)
    (hn' : (g'.placesOf id)[n]? = some place') (hrun : g.run? place = some r)
    (hrun' : g'.run? place' = some r') :
    i.Alike a (g.Others place) (g'.Others place') r r' := by
  refine ⟨?_, h.left.guards hrun, h.right.guards hrun'⟩
  have hseen := congrArg (·[n]?) h.sessions_eq
  simp only [List.getElem?_map, hn, hn', Option.map_some, seenAt, (sessions_of_run? hrun).1,
    (sessions_of_run? hrun').1, Option.some.injEq] at hseen
  exact hseen

/-- **The same session does the same in both.** -/
theorem put {n : Nat} (h : i.Resembles a id g g') (hn : (g.placesOf id)[n]? = some place)
    (hn' : (g'.placesOf id)[n]? = some place') (hrun : g.run? place = some r)
    (hrun' : g'.run? place' = some r') (hid : r₁.id = r.id) (hid' : r₁'.id = r'.id)
    (halike : i.Alike a (g.Others place) (g'.Others place') r₁ r₁') :
    i.Resembles a id (g.put place r₁) (g'.put place' r₁') where
  left := h.left.put hrun halike.left
  right := h.right.put hrun' halike.right
  listed := listed_put h.listed hrun hid
  listed' := listed_put h.listed' hrun' hid'
  sessions_eq := by
    rw [placesOf_put hrun hid, placesOf_put hrun' hid',
      map_seenAt_put hrun (nodup_placesOf id g) hn,
      map_seenAt_put hrun' (nodup_placesOf id g') hn', h.sessions_eq, halike.seen_eq]
  live_eq := h.live_eq

/-- **What another session does** is not known under the name. -/
theorem put_other (h : i.Resembles a id g g') (hmem : place ∉ g.placesOf id)
    (hrun : g.run? place = some r) (hid : r₁.id = r.id)
    (hguards : i.Guards a (g.Others place) r₁) : i.Resembles a id (g.put place r₁) g' where
  left := h.left.put hrun hguards
  right := h.right
  listed := listed_put h.listed hrun hid
  listed' := h.listed'
  sessions_eq := by rw [placesOf_put hrun hid, map_seenAt_put_of_not_mem hmem, h.sessions_eq]
  live_eq := h.live_eq

/-- A session does something in one registry that its caller asks for. -/
theorem grant_other (h : i.Resembles a id g g') (hmem : place ∉ g.placesOf id)
    (hrun : g.run? place = some r) (service : Service) :
    i.Resembles a id (g.put place (r.grant s service).2) g' := by
  have halike : i.Alike a (g.Others place) (g.Others place) r r :=
    ⟨rfl, h.left.guards hrun, h.left.guards hrun⟩
  exact h.put_other hmem hrun (Run.id_grant s service r) (tally_grant service halike).2.left

/-! ### Closing -/

theorem closeAt_eq (hrun : g.run? place = some r) :
    g.closeAt s place = g.put place (r.closePool s) := by
  rw [closeAt, hrun]

theorem id_closePool (r : Run σ) : (r.closePool s).id = r.id :=
  (congrArg Session.id (Run.toSession_closeTo s .closed r) :)

/-- Closing a pool makes and drops no session. -/
theorem placesOf_closeAt (g : Registry σ) (place : Nat) (name : String) :
    (g.closeAt s place).placesOf name = g.placesOf name ∧
      (g.closeAt s place).places = g.places := by
  rw [closeAt]
  rcases hrun : g.run? place with _ | r
  · exact ⟨rfl, rfl⟩
  · exact ⟨placesOf_put hrun (id_closePool r) name, rfl⟩

theorem closeAt {n : Nat} (h : i.Resembles a id g g') (hn : (g.placesOf id)[n]? = some place)
    (hn' : (g'.placesOf id)[n]? = some place') :
    i.Resembles a id (g.closeAt s place) (g'.closeAt s place') := by
  obtain ⟨r, hrun, -⟩ := exists_run? (List.mem_of_getElem? hn)
  obtain ⟨r', hrun', -⟩ := exists_run? (List.mem_of_getElem? hn')
  rw [closeAt_eq hrun, closeAt_eq hrun']
  exact h.put hn hn' hrun hrun' (id_closePool r) (id_closePool r')
    (alike_closeTo .closed (h.alike hn hn' hrun hrun'))

theorem closeAt_other (h : i.Resembles a id g g') (hmem : place ∉ g.placesOf id) :
    i.Resembles a id (g.closeAt s place) g' := by
  rcases hrun : g.run? place with _ | r
  · rwa [Registry.closeAt, hrun]
  · rw [closeAt_eq hrun]
    exact h.put_other hmem hrun (id_closePool r) (i.guards_closeTo .closed (h.left.guards hrun))

theorem closeEach_other (places : List Nat) (h : i.Resembles a id g g')
    (hmem : ∀ place ∈ places, place ∉ g.placesOf id) :
    i.Resembles a id (places.foldl (fun g place => g.closeAt s place) g) g' := by
  induction places generalizing g with
  | nil => exact h
  | cons place rest ih =>
      refine ih (h.closeAt_other (hmem place List.mem_cons_self)) fun other hother => ?_
      rw [(placesOf_closeAt g place id).1]
      exact hmem other (List.mem_cons_of_mem place hother)

/-- Sessions with other names can be closed on both sides. -/
theorem closeEach_others (places places' : List Nat) (h : i.Resembles a id g g')
    (hmem : ∀ place ∈ places, place ∉ g.placesOf id)
    (hmem' : ∀ place ∈ places', place ∉ g'.placesOf id) :
    i.Resembles a id (places.foldl (fun g place => g.closeAt s place) g)
      (places'.foldl (fun g place => g.closeAt s place) g') :=
  ((h.closeEach_other places hmem).symm.closeEach_other places' hmem').symm

theorem placesOf_closeEach (places : List Nat) (g : Registry σ) (name : String) :
    (places.foldl (fun g place => g.closeAt s place) g).placesOf name = g.placesOf name := by
  induction places generalizing g with
  | nil => rfl
  | cons place rest ih => exact (ih _).trans (placesOf_closeAt g place name).1

/-- The live sessions with the name stand in the same position. -/
theorem live (h : i.Resembles a id g g') :
    g.find? id = none ∧ g'.find? id = none ∨
      ∃ place place' n : Nat, g.find? id = some place ∧ g'.find? id = some place' ∧
        (g.placesOf id)[n]? = some place ∧ (g'.placesOf id)[n]? = some place' := by
  have hlive := h.live_eq
  rcases hfind : g.find? id with _ | place <;> rcases hfind' : g'.find? id with _ | place' <;>
    rw [hfind, hfind'] at hlive
  · exact .inl ⟨rfl, rfl⟩
  · cases hlive
  · cases hlive
  · have hlast := h.listed id place hfind
    have hlast' := h.listed' id place' hfind'
    rw [List.getLast?_eq_getElem?] at hlast hlast'
    rw [← h.length_eq] at hlast'
    exact .inr ⟨place, place', _, rfl, rfl, hlast, hlast'⟩

theorem seenAt_eq {n : Nat} (h : i.Resembles a id g g') (hn : (g.placesOf id)[n]? = some place)
    (hn' : (g'.placesOf id)[n]? = some place') : g.seenAt place = g'.seenAt place' := by
  have hseen := congrArg (·[n]?) h.sessions_eq
  simpa only [List.getElem?_map, hn, hn', Option.map_some, Option.some.injEq] using hseen

/-- What is known under the name is the same. -/
theorem portrait_eq (h : i.Resembles a id g g') : g.portrait id = g'.portrait id := by
  refine Prod.ext h.sessions_eq ?_
  rw [portrait, portrait]
  dsimp only
  rcases h.live with ⟨hfind, hfind'⟩ | ⟨place, place', n, hfind, hfind', hn, hn'⟩
  · rw [hfind, hfind']
    rfl
  · rw [hfind, hfind']
    exact h.seenAt_eq hn hn'

/-! ### Demands -/

theorem make (h : i.Resembles a id g g') (policy : Policy) :
    i.Resembles a id (g.make id policy) (g'.make id policy) where
  left := h.left.make id policy
  right := h.right.make id policy
  listed := listed_make h.listed id policy
  listed' := listed_make h.listed' id policy
  sessions_eq := by
    rw [placesOf_make, placesOf_make, if_pos rfl, if_pos rfl, List.map_append, List.map_append,
      map_seenAt_make, map_seenAt_make, h.sessions_eq]
    simp only [List.map_cons, List.map_nil, seenAt, sessions_make_self]
  live_eq := by
    have hmade : ∀ g : Registry σ, ((g.make id policy).find? id).isSome = true := fun g =>
      congrArg Option.isSome (Text.NameMap.get?_insert_self (m := g.places))
    rw [hmade, hmade]

theorem make_other (h : i.Resembles a id g g') (hname : name ≠ id) (policy : Policy) :
    i.Resembles a id (g.make name policy) g' where
  left := h.left.make name policy
  right := h.right
  listed := listed_make h.listed name policy
  listed' := h.listed'
  sessions_eq := by
    rw [placesOf_make, if_neg hname, List.append_nil, map_seenAt_make, h.sessions_eq]
  live_eq := by
    have hmade : (g.make name policy).find? id = g.find? id :=
      Text.NameMap.get?_insert_of_ne hname.symm
    rw [hmade, h.live_eq]

theorem drop (h : i.Resembles a id g g') : i.Resembles a id (g.drop id) (g'.drop id) where
  left := ⟨h.left.gives, h.left.own, h.left.apart⟩
  right := ⟨h.right.gives, h.right.own, h.right.apart⟩
  listed := listed_drop h.listed id
  listed' := listed_drop h.listed' id
  sessions_eq := h.sessions_eq
  live_eq := by
    have hnone : ∀ g : Registry σ, (g.drop id).find? id = none := fun _ =>
      Text.NameMap.get?_erase_self
    rw [hnone, hnone]

theorem drop_other (h : i.Resembles a id g g') (hname : name ≠ id) :
    i.Resembles a id (g.drop name) g' where
  left := ⟨h.left.gives, h.left.own, h.left.apart⟩
  right := h.right
  listed := listed_drop h.listed name
  listed' := h.listed'
  sessions_eq := h.sessions_eq
  live_eq := by
    have hkept : (g.drop name).find? id = g.find? id := Text.NameMap.get?_erase_of_ne hname.symm
    rw [hkept, h.live_eq]

theorem dropAll (h : i.Resembles a id g g') : i.Resembles a id g.dropAll g'.dropAll where
  left := ⟨h.left.gives, h.left.own, h.left.apart⟩
  right := ⟨h.right.gives, h.right.own, h.right.apart⟩
  listed := listed_dropAll g
  listed' := listed_dropAll g'
  sessions_eq := h.sessions_eq
  live_eq := rfl

/-- A name leads to no session with another. -/
theorem not_mem_of_find? (h : i.Resembles a id g g') (hfind : g.find? name = some place)
    (hname : name ≠ id) : place ∉ g.placesOf id :=
  not_mem_placesOf (List.mem_of_getLast? (h.listed name place hfind)) hname

theorem create (h : i.Resembles a id g g') (policy : Policy) :
    i.Resembles a id (g.create s id policy) (g'.create s id policy) := by
  have hmade := h.make policy
  rcases h.live with ⟨hfind, hfind'⟩ | ⟨place, place', n, hfind, hfind', hn, hn'⟩
  · rw [Registry.create_of_none hfind, Registry.create_of_none hfind']
    exact hmade
  · rw [Registry.create_of_some hfind, Registry.create_of_some hfind']
    refine hmade.closeAt (n := n) ?_ ?_
    · rw [placesOf_make, List.getElem?_append_left (List.getElem?_eq_some_iff.mp hn).1, hn]
    · rw [placesOf_make, List.getElem?_append_left (List.getElem?_eq_some_iff.mp hn').1, hn']

theorem create_other (h : i.Resembles a id g g') (hname : name ≠ id) (policy : Policy) :
    i.Resembles a id (g.create s name policy) g' := by
  have hmade := h.make_other hname policy
  rcases hfind : g.find? name with _ | place
  · rw [Registry.create_of_none hfind]
    exact hmade
  · rw [Registry.create_of_some hfind]
    refine hmade.closeAt_other ?_
    rw [placesOf_make, if_neg hname, List.append_nil]
    exact h.not_mem_of_find? hfind hname

theorem close (h : i.Resembles a id g g') :
    (g.close s id).1 = (g'.close s id).1 ∧
      i.Resembles a id (g.close s id).2 (g'.close s id).2 := by
  rw [Registry.close, Registry.close]
  rcases h.live with ⟨hfind, hfind'⟩ | ⟨place, place', n, hfind, hfind', hn, hn'⟩
  · rw [hfind, hfind']
    exact ⟨rfl, h⟩
  · rw [hfind, hfind']
    exact ⟨rfl, h.drop.closeAt hn hn'⟩

theorem close_other (h : i.Resembles a id g g') (hname : name ≠ id) :
    i.Resembles a id (g.close s name).2 g' := by
  rw [Registry.close]
  rcases hfind : g.find? name with _ | place
  · exact h
  · exact (h.drop_other hname).closeAt_other (h.not_mem_of_find? hfind hname)

/-- Entries with other names lead to no session with this one. -/
theorem not_mem_of_entries (h : i.Resembles a id g g') {entries : List (String × Nat)}
    (hsub : entries ⊆ g.places.entries) (hnames : ∀ e ∈ entries, e.1 ≠ id) :
    ∀ place ∈ entries.map Prod.snd, place ∉ g.placesOf id := by
  intro place hplace
  obtain ⟨e, he, rfl⟩ := List.mem_map.mp hplace
  exact h.not_mem_of_find? (Text.NameMap.get?_of_mem (hsub he)) (hnames e he)

/-- Closing what is live: the session with the name, between others. -/
theorem closeAll (h : i.Resembles a id g g') :
    i.Resembles a id (g.closeAll s) (g'.closeAll s) := by
  have heq : ∀ g : Registry σ, g.closeAll s =
      (g.places.entries.map Prod.snd).foldl (fun g place => g.closeAt s place) g.dropAll :=
    fun _ => rfl
  rw [heq, heq]
  rcases h.live with ⟨hfind, hfind'⟩ | ⟨place, place', n, hfind, hfind', hn, hn'⟩
  · have hnames : ∀ g : Registry σ, g.find? id = none → ∀ e ∈ g.places.entries, e.1 ≠ id := by
      rintro g hfind e he rfl
      have hget : g.find? e.1 = some e.2 := Text.NameMap.get?_of_mem he
      rw [hfind] at hget
      cases hget
    exact h.dropAll.closeEach_others _ _
      (h.not_mem_of_entries (List.Subset.refl _) (hnames g hfind))
      (h.symm.not_mem_of_entries (List.Subset.refl _) (hnames g' hfind'))
  · obtain ⟨front, back, hentries, hnames⟩ := Text.NameMap.exists_of_get? hfind
    obtain ⟨front', back', hentries', hnames'⟩ := Text.NameMap.exists_of_get? hfind'
    have hsub : front ⊆ g.places.entries ∧ back ⊆ g.places.entries := by
      rw [hentries]
      exact ⟨by simp, by simp⟩
    have hsub' : front' ⊆ g'.places.entries ∧ back' ⊆ g'.places.entries := by
      rw [hentries']
      exact ⟨by simp, by simp⟩
    have hfronts := h.dropAll.closeEach_others (front.map Prod.snd) (front'.map Prod.snd)
      (h.not_mem_of_entries hsub.1 fun e he => hnames e (List.mem_append_left back he))
      (h.symm.not_mem_of_entries hsub'.1 fun e he => hnames' e (List.mem_append_left back' he))
    have hclosed : i.Resembles a id (Registry.closeAt s place _) (Registry.closeAt s place' _) :=
      hfronts.closeAt (n := n) (by rw [placesOf_closeEach]; exact hn)
        (by rw [placesOf_closeEach]; exact hn')
    rw [hentries, hentries', List.map_append, List.map_append, List.foldl_append,
      List.foldl_append, List.map_cons, List.map_cons, List.foldl_cons, List.foldl_cons]
    refine hclosed.closeEach_others (back.map Prod.snd) (back'.map Prod.snd) ?_ ?_
    · rw [(placesOf_closeAt _ _ id).1, placesOf_closeEach]
      exact h.not_mem_of_entries hsub.2 fun e he => hnames e (List.mem_append_right front he)
    · rw [(placesOf_closeAt _ _ id).1, placesOf_closeEach]
      exact h.symm.not_mem_of_entries hsub'.2 fun e he =>
        hnames' e (List.mem_append_right front' he)

/-- The session that is meant stands in the same position. -/
theorem placed (h : i.Resembles a id g g') (held : Option Nat) :
    g.placeFor id held = none ∧ g'.placeFor id held = none ∨
      ∃ place place' n : Nat, g.placeFor id held = some place ∧
        g'.placeFor id held = some place' ∧
        (g.placesOf id)[n]? = some place ∧ (g'.placesOf id)[n]? = some place' := by
  cases held with
  | none => exact h.live
  | some n =>
      rw [placeFor, placeFor]
      by_cases hn : n < (g.placesOf id).length
      · have hn' : n < (g'.placesOf id).length := h.length_eq ▸ hn
        exact .inr ⟨_, _, n, List.getElem?_eq_getElem hn, List.getElem?_eq_getElem hn',
          List.getElem?_eq_getElem hn, List.getElem?_eq_getElem hn'⟩
      · have hn' : ¬n < (g'.placesOf id).length := h.length_eq ▸ hn
        exact .inl ⟨List.getElem?_eq_none (Nat.le_of_not_lt hn),
          List.getElem?_eq_none (Nat.le_of_not_lt hn')⟩

theorem within_eq {f : Run σ → Reply × Run σ} (hrun : g.run? place = some r) :
    g.within place f = some ((f r).1, g.put place (f r).2) := by
  rw [within, hrun]
  rfl

theorem ask (h : i.Resembles a id g g') (held : Option Nat) (service : Service) :
    (g.answer s (.ask id held service)).1 = (g'.answer s (.ask id held service)).1 ∧
      i.Resembles a id (g.answer s (.ask id held service)).2
        (g'.answer s (.ask id held service)).2 := by
  rw [answer, answer]
  rcases h.placed held with ⟨hplace, hplace'⟩ | ⟨place, place', n, hplace, hplace', hn, hn'⟩
  · rw [hplace, hplace']
    exact ⟨rfl, h⟩
  · obtain ⟨r, hrun, -⟩ := exists_run? (List.mem_of_getElem? hn)
    obtain ⟨r', hrun', -⟩ := exists_run? (List.mem_of_getElem? hn')
    obtain ⟨hreply, halike⟩ := tally_grant service (h.alike hn hn' hrun hrun')
    rw [hplace, hplace', Option.bind_some, Option.bind_some, within_eq hrun, within_eq hrun']
    exact ⟨congrArg (fun reply => Answer.served (some reply)) hreply,
      h.put hn hn' hrun hrun' (Run.id_grant s service r) (Run.id_grant s service r') halike⟩

theorem ask_other (h : i.Resembles a id g g') (hname : name ≠ id) (held : Option Nat)
    (service : Service) : i.Resembles a id (g.answer s (.ask name held service)).2 g' := by
  rw [answer]
  rcases hplace : g.placeFor name held with _ | place
  · exact h
  · have hmem : place ∉ g.placesOf id := by
      cases held with
      | none => exact h.not_mem_of_find? hplace hname
      | some n => exact not_mem_placesOf (List.mem_of_getElem? hplace) hname
    rw [Option.bind_some]
    rcases hrun : g.run? place with _ | r
    · rwa [within, hrun]
    · rw [within_eq hrun]
      exact h.grant_other hmem hrun service

/-- **A demand that concerns the name** is answered in the same way. -/
theorem answer (h : i.Resembles a id g g') {demand : Demand}
    (hconcerns : demand.concerns id = true) :
    (g.answer s demand).1 = (g'.answer s demand).1 ∧
      i.Resembles a id (g.answer s demand).2 (g'.answer s demand).2 := by
  cases demand with
  | create name policy =>
      obtain rfl : name = id := by simpa [Demand.concerns] using hconcerns
      exact ⟨rfl, h.create policy⟩
  | get name =>
      obtain rfl : name = id := by simpa [Demand.concerns] using hconcerns
      exact ⟨congrArg Answer.found (congrArg Prod.snd h.portrait_eq), h⟩
  | close name =>
      obtain rfl : name = id := by simpa [Demand.concerns] using hconcerns
      obtain ⟨hanswer, hafter⟩ := h.close (s := s)
      exact ⟨congrArg Answer.closed hanswer, hafter⟩
  | closeAll => exact ⟨rfl, h.closeAll⟩
  | ask name held service =>
      obtain rfl : name = id := by simpa [Demand.concerns] using hconcerns
      exact h.ask held service

/-- **A demand that does not concern the name** changes nothing that is known under it. -/
theorem answer_other (h : i.Resembles a id g g') {demand : Demand}
    (hconcerns : demand.concerns id = false) :
    i.Resembles a id (g.answer s demand).2 g' := by
  cases demand with
  | create name policy =>
      exact h.create_other (by simpa [Demand.concerns] using hconcerns) policy
  | get name => exact h
  | close name => exact h.close_other (by simpa [Demand.concerns] using hconcerns)
  | closeAll => cases hconcerns
  | ask name held service =>
      exact h.ask_other (by simpa [Demand.concerns] using hconcerns) held service

/-- A course of demands, and the same without those that do not concern the name. -/
theorem play (h : i.Resembles a id g g') (demands : List Demand) :
    ((g.play s demands).1.filter fun e => e.1.concerns id) =
        (g'.play s (demands.filter (·.concerns id))).1 ∧
      i.Resembles a id (g.play s demands).2
        (g'.play s (demands.filter (·.concerns id))).2 := by
  induction demands generalizing g g' with
  | nil => exact ⟨rfl, h⟩
  | cons demand rest ih =>
      rw [Registry.play]
      by_cases hconcerns : demand.concerns id = true
      · obtain ⟨hanswer, hafter⟩ := h.answer (s := s) hconcerns
        obtain ⟨hrest, hend⟩ := ih hafter
        rw [List.filter_cons_of_pos hconcerns, Registry.play]
        refine ⟨?_, hend⟩
        dsimp only
        rw [List.filter_cons, if_pos hconcerns, hrest, hanswer]
      · obtain ⟨hrest, hend⟩ := ih (h.answer_other (s := s) (by simpa using hconcerns))
        rw [List.filter_cons_of_neg hconcerns]
        refine ⟨?_, hend⟩
        dsimp only
        rw [List.filter_cons, if_neg hconcerns, hrest]

end Resembles

/-- The registry without sessions. -/
theorem resembles_new {t t' : σ} (id : String) (ht : i.Gives t a) (ht' : i.Gives t' a) :
    i.Resembles a id (Registry.new t) (Registry.new t') := by
  have htidy : ∀ t, i.Gives t a → i.Tidy a (Registry.new t) := fun _ ht =>
    ⟨ht, fun hsession _ => (nomatch hsession), fun _ hsession => (nomatch hsession)⟩
  have hlisted : ∀ t : σ, Listed (Registry.new t) := fun _ _ _ hplace => nomatch hplace
  exact ⟨htidy t ht, htidy t' ht', hlisted t, hlisted t', rfl, rfl⟩

end Server.Impartial

namespace Registry

variable {σ : Type} {s : Server σ}

/-- **Tenants do not interfere.** Let callers ask anything of a registry at an impartial server, in
any order. The answers to the demands that concern a name, and in the end what is known of the
sessions with this name, are the same as if all demands that do not concern it had never been
made; it does not matter either what the server was used for before, as long as it gives the same
answers. -/
theorem tenants_do_not_interfere (i : s.Impartial) {a : Answers} {t t' : σ} (ht : i.Gives t a)
    (ht' : i.Gives t' a) (id : String) (demands : List Demand) :
    let all := (Registry.new t).play s demands
    let own := (Registry.new t').play s (demands.filter (·.concerns id))
    (all.1.filter fun e => e.1.concerns id) = own.1 ∧ all.2.portrait id = own.2.portrait id := by
  obtain ⟨hanswers, hend⟩ := (i.resembles_new id ht ht').play (s := s) demands
  exact ⟨hanswers, hend.portrait_eq⟩

/-- Between the two statements of `sales` the other session is made and dropped again, and a pool
is opened and closed for it; the pool of `sales` has another number than it would have alone. -/
theorem tenants_do_not_interfere_of_two :
    ∃ (demands : List Demand) (all own : List (Demand × Answer) × Registry Script),
      (Registry.new Script.initial).play Script.server demands = all ∧
      (Registry.new Script.initial).play Script.server (demands.filter (·.concerns "sales")) = own ∧
      all.2.calls.filterMap Call.text? =
        ["SELECT 1 LIMIT 1", "SELECT 2 LIMIT 1", "SELECT 3 LIMIT 1"] ∧
      own.2.calls.filterMap Call.text? = ["SELECT 1 LIMIT 1", "SELECT 3 LIMIT 1"] ∧
      all.2.calls.filterMap (fun call => call.opened?.map (·.number)) = [0, 1, 2] ∧
      own.2.calls.filterMap (fun call => call.opened?.map (·.number)) = [0, 1] ∧
      (all.1.filter fun e => e.1.concerns "sales") = own.1 ∧
      all.2.portrait "sales" = own.2.portrait "sales" := by
  let select (name sql : String) : Demand :=
    .ask name none (.operation (.request (.query sql .none)))
  let demands : List Demand := [.create "sales" { Policy.initial with database := "sales" },
    .create "hr" .initial, select "sales" "SELECT 1 LIMIT 1", select "hr" "SELECT 2 LIMIT 1", .close "hr",
    .ask "sales" none (.operation .reconnect), select "sales" "SELECT 3 LIMIT 1"]
  have hgives : Script.impartial.Gives Script.initial Script.initial.unused.answers :=
    ⟨rfl, fun _ hpool => nomatch hpool⟩
  obtain ⟨hanswers, hportrait⟩ := tenants_do_not_interfere Script.impartial hgives hgives "sales"
    demands
  let all := (Registry.new Script.initial).play Script.server demands
  let own := (Registry.new Script.initial).play Script.server
    (demands.filter (·.concerns "sales"))
  obtain ⟨htexts, htexts', hpools, hpools'⟩ :
      all.2.calls.filterMap Call.text? =
        ["SELECT 1 LIMIT 1", "SELECT 2 LIMIT 1", "SELECT 3 LIMIT 1"] ∧
      own.2.calls.filterMap Call.text? = ["SELECT 1 LIMIT 1", "SELECT 3 LIMIT 1"] ∧
      all.2.calls.filterMap (fun call => call.opened?.map (·.number)) = [0, 1, 2] ∧
      own.2.calls.filterMap (fun call => call.opened?.map (·.number)) = [0, 1] := by
    decide +kernel
  exact ⟨demands, all, own, rfl, rfl, htexts, htexts', hpools, hpools', hanswers, hportrait⟩

end Registry

end SqlGateway
