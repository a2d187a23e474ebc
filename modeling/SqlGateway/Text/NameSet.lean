/-!
# Sets of Names

A finite set of names, kept as the list of its members in ascending order of their
characters. The order is part of the type, so a set has one representation and two sets with
the same members are equal.
-/

namespace SqlGateway.Text

/-- A finite set of names in ascending order. -/
structure NameSet where
  names : List String
  ascending : names.Pairwise (· < ·)
  deriving DecidableEq, Repr

namespace NameSet

instance : Inhabited NameSet := ⟨⟨[], .nil⟩⟩

/-- Puts a name in its place in an ascending list. -/
def insertName (name : String) : List String → List String
  | [] => [name]
  | n :: rest =>
    if name < n then name :: n :: rest
    else if name = n then n :: rest
    else n :: insertName name rest

theorem mem_insertName {name x : String} {names : List String} :
    x ∈ insertName name names ↔ x = name ∨ x ∈ names := by
  induction names with
  | nil => simp [insertName]
  | cons n rest ih =>
    simp only [insertName]
    split
    · simp
    · split
      · rename_i h
        simp [h]
      · simp only [List.mem_cons, ih]
        exact or_left_comm

theorem pairwise_insertName {name : String} {names : List String}
    (h : names.Pairwise (· < ·)) : (insertName name names).Pairwise (· < ·) := by
  induction names with
  | nil => simp [insertName]
  | cons n rest ih =>
    obtain ⟨hn, hrest⟩ := List.pairwise_cons.1 h
    simp only [insertName]
    split
    · rename_i hlt
      refine List.pairwise_cons.2 ⟨fun x hx => ?_, h⟩
      rcases List.mem_cons.1 hx with rfl | hx
      · exact hlt
      · exact String.lt_trans hlt (hn x hx)
    · split
      · exact h
      · rename_i hge hne
        refine List.pairwise_cons.2 ⟨fun x hx => ?_, ih hrest⟩
        rcases mem_insertName.1 hx with rfl | hx
        · exact Std.lt_of_le_of_ne (String.not_lt.1 hge) (Ne.symm hne)
        · exact hn x hx

/-- The set without members. -/
def empty : NameSet := ⟨[], .nil⟩

/-- Adds a name. -/
def insert (s : NameSet) (name : String) : NameSet :=
  ⟨insertName name s.names, pairwise_insertName s.ascending⟩

/-- Adds several names. -/
def insertAll (s : NameSet) (names : List String) : NameSet :=
  names.foldl insert s

/-- The set of the names in a list. -/
def ofList (names : List String) : NameSet :=
  empty.insertAll names

/-- Whether a name is a member. -/
def contains (s : NameSet) (name : String) : Bool :=
  s.names.contains name

theorem mem_names_insert {s : NameSet} {name x : String} :
    x ∈ (s.insert name).names ↔ x = name ∨ x ∈ s.names :=
  mem_insertName

theorem mem_names_insertAll {s : NameSet} {names : List String} {x : String} :
    x ∈ (s.insertAll names).names ↔ x ∈ names ∨ x ∈ s.names := by
  induction names generalizing s with
  | nil => simp [insertAll]
  | cons n rest ih =>
    have : (s.insertAll (n :: rest)) = (s.insert n).insertAll rest := rfl
    rw [this, ih, mem_names_insert, List.mem_cons]
    exact ⟨fun h => by rcases h with h | h | h <;> simp [h],
      fun h => by rcases h with (h | h) | h <;> simp [h]⟩

theorem mem_names_ofList {names : List String} {x : String} :
    x ∈ (ofList names).names ↔ x ∈ names := by
  simp [ofList, mem_names_insertAll, empty]

end NameSet

end SqlGateway.Text
