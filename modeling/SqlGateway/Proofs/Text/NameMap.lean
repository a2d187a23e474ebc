import SqlGateway.Text.NameMap

/-!
# Looking up Names

What is found in a map from names after an entry was set or dropped, and where the entry that is
found stands among the others.

## Main results

* `get?_insert_self`, `get?_insert_of_ne`, `get?_erase_self`, `get?_erase_of_ne`.
* `exists_of_get?`: an entry stands between entries with other names.
* `get?_ofList_append_cons`: of the entries with one name the last counts.
-/

namespace SqlGateway.Text.NameMap

variable {α : Type} {m : NameMap α} {name other : String} {value : α}

theorem find?_insertEntry_self (entries : List (String × α)) :
    (insertEntry name value entries).find? (·.1 == name) = some (name, value) := by
  induction entries with
  | nil => simp [insertEntry]
  | cons e rest ih =>
      rw [insertEntry]
      split
      · simp
      · split
        · simp
        · rename_i hne
          have hhead : (e.1 == name) = false := by simpa using Ne.symm hne
          rw [List.find?_cons, hhead]
          exact ih

theorem find?_insertEntry_of_ne (hne : other ≠ name) (entries : List (String × α)) :
    (insertEntry name value entries).find? (·.1 == other) = entries.find? (·.1 == other) := by
  have hname : (name == other) = false := by simpa using hne.symm
  induction entries with
  | nil => simp [insertEntry, hname]
  | cons e rest ih =>
      rw [insertEntry]
      split
      · rw [List.find?_cons, hname]
      · split
        · rename_i heq
          rw [List.find?_cons, List.find?_cons, ← heq, hname]
        · rw [List.find?_cons, List.find?_cons, ih]

theorem get?_insert_self : (m.insert name value).get? name = some value := by
  rw [get?, insert, find?_insertEntry_self]
  rfl

theorem get?_insert_of_ne (hne : other ≠ name) : (m.insert name value).get? other = m.get? other := by
  rw [get?, insert, find?_insertEntry_of_ne hne, get?]

theorem get?_erase_self : (m.erase name).get? name = none := by
  simp [get?, erase]

theorem get?_erase_of_ne (hne : other ≠ name) : (m.erase name).get? other = m.get? other := by
  rw [get?, erase, List.find?_filter, get?]
  congr 2
  funext e
  by_cases h : e.1 = other <;> simp [h, hne]

/-- An entry is what is found under its name. -/
theorem get?_of_mem (hmem : (name, value) ∈ m.entries) : m.get? name = some value := by
  obtain ⟨entries, hascending⟩ := m
  rw [get?]
  dsimp only at hmem ⊢
  induction entries with
  | nil => cases hmem
  | cons e rest ih =>
      obtain ⟨hfirst, hrest⟩ := List.pairwise_cons.mp hascending
      rcases List.mem_cons.mp hmem with rfl | hmem
      · simp
      · have hne : (e.1 == name) = false := by
          simpa using String.ne_of_lt (hfirst _ hmem)
        rw [List.find?_cons, hne]
        exact ih hrest hmem

/-- What is found under a name stands between entries with other names. -/
theorem exists_of_get? (hget : m.get? name = some value) :
    ∃ front back, m.entries = front ++ (name, value) :: back ∧
      ∀ e ∈ front ++ back, e.1 ≠ name := by
  obtain ⟨entry, hfind, hvalue⟩ := Option.map_eq_some_iff.mp hget
  obtain rfl : entry.1 = name := by simpa using List.find?_some hfind
  obtain rfl := hvalue
  obtain ⟨front, back, hentries⟩ := List.append_of_mem (List.mem_of_find?_eq_some hfind)
  have hascending := m.ascending
  rw [hentries, List.pairwise_append] at hascending
  obtain ⟨-, hback, hfront⟩ := hascending
  refine ⟨front, back, hentries, fun e he => ?_⟩
  rcases List.mem_append.mp he with he | he
  · exact String.ne_of_lt (hfront e he entry List.mem_cons_self)
  · exact (String.ne_of_lt ((List.pairwise_cons.mp hback).1 e he)).symm

theorem get?_foldl_insert_of_ne {entries : List (String × α)} (h : ∀ e ∈ entries, e.1 ≠ name) :
    (entries.foldl (fun m e => m.insert e.1 e.2) m).get? name = m.get? name := by
  induction entries generalizing m with
  | nil => rfl
  | cons e entries ih =>
      obtain ⟨he, hentries⟩ := List.forall_mem_cons.mp h
      rw [List.foldl_cons, ih hentries, get?_insert_of_ne he.symm]

/-- Of the entries with one name the last counts. -/
theorem get?_ofList_append_cons {before after : List (String × α)}
    (h : ∀ e ∈ after, e.1 ≠ name) :
    (NameMap.ofList (before ++ (name, value) :: after)).get? name = some value := by
  rw [ofList, List.foldl_append, List.foldl_cons, get?_foldl_insert_of_ne h, get?_insert_self]

end SqlGateway.Text.NameMap
