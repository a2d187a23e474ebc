import SqlGateway.Proofs.Scope.QualifiedName
import SqlGateway.Proofs.Text.Case
import SqlGateway.Scope.Guard

/-!
# The Names of References

Every phrase reads the database that it names as a run of name characters. So whatever a text
is, no reference of it has a name with another character, and no such database is among the
referenced ones.

## Main results

* `isName_of_mem_references`: the names of references.
* `isNameChar_of_mem_referenced`: a referenced database consists of name characters.
-/

namespace SqlGateway.Scope

open Text

theorem isName_of_takeName? {cs name rest : List Char} (h : takeName? cs = some (name, rest)) :
    IsName name := by
  obtain ⟨-, hne, hname, -⟩ := takeName?_eq_some_iff.mp h
  exact ⟨hne, hname⟩

/-- The tables of a list have names. -/
theorem isName_of_tableItem? {cs rest : List Char} {item : TableItem}
    (h : tableItem? cs = some (item, rest)) : IsName item.first := by
  rw [tableItem?, Option.bind_eq_bind, Option.bind_eq_some_iff] at h
  obtain ⟨⟨first, after⟩, hfirst, hitem⟩ := h
  obtain ⟨rfl, -⟩ := Prod.mk.inj (Option.some.inj hitem)
  exact isName_of_takeName? hfirst

theorem isName_of_mem_places {item : TableItem} (h : IsName item.first) {name : List Char}
    (hname : name ∈ item.places.databases) : IsName name := by
  rw [TableItem.places] at hname
  split at hname
  · rw [List.mem_singleton.mp hname]
    exact h
  · cases hname

theorem isName_of_mem_listedTables {marker : String} {n : Nat} {cs name : List Char}
    (h : name ∈ (listedTables marker n cs).databases) : IsName name := by
  induction n generalizing cs with
  | zero => cases h
  | succ n ih =>
      rw [listedTables] at h
      split at h
      · cases h
      · rename_i item rest hitem
        have hplaces : name ∈ item.places.databases → IsName name :=
          isName_of_mem_places (isName_of_tableItem? hitem)
        split at h
        · cases h
        · split at h
          · split at h
            · exact (List.mem_append.mp h).elim hplaces ih
            · exact hplaces h
          · exact hplaces h

theorem isName_of_mem_tablePlaces {piece name : List Char}
    (h : name ∈ (tablePlaces piece).databases) : IsName name := by
  rw [databases_tablePlaces, List.mem_flatMap] at h
  obtain ⟨places, hplaces, hname⟩ := h
  obtain ⟨pre, c, rest, after, -, hread⟩ := exists_of_mem_findAll hplaces
  rw [tablePlace?_eq] at hread
  obtain ⟨⟨w, after'⟩, -, heq⟩ := Option.map_eq_some_iff.mp hread
  obtain ⟨rfl, -⟩ := Prod.mk.inj heq
  exact isName_of_mem_listedTables hname

theorem isName_of_databaseStatement? {before : Option Char} {cs name rest : List Char}
    {kind : ReferenceKind} (h : databaseStatement? before cs = some ((kind, some name), rest)) :
    IsName name := by
  rw [databaseStatement?] at h
  split at h
  · obtain ⟨⟨kind', after⟩, -, h⟩ := Option.bind_eq_some_iff.mp h
    obtain ⟨after', -, h⟩ := Option.bind_eq_some_iff.mp h
    dsimp only at h
    split at h
    · rename_i hname
      cases h
      exact isName_of_takeName? hname
    · cases h
  · cases h

theorem isName_of_showFrom? {before : Option Char} {cs name rest : List Char}
    (h : showFrom? before cs = some (name, rest)) : IsName name := by
  obtain ⟨_, -, h⟩ := Option.bind_eq_some_iff.mp h
  obtain ⟨_, -, h⟩ := Option.bind_eq_some_iff.mp h
  obtain ⟨_, -, h⟩ := Option.bind_eq_some_iff.mp h
  exact isName_of_takeName? h

theorem isName_of_showColumnsFrom? {before : Option Char} {cs name rest : List Char}
    (h : showColumnsFrom? before cs = some (name, rest)) : IsName name := by
  obtain ⟨_, -, h⟩ := Option.bind_eq_some_iff.mp h
  obtain ⟨_, -, h⟩ := Option.bind_eq_some_iff.mp h
  obtain ⟨_, -, h⟩ := Option.bind_eq_some_iff.mp h
  dsimp only at h
  split at h
  · cases h
  · obtain ⟨_, -, h⟩ := Option.bind_eq_some_iff.mp h
    obtain ⟨_, -, h⟩ := Option.bind_eq_some_iff.mp h
    exact isName_of_takeName? h

/-- **The name of a reference** is a run of name characters. -/
theorem isName_of_mem_pieceReferences {piece : List Char} {r : Reference}
    (h : r ∈ pieceReferences piece) : IsName r.name.toList := by
  have hfound {α : Type} {recogniser : Recogniser α} {found : α}
      (hmem : found ∈ findAll recogniser piece) :
      ∃ before cs rest, recogniser before cs = some (found, rest) := by
    obtain ⟨pre, c, rest, after, -, hread⟩ := exists_of_mem_findAll hmem
    exact ⟨_, _, _, hread⟩
  simp only [pieceReferences, List.mem_append, List.mem_map, List.mem_filterMap,
    List.mem_filter, Option.mem_toList] at h
  rcases h with (((⟨name, huse, rfl⟩ | ⟨⟨kind, name⟩, hwhole, hr⟩) | ⟨name, hshown, rfl⟩) |
    ⟨name, htable, rfl⟩) | ⟨⟨name, three⟩, ⟨hqualified, -⟩, rfl⟩
  · obtain ⟨rest, -, huse⟩ := Option.bind_eq_some_iff.mp huse
    obtain ⟨⟨name', after⟩, hname, heq⟩ := Option.bind_eq_some_iff.mp huse
    obtain rfl := Option.some.inj heq
    rw [String.toList_ofList]
    exact isName_of_takeName? hname
  · obtain ⟨before, cs, rest, hread⟩ := hfound hwhole
    cases name with
    | none => cases hr
    | some name =>
        dsimp only at hr
        split at hr
        · cases hr
        · cases hr
          rw [String.toList_ofList]
          exact isName_of_databaseStatement? hread
  · rw [String.toList_ofList]
    rcases hshown with hshown | hshown
    · obtain ⟨before, cs, rest, hread⟩ := hfound hshown
      exact isName_of_showFrom? hread
    · obtain ⟨before, cs, rest, hread⟩ := hfound hshown
      exact isName_of_showColumnsFrom? hread
  · rw [String.toList_ofList]
    exact isName_of_mem_tablePlaces htable
  · obtain ⟨before, cs, rest, hread⟩ := hfound hqualified
    obtain ⟨-, ⟨c, more, rfl, hc, hmore⟩, -⟩ := qualified?_eq_some hread
    rw [String.toList_ofList]
    exact ⟨List.cons_ne_nil c more,
      List.forall_mem_cons.mpr ⟨isNameChar_of_isQualifierStart hc, hmore⟩⟩

/-- **A referenced database consists of name characters**, whatever the text. -/
theorem isNameChar_of_mem_referenced {sql name : String}
    (h : lowerString name ∈ (referencedDatabases sql).names) :
    ∀ c ∈ name.toList, isNameChar c = true := by
  rw [referencedDatabases, NameSet.mem_names_ofList, List.mem_map] at h
  obtain ⟨r, hr, hname⟩ := h
  obtain ⟨piece, -, hr⟩ := List.mem_flatMap.mp hr
  have hchars := (isName_of_mem_pieceReferences hr).isNameChar_of_mem
  have hlower : lower r.name.toList = lower name.toList := String.ofList_inj.mp hname
  rw [← isNameChar_lower_iff, hlower] at hchars
  exact isNameChar_lower_iff.mp hchars

end SqlGateway.Scope
