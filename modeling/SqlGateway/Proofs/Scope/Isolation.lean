import SqlGateway.Proofs.Scope.TablePosition
import SqlGateway.Proofs.Text.Case
import SqlGateway.Scope.Guard

/-!
# Isolation

At the levels `strict` and `restricted` a text that the scope guard allows names only databases
that the session may read. Each kind of reference has its own exemption there, and two have
none: a text that creates or drops a database is never allowed.

## Main results

* `check_eq_nil_iff`: a text is allowed if none of its references gives a violation and it lists
  no databases where it may not.
* `violation?_eq_none_iff`: which references give none.
* `Listing.isFound`: which texts list databases.
* `isolation_sound`: databases in table position are referenced, and an allowed text references
  only databases that the session may read.
-/

namespace SqlGateway.Scope

open Text

/-! ### Violations -/

/-- Among several strings there is a first. -/
theorem firstOfEach_eq_nil_iff {l : List String} : firstOfEach [] l = [] ↔ l = [] := by
  cases l with
  | nil => simp [firstOfEach]
  | cons s rest => simp [firstOfEach]

variable {policy : Policy} {sql : String}

/-- A text is allowed where isolation is on exactly if it lists no databases where it may not
and none of its references gives a violation. -/
theorem check_eq_nil_iff (hisolation : policy.isolation = true) :
    check sql policy = [] ↔ listingViolations sql policy = [] ∧
      ∀ r ∈ references sql, violation? policy r = none := by
  rw [check, if_pos hisolation, violations, firstOfEach_eq_nil_iff, List.append_eq_nil_iff,
    List.filterMap_eq_nil_iff]

/-- Whether a policy lets a reference stand, by the exemption of its kind. -/
def isFree (policy : Policy) (r : Reference) : Bool :=
  let permissive := policy.accessLevel == .permissive
  match r.kind with
  | .qualifier => isAuthorized policy r.lowerName || (r.inDefinition && permissive)
  | .use => isAuthorized policy r.lowerName
  | .createDatabase => permissive
  | .dropDatabase => !isPrimary policy r.lowerName && permissive
  | .alterDatabase => isPrimary policy r.lowerName || permissive

/-- A reference gives no violation exactly if the policy lets it stand. -/
theorem violation?_eq_none_iff {r : Reference} :
    violation? policy r = none ↔ isFree policy r = true := by
  cases hkind : r.kind <;> simp only [violation?, isFree, hkind]
  case qualifier =>
    split
    · rename_i hfree
      simp [hfree]
    · rename_i hnot
      split <;> simp [hnot]
  case use => simp
  case createDatabase => simp
  case dropDatabase =>
    split <;> rename_i hprimary <;> simp [hprimary]
  case alterDatabase =>
    split <;> rename_i hfree <;> simp [hfree]

/-- What a reference without violation is, below the level `permissive`: it names a database
that may be read, and does not create or drop it. -/
theorem of_violation?_eq_none (hlevel : policy.accessLevel ≠ .permissive) {r : Reference}
    (h : violation? policy r = none) :
    (isAuthorized policy r.lowerName = true ∨ isPrimary policy r.lowerName = true) ∧
      r.kind ≠ .createDatabase ∧ r.kind ≠ .dropDatabase := by
  have hnot : (policy.accessLevel == .permissive) = false := by simpa using hlevel
  rw [violation?_eq_none_iff, isFree, hnot] at h
  cases hkind : r.kind <;> simp only [hkind, Bool.and_false, Bool.or_false, reduceCtorEq] at h
  case qualifier => exact ⟨.inl h, by decide, by decide⟩
  case use => exact ⟨.inl h, by decide, by decide⟩
  case alterDatabase => exact ⟨.inr h, by decide, by decide⟩

/-- A database that is not authorized may below the level `permissive` neither qualify a table
nor be switched to. -/
theorem check_ne_nil_of_reference (hisolation : policy.isolation = true)
    (hlevel : policy.accessLevel ≠ .permissive) {r : Reference} (hr : r ∈ references sql)
    (hkind : r.kind = .qualifier ∨ r.kind = .use)
    (hauthorized : isAuthorized policy r.lowerName = false) : check sql policy ≠ [] := by
  have hnot : (policy.accessLevel == .permissive) = false := by simpa using hlevel
  intro hnil
  have hfree := violation?_eq_none_iff.mp (((check_eq_nil_iff hisolation).mp hnil).2 r hr)
  rcases hkind with hkind | hkind <;> simp [isFree, hkind, hauthorized, hnot] at hfree

/-! ### Authorized databases -/

/-- Names that are equal ignoring case. -/
def SameInLowerCase (a b : String) : Prop :=
  lowerString a = lowerString b

instance (a b : String) : Decidable (SameInLowerCase a b) :=
  inferInstanceAs (Decidable (_ = _))

/-- A database that may be named is, ignoring case, one that the session may read. -/
theorem exists_allowed_of_isAuthorized {name : String} (h : isAuthorized policy name = true) :
    ∃ a ∈ allowedDatabases policy, SameInLowerCase name a := by
  simp only [isAuthorized, Bool.or_eq_true, Bool.and_eq_true, bne_iff_ne, beq_iff_eq,
    List.contains_iff_mem] at h
  rcases h with ⟨hne, hsame⟩ | ⟨hlevel, hsystem⟩
  · refine ⟨policy.database, ?_, lowerString_eq_of_sameName hsame⟩
    simp [allowedDatabases, hne]
  · refine ⟨name, ?_, rfl⟩
    simp [allowedDatabases, hlevel, hsystem]

theorem exists_allowed_of_isPrimary {name : String} (h : isPrimary policy name = true) :
    ∃ a ∈ allowedDatabases policy, SameInLowerCase name a := by
  simp only [isPrimary, Bool.and_eq_true, bne_iff_ne, beq_iff_eq] at h
  obtain ⟨hne, rfl⟩ := h
  refine ⟨policy.database, ?_, lowerString_lowerString _⟩
  have hdatabase : policy.database ≠ "" := by
    rintro hempty
    exact hne (by rw [hempty]; rfl)
  simp [allowedDatabases, hdatabase]

/-- A database that is, ignoring case, none that the session may read is not authorized. -/
theorem isAuthorized_eq_false {name : List Char}
    (h : ∀ a ∈ allowedDatabases policy, ¬ SameInLowerCase (localName name) a) :
    isAuthorized policy (localName name) = false := by
  by_contra hauthorized
  obtain ⟨a, ha, hsame⟩ := exists_allowed_of_isAuthorized (Bool.not_eq_false _ ▸ hauthorized)
  exact h a ha hsame

/-! ### Listing databases -/

/-- `SHOW DATABASES` or `SHOW SCHEMAS` in a text: the parts of the text, from its start to its
end. -/
structure Listing (cs : List Char) where
  front : List Char
  word : List Char
  gap : List Char
  noun : List Char
  back : List Char
  eq_append : cs = front ++ (word ++ (gap ++ (noun ++ back)))
  /-- The words are these, in any letter case. -/
  spells : Spells "SHOW".toList word
  spells_noun : ∃ w ∈ ["DATABASES", "SCHEMAS"], Spells w.toList noun
  /-- They are whole words. -/
  wordBefore : ∀ c ∈ front.getLast?, isWordChar c = false
  wordBehind : ∀ c ∈ back.head?, isWordChar c = false
  gap_ne_nil : gap ≠ []
  gap_blank : ∀ c ∈ gap, isBlank c = true

/-- **A text that lists databases** is found out. -/
theorem Listing.isFound {cs : List Char} (l : Listing cs) : isFound showDatabases? cs = true := by
  have hshow : IsKeyword "SHOW" := by decide
  have hnouns : ∀ w ∈ ["DATABASES", "SCHEMAS"], IsKeyword w := by decide
  obtain ⟨w, hw, hnoun⟩ := l.spells_noun
  have hhead : ∀ c ∈ (l.noun ++ l.back).head?, isBlank c = false := by
    obtain ⟨first, more, heq⟩ := List.exists_cons_of_ne_nil (hnoun.ne_nil (hnouns w hw))
    rw [heq]
    rintro c ⟨⟩
    exact isBlank_of_isNameChar (isNameChar_of_isWordChar
      (hnoun.isWordChar (hnouns w hw) _ (heq ▸ List.mem_cons_self)))
  have hgap : dropWordGap? "SHOW" (l.word ++ (l.gap ++ (l.noun ++ l.back))) =
      some (l.noun ++ l.back) :=
    dropWordGap?_eq_some_iff.mpr
      ⟨l.word, l.gap, rfl, l.spells, l.gap_ne_nil, l.gap_blank, hhead⟩
  have hread : (showDatabases? (lastOf? none l.front)
      (l.word ++ (l.gap ++ (l.noun ++ l.back)))).isSome = true := by
    rw [showDatabases?, if_pos (atBoundary_append (l.spells.ne_nil hshow)
      (l.spells.isWordChar hshow) (by simpa [lastOf?] using l.wordBefore) _), hgap,
      Option.bind_eq_bind, Option.bind_some, List.findSome?_isSome_iff]
    have hdrop : dropWord? w (l.noun ++ l.back) = some l.back :=
      dropLetters?_eq_some_iff.mpr ⟨_, rfl, hnoun⟩
    refine ⟨w, hw, ?_⟩
    simp only [hdrop, startsWord_eq_false l.wordBehind, Bool.false_eq_true, if_false,
      Option.isSome_some]
  obtain ⟨⟨found, after⟩, hfound⟩ := Option.isSome_iff_exists.mp hread
  obtain ⟨first, more, heq⟩ := List.exists_cons_of_ne_nil (l.spells.ne_nil hshow)
  refine isFound_iff.mpr
    ⟨l.front, first, more ++ (l.gap ++ (l.noun ++ l.back)), found, after, ?_, ?_⟩
  · rw [← List.cons_append, ← heq]
    exact l.eq_append
  · rw [← List.cons_append, ← heq]
    exact hfound

/-! ### Soundness -/

theorem mem_referenced_iff {name : String} :
    name ∈ (referencedDatabases sql).names ↔ ∃ r ∈ references sql, r.lowerName = name := by
  rw [referencedDatabases, NameSet.mem_names_ofList, List.mem_map]

theorem mem_references_of_piece {piece : List Char}
    (hpiece : piece ∈ cutAt (· == ';') (maskSql sql)) {r : Reference}
    (hr : r ∈ pieceReferences piece) : r ∈ references sql :=
  List.mem_flatMap.mpr ⟨piece, hpiece, hr⟩

/-- **Isolation.** Below the level `permissive`, with isolation on:

* a database in table position of a piece is referenced, whatever the piece declares, and the
  text is denied unless the database is authorized;
* an allowed text references only databases that the session may read, it creates and drops
  none, and at level `strict` it lists none. -/
theorem isolation_sound (hisolation : policy.isolation = true)
    (hlevel : policy.accessLevel ≠ .permissive) (sql : String) :
    (∀ piece ∈ cutAt (· == ';') (maskSql sql), ∀ p : TablePosition piece,
      isClauseWord p.database = false →
        localName p.database ∈ (report sql policy).referenced.names ∧
          (isAuthorized policy (localName p.database) = false → check sql policy ≠ [])) ∧
    (check sql policy = [] →
      (∀ name ∈ (report sql policy).referenced.names, ∃ a ∈ (report sql policy).allowed,
        SameInLowerCase name a) ∧
      (∀ r ∈ references sql, r.kind ≠ .createDatabase ∧ r.kind ≠ .dropDatabase) ∧
      (policy.accessLevel = .strict → IsEmpty (Listing (maskSql sql)))) := by
  refine ⟨?_, fun hallowed => ⟨?_, ?_, ?_⟩⟩
  · intro piece hpiece p hclause
    have hr := mem_references_of_piece hpiece (p.mem_pieceReferences hclause)
    have hname : Reference.lowerName ⟨String.ofList p.database, .qualifier, isDefinition piece⟩ =
        localName p.database := by
      rw [Reference.lowerName, lowerString, String.toList_ofList, localName]
    exact ⟨mem_referenced_iff.mpr ⟨_, hr, hname⟩, fun hauthorized =>
      check_ne_nil_of_reference hisolation hlevel hr (.inl rfl) (hname ▸ hauthorized)⟩
  · intro name hname
    obtain ⟨r, hr, rfl⟩ := mem_referenced_iff.mp hname
    have hnone := ((check_eq_nil_iff hisolation).mp hallowed).2 r hr
    exact (of_violation?_eq_none hlevel hnone).1.elim exists_allowed_of_isAuthorized
      exists_allowed_of_isPrimary
  · intro r hr
    have hnone := ((check_eq_nil_iff hisolation).mp hallowed).2 r hr
    exact (of_violation?_eq_none hlevel hnone).2
  · intro hstrict
    refine ⟨fun l => ?_⟩
    have hlisting := ((check_eq_nil_iff hisolation).mp hallowed).1
    rw [listingViolations, hstrict, l.isFound] at hlisting
    cases hlisting

/-- A policy with isolation, for examples. -/
def isolatedPolicy : Policy :=
  { Policy.initial with isolation := true, accessLevel := .strict, database := "appdb" }

/-- A common table expression does not hide a database in table position. -/
theorem isolation_sound_of_with :
    "d" ∈ (report "WITH d AS (SELECT 1) SELECT * FROM D.t" isolatedPolicy).referenced.names ∧
      check "WITH d AS (SELECT 1) SELECT * FROM D.t" isolatedPolicy ≠ [] := by
  have hpiece : "WITH d AS (SELECT 1) SELECT * FROM D.t".toList ∈
      cutAt (· == ';') (maskSql "WITH d AS (SELECT 1) SELECT * FROM D.t") := by
    decide +kernel
  let p : TablePosition "WITH d AS (SELECT 1) SELECT * FROM D.t".toList :=
    { front := "WITH d AS (SELECT 1) SELECT * ".toList
      word := "FROM".toList
      gap := [' ']
      database := ['D']
      beforePoint := []
      behindPoint := []
      table := ['t']
      back := []
      eq_append := by decide +kernel
      spells := ⟨"FROM", by decide +kernel, by decide +kernel⟩
      wordBefore := by rintro c ⟨⟩; decide
      wordBehind := by rintro c ⟨⟩; decide
      gap_blank := List.all_eq_true.mp (by decide)
      beforePoint_blank := by simp
      behindPoint_blank := by simp
      database_name := ⟨by decide, List.all_eq_true.mp (by decide)⟩
      table_name := ⟨by decide, List.all_eq_true.mp (by decide)⟩ }
  have hisolation : isolatedPolicy.isolation = true := rfl
  obtain ⟨hreferenced, hdenied⟩ :=
    (isolation_sound hisolation (by decide) _).1 _ hpiece p (by decide +kernel)
  exact ⟨hreferenced, hdenied (by decide +kernel)⟩

end SqlGateway.Scope
