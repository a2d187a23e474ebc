import SqlGateway.Proofs.Scope.Isolation

/-!
# A Session and Its Own Database

A text that names no database but the session's own, ignoring case, is no cross-database query.
With isolation on it may be denied all the same: which databases may be named is decided by
comparing names apart from the case of ASCII letters only, and a name is compared in lower case. So
a session whose database is written with another letter that is not in lower case may neither
switch to it nor name it in front of a table, except where schema objects are changed at the level
`permissive`.

## Main results

* `isAuthorized_own_iff`: which databases their own session may name.
* `own_database_allowed_iff`: which texts that name no other database are allowed.
* `own_database_denied`: one that is not.
-/

namespace SqlGateway.Scope

open Text

variable {policy : Policy} {sql : String}

/-- The letters of a name that are not in ASCII are in lower case. -/
def IsComparable (name : String) : Prop :=
  ∀ c ∈ name.toList, c.toNat < 0x80 ∨ IsLowered c

instance (name : String) : Decidable (IsComparable name) :=
  decidable_of_iff (name.toList.all fun c => decide (c.toNat < 0x80 ∨ IsLowered c)) (by
    simp [IsComparable])

/-- The system schemas have names in ASCII, without a `k`. -/
theorem plain_of_mem_systemDatabases :
    ∀ name ∈ systemDatabases, ∀ c ∈ name.toList, c.toNat < 0x80 ∧ c ≠ 'k' := by
  have hall : systemDatabases.all fun name =>
      name.toList.all fun c => decide (c.toNat < 0x80 ∧ c ≠ 'k') := by decide
  simpa only [List.all_eq_true, decide_eq_true_eq] using hall

/-- **A session may name its own database** exactly if the database's name is comparable. -/
theorem isAuthorized_own_iff (hdatabase : policy.database ≠ "") :
    isAuthorized policy (lowerString policy.database) = true ↔ IsComparable policy.database := by
  simp only [isAuthorized, Bool.or_eq_true, Bool.and_eq_true, bne_iff_ne, beq_iff_eq, ne_eq,
    hdatabase, not_false_eq_true, true_and, List.contains_iff_mem, sameName_lowerString_iff]
  refine or_iff_left_of_imp fun ⟨_, hsystem⟩ => ?_
  have hplain := plain_of_mem_systemDatabases _ hsystem
  rw [lowerString, String.toList_ofList] at hplain
  exact fun c hc => .inl (ascii_of_lower hplain c hc)

theorem isPrimary_own (hdatabase : policy.database ≠ "") :
    isPrimary policy (lowerString policy.database) = true := by
  have hne : lowerString policy.database ≠ "" := by
    intro hempty
    refine lower_ne_nil (mt String.toList_eq_nil_iff.mp hdatabase) ?_
    rw [← String.toList_ofList (l := lower _), ← lowerString, hempty]
    rfl
  simp [isPrimary, hne]

/-- A reference to the session's own database that is let stand, whatever the name: one that alters
the database, or names it in front of a table where schema objects may be changed. -/
def IsExempt (policy : Policy) (r : Reference) : Prop :=
  r.kind = .alterDatabase ∨
    r.kind = .qualifier ∧ r.inDefinition = true ∧ policy.accessLevel = .permissive

/-- A reference to the session's own database. -/
theorem isFree_own_iff (hdatabase : policy.database ≠ "") {r : Reference}
    (hown : r.lowerName = lowerString policy.database)
    (hwhole : r.kind ≠ .createDatabase ∧ r.kind ≠ .dropDatabase) :
    isFree policy r = true ↔ IsComparable policy.database ∨ IsExempt policy r := by
  have hprimary := isPrimary_own hdatabase
  rw [← isAuthorized_own_iff hdatabase, isFree, IsExempt, hown]
  cases hkind : r.kind with
  | qualifier => simp
  | use => simp
  | createDatabase => exact absurd hkind hwhole.1
  | dropDatabase => exact absurd hkind hwhole.2
  | alterDatabase => simp [hprimary]

/-- A text that is no cross-database query references the session's own database only. -/
theorem isCrossDatabase_eq_false_iff :
    isCrossDatabase sql policy = false ↔
      ∀ r ∈ references sql, r.lowerName = lowerString policy.database := by
  simp [isCrossDatabase]

/-- **A text that names no other database is allowed**, where isolation is on and the text neither
creates nor drops a database nor lists databases, exactly if the own database's name is comparable
or each of its references is exempt. -/
theorem own_database_allowed_iff (hisolation : policy.isolation = true)
    (hdatabase : policy.database ≠ "") (hown : isCrossDatabase sql policy = false)
    (hwhole : ∀ r ∈ references sql, r.kind ≠ .createDatabase ∧ r.kind ≠ .dropDatabase)
    (hlisting : isFound showDatabases? (maskSql sql) = false) :
    check sql policy = [] ↔
      IsComparable policy.database ∨ ∀ r ∈ references sql, IsExempt policy r := by
  have hnone : listingViolations sql policy = [] := by
    rw [listingViolations, hlisting, Bool.and_false, if_neg Bool.false_ne_true]
  have hnames := isCrossDatabase_eq_false_iff.mp hown
  calc check sql policy = []
    _ ↔ ∀ r ∈ references sql, isFree policy r = true := by
        rw [check_eq_nil_iff hisolation, and_iff_right hnone]
        exact forall₂_congr fun r _ => violation?_eq_none_iff
    _ ↔ ∀ r ∈ references sql, IsComparable policy.database ∨ IsExempt policy r :=
        forall₂_congr fun r hr => isFree_own_iff hdatabase (hnames r hr) (hwhole r hr)
    _ ↔ IsComparable policy.database ∨ ∀ r ∈ references sql, IsExempt policy r := by
        simp only [forall_or_left]

/-- A policy with isolation for the session's own database, for examples. -/
def ownPolicy (database : String) (level : AccessLevel) : Policy :=
  { Policy.initial with isolation := true, accessLevel := level, database := database }

/-- Letters past ASCII do no harm if they are in lower case. -/
theorem own_database_allowed_of_small : check "USE APPDBé" (ownPolicy "appDBé" .strict) = [] :=
  (own_database_allowed_iff rfl (by decide) (by decide +kernel) (by decide +kernel)
    (by decide +kernel)).mpr (.inl (by decide +kernel))

/-- **A session that is shut out of its own database.** -/
theorem own_database_denied :
    isCrossDatabase "SELECT * FROM É.t" (ownPolicy "É" .strict) = false ∧
      (∀ r ∈ references "SELECT * FROM É.t",
        r.kind ≠ .createDatabase ∧ r.kind ≠ .dropDatabase) ∧
      isFound showDatabases? (maskSql "SELECT * FROM É.t") = false ∧
      check "SELECT * FROM É.t" (ownPolicy "É" .strict) ≠ [] := by
  have hreferences : references "SELECT * FROM É.t" = [⟨"É", .qualifier, false⟩] := by
    decide +kernel
  have hviolation : violation? (ownPolicy "É" .strict) ⟨"É", .qualifier, false⟩ ≠ none := by
    decide +kernel
  refine ⟨?_, ?_, by decide +kernel, fun hnil => ?_⟩
  · rw [isCrossDatabase_eq_false_iff, hreferences, List.forall_mem_singleton]
    rfl
  · rw [hreferences, List.forall_mem_singleton]
    decide
  · rw [check_eq_nil_iff rfl, hreferences, List.forall_mem_singleton] at hnil
    exact hviolation hnil.2

end SqlGateway.Scope
