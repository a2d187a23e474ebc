import SqlGateway.Proofs.Gate.Refusal
import SqlGateway.Proofs.Scope.Isolation

/-!
# Looser Policies

A policy is looser than another if it allows longer texts, more levels of risk and fewer
patterns to be blocked, leaves out checks, or reaches further than the session's own database.
The levels of access are not a chain: `restricted` adds the system schemas for reading and
`permissive` adds changes of schema objects, so each is looser than `strict` and neither is
looser than the other.

Every check that passes under a policy passes under a looser one, and where all pass, the two
decisions are the same in every part.

## Main results

* `violation?_of_isLooser`: a reference that gives no violation gives none.
* `violationsOf_of_isLooser`: neither does a text.
* `check_of_isLooser`: what is allowed stays allowed, and what is denied was denied.
-/

namespace SqlGateway

/-- Whether one policy is looser than another: each setting that the gate goes by is the same
or looser. -/
structure Policy.IsLooser (p q : Policy) : Prop where
  environment_eq : q.environment = p.environment
  database_eq : q.database = p.database
  maxLength_le : p.maxLength ≤ q.maxLength
  allowedRisks : ∀ level, p.allowedRisks.contains level = true →
    q.allowedRisks.contains level = true
  blockedPatterns : q.blockedPatterns ⊆ p.blockedPatterns
  queryCheck : q.queryCheck = true → p.queryCheck = true
  isolation : q.isolation = true → p.isolation = true
  accessLevel : q.accessLevel = p.accessLevel ∨ p.accessLevel = .strict

variable {p q : Policy}

/-! ### Databases -/

namespace Scope

/-- A database that may be named may be named. -/
theorem isAuthorized_of_isLooser (h : p.IsLooser q) {name : String}
    (hname : isAuthorized p name = true) : isAuthorized q name = true := by
  simp only [isAuthorized, h.database_eq] at hname ⊢
  rcases h.accessLevel with hlevel | hstrict
  · rwa [hlevel]
  · have hne : (AccessLevel.strict == AccessLevel.restricted) = false := rfl
    rw [hstrict, hne, Bool.false_and, Bool.or_false] at hname
    rw [hname, Bool.true_or]

theorem isPrimary_of_isLooser (h : p.IsLooser q) (name : String) :
    isPrimary q name = isPrimary p name := by
  rw [isPrimary, isPrimary, h.database_eq]

/-- What is permissive stays so. -/
theorem permissive_of_isLooser (h : p.IsLooser q)
    (hp : (p.accessLevel == .permissive) = true) : (q.accessLevel == .permissive) = true := by
  rcases h.accessLevel with hlevel | hstrict
  · rwa [hlevel]
  · rw [hstrict] at hp
    cases hp

/-- A reference that stands still stands, of whatever kind it is. -/
theorem isFree_of_isLooser (h : p.IsLooser q) {r : Reference} (hfree : isFree p r = true) :
    isFree q r = true := by
  cases hkind : r.kind with
  | qualifier =>
      simp only [isFree, hkind, Bool.or_eq_true, Bool.and_eq_true] at hfree ⊢
      exact hfree.imp (isAuthorized_of_isLooser h) (And.imp_right (permissive_of_isLooser h))
  | use =>
      simp only [isFree, hkind] at hfree ⊢
      exact isAuthorized_of_isLooser h hfree
  | createDatabase =>
      simp only [isFree, hkind] at hfree ⊢
      exact permissive_of_isLooser h hfree
  | dropDatabase =>
      simp only [isFree, hkind, isPrimary_of_isLooser h, Bool.and_eq_true] at hfree ⊢
      exact hfree.imp_right (permissive_of_isLooser h)
  | alterDatabase =>
      simp only [isFree, hkind, isPrimary_of_isLooser h, Bool.or_eq_true] at hfree ⊢
      exact hfree.imp_right (permissive_of_isLooser h)

/-- **A reference that gives no violation gives none** under a looser policy. -/
theorem violation?_of_isLooser (h : p.IsLooser q) {r : Reference}
    (hnone : violation? p r = none) : violation? q r = none :=
  violation?_eq_none_iff.mpr (isFree_of_isLooser h (violation?_eq_none_iff.mp hnone))

/-- Where databases may be listed, they may be listed. -/
theorem listingViolations_of_isLooser (h : p.IsLooser q) {sql : String}
    (hnil : listingViolations sql p = []) : listingViolations sql q = [] := by
  rw [listingViolations] at hnil ⊢
  split at hnil
  · cases hnil
  · rename_i hnot
    refine if_neg fun hq => hnot ?_
    rw [Bool.and_eq_true, beq_iff_eq] at hq ⊢
    exact ⟨h.accessLevel.elim (fun hlevel => hlevel ▸ hq.1) id, hq.2⟩

/-- A text that stays inside its databases stays inside. -/
theorem check_eq_nil_of_isLooser (h : p.IsLooser q) {sql : String} (hnil : check sql p = []) :
    check sql q = [] := by
  by_cases hisolation : q.isolation = true
  · obtain ⟨hlisting, hreferences⟩ := (check_eq_nil_iff (h.isolation hisolation)).mp hnil
    exact (check_eq_nil_iff hisolation).mpr ⟨listingViolations_of_isLooser h hlisting,
      fun r hr => violation?_of_isLooser h (hreferences r hr)⟩
  · rw [check, if_neg hisolation]

end Scope

/-! ### The other checks -/

namespace Gate

theorem patternViolations_of_isLooser (h : p.IsLooser q) {sql : String} {s : Statement}
    (hnil : patternViolations sql s p = []) : patternViolations sql s q = [] := by
  by_cases hcheck : q.queryCheck = true
  · rw [patternViolations, if_pos (h.queryCheck hcheck), List.map_eq_nil_iff, blockedPatternsIn,
      List.filter_eq_nil_iff] at hnil
    rw [patternViolations, if_pos hcheck, List.map_eq_nil_iff, blockedPatternsIn,
      List.filter_eq_nil_iff]
    exact fun pattern hpattern => hnil pattern (h.blockedPatterns hpattern)
  · rw [patternViolations, if_neg hcheck]

theorem riskViolations_of_isLooser (h : p.IsLooser q) {risk : RiskLevel}
    (hnil : riskViolations risk p = []) : riskViolations risk q = [] := by
  by_cases hcheck : q.queryCheck = true
  · rw [riskViolations, if_pos (h.queryCheck hcheck), List.map_eq_nil_iff,
      Option.toList_eq_nil_iff, RiskSet.refusal?] at hnil
    rw [riskViolations, if_pos hcheck, List.map_eq_nil_iff, Option.toList_eq_nil_iff,
      RiskSet.refusal?, if_pos]
    split at hnil
    · rename_i hcontains
      exact h.allowedRisks risk hcontains
    · cases hnil
  · rw [riskViolations, if_neg hcheck]

/-- **A text that breaks no rule breaks none** under a looser policy. -/
theorem violationsOf_of_isLooser (h : p.IsLooser q) {sql : String} {s : Statement}
    (hnil : violationsOf sql s p = []) : violationsOf sql s q = [] := by
  simp only [violationsOf, List.append_eq_nil_iff, List.map_eq_nil_iff] at hnil ⊢
  obtain ⟨⟨⟨⟨hpattern, hvalidity⟩, hscope⟩, hrisk⟩, hblock⟩ := hnil
  exact ⟨⟨⟨⟨patternViolations_of_isLooser h hpattern, hvalidity⟩,
    Scope.check_eq_nil_of_isLooser h hscope⟩, riskViolations_of_isLooser h hrisk⟩, hblock⟩

/-- A text that is read is read. -/
theorem rejection?_of_isLooser (h : p.IsLooser q) {sql : String}
    (hnone : rejection? sql p = none) : rejection? sql q = none := by
  unfold rejection? at hnone ⊢
  dsimp only at hnone ⊢
  split at hnone
  · cases hnone
  · rename_i hblank
    split at hnone
    · cases hnone
    · rename_i hlength
      rw [if_neg hblank, if_neg]
      exact fun hlong => hlength (h.maxLength_le.trans_lt hlong)

/-- **The gate is monotone in the policy.** What a policy allows, a looser one allows with the
same decision; and what the looser one denies, the policy denies. -/
theorem check_of_isLooser (h : p.IsLooser q) (sql : String) :
    ((check sql p).allowed = true →
      (check sql q).allowed = true ∧ check sql q = check sql p) ∧
    ((check sql q).allowed = false → (check sql p).allowed = false) := by
  have hmono : (check sql p).allowed = true →
      (check sql q).allowed = true ∧ check sql q = check sql p := by
    intro hallowed
    obtain ⟨hread, hnone⟩ := allowed_check_iff.mp hallowed
    have hread' := rejection?_of_isLooser h hread
    have hnone' := violationsOf_of_isLooser h hnone
    refine ⟨allowed_check_iff.mpr ⟨hread', hnone'⟩, ?_⟩
    have hscope : ∀ {policy : Policy}, violationsOf sql (Statement.parse sql) policy = [] →
        Scope.check sql policy = [] := by
      intro policy hnil
      simp only [violationsOf, List.append_eq_nil_iff, List.map_eq_nil_iff] at hnil
      exact hnil.1.1.2
    rw [check, check, hread, hread', Option.getD_none, Option.getD_none, judge, judge,
      hnone, hnone', hscope hnone, hscope hnone', h.environment_eq]
  refine ⟨hmono, fun hdenied => ?_⟩
  by_contra hallowed
  rw [(hmono (by simpa using hallowed)).1] at hdenied
  cases hdenied

/-- A policy that is looser than the isolated one in every way but the query check. -/
def restrictedPolicy : Policy :=
  { Scope.isolatedPolicy with
    accessLevel := .restricted
    maxLength := 4000
    allowedRisks := .ofList [.low, .medium]
    blockedPatterns := ["TRUNCATE"] }

/-- A text within the session's own database stays allowed, and one that changes another
database was denied before. -/
theorem check_of_isLooser_restricted :
    check "SELECT a FROM AppDB.t LIMIT 1" restrictedPolicy =
        check "SELECT a FROM AppDB.t LIMIT 1" Scope.isolatedPolicy ∧
      (check "UPDATE d.t SET a = 1" Scope.isolatedPolicy).allowed = false := by
  have hlooser : Scope.isolatedPolicy.IsLooser restrictedPolicy :=
    { environment_eq := rfl
      database_eq := rfl
      maxLength_le := by decide
      allowedRisks := fun level => by cases level <;> decide
      blockedPatterns := by decide
      queryCheck := fun _ => rfl
      isolation := fun _ => rfl
      accessLevel := .inr rfl }
  exact ⟨((check_of_isLooser hlooser _).1 (by decide +kernel)).2,
    (check_of_isLooser hlooser _).2 (by decide +kernel)⟩

end Gate

end SqlGateway
