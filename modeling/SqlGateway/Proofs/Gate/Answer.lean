import SqlGateway.Proofs.Gate.Explained

/-!
# The Error That Answers a Refusal

A refusal becomes one error, although a text can break several kinds of rules. The error is
worked out again from the decision: from the rules of its violations, from the verbs of the
description and from the messages of the databases, which the checks wrote separately. Each of
these sources has a text to fall back on if it does not agree with the others. This module says
that they do agree, so that the error is always the one for the gravest rule that is broken, and
that none of the texts to fall back on is ever used.

## Main results

* `answers_denial`: a decision with violations is answered by the gravest of them.
* `enforce_answers`: the gate lets a text pass exactly if it breaks no rule, and otherwise gives
  the error that answers the decision.
-/

namespace SqlGateway.Gate

open Statement

/-! ### Answers -/

/-- The error that answers a decision on a text: the gravest rule that is broken decides its case,
and it says everything that the text does against rules of that kind. -/
inductive Answers (sql : String) (d : Decision) : GatewayError → Prop
  /-- The first verb of the text that is never run. -/
  | hardBlock {operation : String} (hbroken : d.breaks .hardBlock = true)
      (hverb : (parse sql).operations.find? isHardBlocked = some operation) :
      Answers sql d (.hardBlock operation)
  | validation (hsound : d.breaks .hardBlock = false)
      (hbroken : ∃ v ∈ d.violations, v.rule.isValidation = true) :
      Answers sql d (.validation (String.intercalate "; " (d.messagesFor Rule.isValidation)))
  | scope (hsound : d.breaks .hardBlock = false)
      (hvalid : ∀ v ∈ d.violations, v.rule.isValidation = false)
      (hbroken : d.breaks .scope = true) :
      Answers sql d (.scope ((d.violations.filter (·.rule == .scope)).map (·.message)))
  | policy (hsound : d.breaks .hardBlock = false)
      (hvalid : ∀ v ∈ d.violations, v.rule.isValidation = false)
      (hinside : d.breaks .scope = false)
      (hbroken : ∃ v ∈ d.violations, v.rule.isPolicy = true) :
      Answers sql d (.policy (String.intercalate "; " (d.messagesFor Rule.isPolicy)))

/-- What the fields of a decision on a text have to do with each other. -/
structure Fits (sql : String) (d : Decision) : Prop where
  allowed_eq : d.allowed = d.violations.isEmpty
  scope_eq : d.scopeViolations = (d.violations.filter (·.rule == .scope)).map (·.message)
  of_hardBlock : d.breaks .hardBlock = true →
    d.statement = some (parse sql) ∧ (parse sql).hardBlocked?.isSome = true

section

variable {sql : String} {d : Decision}

theorem find?_hardBlock_eq_none (h : d.breaks .hardBlock = false) :
    (d.violations.find? fun v => v.rule == .hardBlock) = none := by
  rw [Decision.breaks, List.any_eq_false] at h
  exact List.find?_eq_none.mpr h

theorem messagesFor_eq_nil_iff {p : Rule → Bool} :
    d.messagesFor p = [] ↔ ∀ v ∈ d.violations, p v.rule = false := by
  simp [Decision.messagesFor, List.filter_eq_nil_iff]

theorem messagesFor_ne_nil {p : Rule → Bool} (h : ∃ v ∈ d.violations, p v.rule = true) :
    d.messagesFor p ≠ [] := by
  obtain ⟨v, hv, hrule⟩ := h
  intro hnil
  exact absurd (hrule.symm.trans (messagesFor_eq_nil_iff.mp hnil v hv)) (by decide)

theorem Fits.scopeViolations_eq_nil_iff (hfits : Fits sql d) :
    d.scopeViolations = [] ↔ d.breaks .scope = false := by
  rw [hfits.scope_eq, List.map_eq_nil_iff, List.filter_eq_nil_iff, Decision.breaks,
    List.any_eq_false]

/-- The error for a refusal is the one that answers it. -/
theorem Answers.denial_eq {e : GatewayError} (h : Answers sql d e) (hfits : Fits sql d) :
    d.denial = e := by
  cases h with
  | @hardBlock operation hbroken hverb =>
      obtain ⟨hstatement, -⟩ := hfits.of_hardBlock hbroken
      obtain ⟨v, hv, hrule⟩ := List.any_eq_true.mp hbroken
      have hsome : (d.violations.find? fun v => v.rule == .hardBlock).isSome = true :=
        List.find?_isSome.mpr ⟨v, hv, hrule⟩
      obtain ⟨first, hfirst⟩ := Option.isSome_iff_exists.mp hsome
      have hblocked : (parse sql).hardBlocked? = some operation := hverb
      rw [Decision.denial, hfirst, hstatement]
      dsimp only
      rw [Option.bind_some, hblocked, Option.getD_some]
  | validation hsound hbroken =>
      rw [Decision.denial, find?_hardBlock_eq_none hsound]
      have hmessages := messagesFor_ne_nil hbroken
      simp [hmessages]
  | scope hsound hvalid hbroken =>
      rw [Decision.denial, find?_hardBlock_eq_none hsound]
      have hscope : d.scopeViolations ≠ [] := by
        rw [Ne, hfits.scopeViolations_eq_nil_iff, hbroken]
        decide
      simp [messagesFor_eq_nil_iff.mpr hvalid, hscope, ← hfits.scope_eq]
  | policy hsound hvalid hinside hbroken =>
      rw [Decision.denial, find?_hardBlock_eq_none hsound]
      have hscope := hfits.scopeViolations_eq_nil_iff.mpr hinside
      have hmessages := messagesFor_ne_nil hbroken
      simp [messagesFor_eq_nil_iff.mpr hvalid, hscope, hmessages]

/-- A decision with violations is answered: each rule belongs to one of the four cases. -/
theorem Fits.exists_answers (hfits : Fits sql d) (hne : d.violations ≠ []) :
    ∃ e, Answers sql d e := by
  by_cases hhard : d.breaks .hardBlock = true
  · obtain ⟨operation, hverb⟩ := Option.isSome_iff_exists.mp (hfits.of_hardBlock hhard).2
    exact ⟨_, .hardBlock hhard hverb⟩
  rw [Bool.not_eq_true] at hhard
  by_cases hvalid : ∀ v ∈ d.violations, v.rule.isValidation = false
  · by_cases hscope : d.breaks .scope = true
    · exact ⟨_, .scope hhard hvalid hscope⟩
    rw [Bool.not_eq_true] at hscope
    obtain ⟨v, hv⟩ := List.exists_mem_of_ne_nil _ hne
    refine ⟨_, .policy hhard hvalid hscope ⟨v, hv, ?_⟩⟩
    have hclass : ∀ rule : Rule, rule ≠ .hardBlock → rule.isValidation = false →
        rule ≠ .scope → rule.isPolicy = true := by
      intro rule
      cases rule <;> decide
    refine hclass v.rule ?_ (hvalid v hv) ?_
    · simpa using List.any_eq_false.mp hhard v hv
    · simpa using List.any_eq_false.mp hscope v hv
  · push Not at hvalid
    obtain ⟨v, hv, hrule⟩ := hvalid
    exact ⟨_, .validation hhard ⟨v, hv, by simpa using hrule⟩⟩

/-- **A decision with violations is answered** by one error, its denial. -/
theorem Fits.answers_iff (hfits : Fits sql d) (hne : d.violations ≠ []) {e : GatewayError} :
    Answers sql d e ↔ d.denial = e := by
  constructor
  · exact fun h => h.denial_eq hfits
  · rintro rfl
    obtain ⟨e, h⟩ := hfits.exists_answers hne
    rwa [h.denial_eq hfits]

/-- A decision is enforced by letting the text pass if there is no violation. -/
theorem Fits.enforce_eq_ok_iff (hfits : Fits sql d) {d' : Decision} :
    d.enforce = .ok d' ↔ d' = d ∧ d.violations = [] := by
  rw [Decision.enforce, hfits.allowed_eq]
  by_cases hnil : d.violations = []
  · simp [hnil, eq_comm]
  · simp [hnil]

theorem Fits.enforce_eq_error_iff (hfits : Fits sql d) {e : GatewayError} :
    d.enforce = .error e ↔ d.violations ≠ [] ∧ Answers sql d e := by
  rw [Decision.enforce, hfits.allowed_eq]
  by_cases hnil : d.violations = []
  · simp [hnil]
  · simp [hnil, hfits.answers_iff hnil]

end

/-! ### The decisions of the gate -/

/-- A text that is refused before it is read is empty or too long. -/
theorem rejection?_cases (sql : String) (policy : Policy) :
    rejection? sql policy = none ∨ ∃ rule message, (rule = .empty ∨ rule = .length) ∧
      rejection? sql policy = some (.rejected rule message) := by
  unfold rejection?
  dsimp only
  split
  · exact .inr ⟨_, _, .inl rfl, rfl⟩
  · split
    · exact .inr ⟨_, _, .inr rfl, rfl⟩
    · exact .inl rfl

/-- The messages of the databases are those of the violations that the scope reports. -/
theorem scopeMessages_violationsOf (sql : String) (s : Statement) (policy : Policy) :
    ((violationsOf sql s policy).filter (·.rule == .scope)).map (·.message) =
      Scope.check sql policy := by
  have hpattern : (patternViolations sql s policy).filter (·.rule == .scope) = [] :=
    List.filter_eq_nil_iff.mpr fun v hv => by simp [rule_of_mem_patternViolations hv]
  have hvalidity : (validityViolations s).filter (·.rule == .scope) = [] :=
    List.filter_eq_nil_iff.mpr fun v hv => by
      rcases rule_of_mem_validityViolations hv with hrule | hrule <;> simp [hrule]
  have hrisk : (riskViolations s.risk policy).filter (·.rule == .scope) = [] :=
    List.filter_eq_nil_iff.mpr fun v hv => by simp [rule_of_mem_riskViolations hv]
  have hblock : (hardBlockViolations s).filter (·.rule == .scope) = [] :=
    List.filter_eq_nil_iff.mpr fun v hv => by simp [rule_of_mem_hardBlockViolations hv]
  have hscope : ((Scope.check sql policy).map fun m => (⟨.scope, m⟩ : Violation)).filter
      (·.rule == .scope) = (Scope.check sql policy).map fun m => ⟨.scope, m⟩ :=
    List.filter_eq_self.mpr fun v hv => by
      obtain ⟨_, -, rfl⟩ := List.mem_map.mp hv
      rfl
  rw [violationsOf, List.filter_append, List.filter_append, List.filter_append,
    List.filter_append, hpattern, hvalidity, hscope, hrisk, hblock]
  simp [Function.comp_def]

/-- The fields of a decision of the gate agree with each other. -/
theorem fits_check (sql : String) (policy : Policy) : Fits sql (check sql policy) := by
  rcases rejection?_cases sql policy with hread | ⟨rule, message, hrule, hreject⟩
  · have hcheck : check sql policy = judge sql policy := by
      rw [check, hread]
      rfl
    refine ⟨?_, ?_, ?_⟩
    · rw [hcheck]
      rfl
    · rw [hcheck]
      exact (scopeMessages_violationsOf sql _ policy).symm
    · intro hbroken
      refine ⟨?_, (breaks_hardBlock_iff hread).mp hbroken⟩
      rw [hcheck]
      rfl
  · have hcheck : check sql policy = .rejected rule message := by
      rw [check, hreject]
      rfl
    rw [hcheck]
    rcases hrule with rfl | rfl
    · exact ⟨rfl, rfl, fun h => by cases h⟩
    · exact ⟨rfl, rfl, fun h => by cases h⟩

/-! ### Texts to fall back on -/

/-- What the gate reports of a text, but that it is empty or too long, comes from the check of the
rule. -/
theorem mem_reports_of_check {sql : String} {policy : Policy} {v : Violation} {rule : Rule}
    (h : v ∈ (check sql policy).violations) (hrule : v.rule = rule)
    (hread : rule ≠ .empty ∧ rule ≠ .length) : v ∈ reports sql (parse sql) policy rule := by
  subst hrule
  rw [check] at h
  rcases rejection?_cases sql policy with hnone | ⟨rule, message, hrule, hreject⟩
  · rw [hnone] at h
    exact mem_reports_rule h
  · rw [hreject] at h
    rw [List.mem_singleton.mp h] at hread
    exact absurd hrule (not_or.mpr hread)

/-- The message about a verb that is never run is longer than the verb. -/
theorem message_ne_of_hardBlock {sql operation : String} {policy : Policy} {v : Violation}
    (hv : v ∈ (check sql policy).violations) (hrule : v.rule = .hardBlock)
    (hverb : (parse sql).operations.find? isHardBlocked = some operation) :
    operation ≠ v.message := by
  have hmem : v ∈ hardBlockViolations (parse sql) := mem_reports_of_check hv hrule (by decide)
  have hblocked : (parse sql).hardBlocked? = some operation := hverb
  rw [hardBlockViolations, hblocked, Option.toList_some, List.map_singleton,
    List.mem_singleton] at hmem
  rw [hmem]
  intro heq
  have hlength := congrArg String.length heq
  simp only [String.length_append] at hlength
  have hpos : "operation ".length = 10 := by decide
  omega

/-- A list of messages with their rules starts with a bracket. -/
theorem intercalate_messagesFor_ne {d : Decision} {p : Rule → Bool} (h : d.messagesFor p ≠ []) :
    String.intercalate "; " (d.messagesFor p) ≠ "statement denied" := by
  obtain ⟨first, more, hmessages⟩ := List.exists_cons_of_ne_nil h
  have hmem : first ∈ d.messagesFor p := by simp [hmessages]
  obtain ⟨v, -, rfl⟩ := List.mem_map.mp hmem
  rw [hmessages]
  intro heq
  have hfront := congrArg (fun s => s.toList.head?) heq
  simp [Violation.tagged, String.toList_intercalate] at hfront

/-- The verbs of a text that the gateway does not run, in order. -/
def unsupportedVerbs (sql : String) : List String :=
  ((statements sql).filter fun s => !s.isSupported).map operation

/-- A text that is valid has statements. -/
theorem statements_ne_nil_of_isValid {sql : String} (h : (parse sql).isValid = true) :
    statements sql ≠ [] := by
  obtain ⟨fallback, hparse⟩ := parse_eq_combine sql
  intro hnil
  rw [hparse, hnil] at h
  cases h

theorem unsupportedOperations_parse {sql : String} (hne : statements sql ≠ []) :
    unsupportedOperations (parse sql) = unsupportedVerbs sql := by
  obtain ⟨fallback, hparse⟩ := parse_eq_combine sql
  rw [unsupportedOperations, hparse,
    operations_combine (fun s => isSingle_of_mem_statements) _ _ hne, unsupportedVerbs,
    List.filter_map]
  refine congrArg (List.map operation) (List.filter_congr fun s hs => ?_)
  have hsingle := isSingle_of_mem_statements hs
  rw [hsingle.isSupported_eq, hsingle.category_eq, Function.comp_apply]

/-- **The message about verbs that are not run** names them all, and there is one. -/
theorem message_of_unsupported {sql : String} {policy : Policy} {v : Violation}
    (hv : v ∈ (check sql policy).violations) (hrule : v.rule = .unsupported) :
    unsupportedVerbs sql ≠ [] ∧ v.message =
      "operation " ++ String.intercalate ", " (unsupportedVerbs sql) ++ " is not supported" := by
  have hmem : v ∈ validityViolations (parse sql) := mem_reports_of_check hv hrule (by decide)
  rw [validityViolations] at hmem
  split_ifs at hmem with hinvalid hunsupported
  · rw [List.mem_singleton.mp hmem] at hrule
    cases hrule
  · have hne := statements_ne_nil_of_isValid (by simpa using hinvalid)
    rw [unsupportedOperations_parse hne] at hmem
    refine ⟨?_, by rw [List.mem_singleton.mp hmem]⟩
    obtain ⟨fallback, hparse⟩ := parse_eq_combine sql
    rw [hparse, isSupported_combine _ _ _ hne, Bool.not_eq_true', List.all_eq_false] at hunsupported
    obtain ⟨s, hs, hverb⟩ := hunsupported
    exact List.ne_nil_of_mem
      (List.mem_map_of_mem (List.mem_filter.mpr ⟨hs, by simpa using hverb⟩))
  · cases hmem

/-- **The error that answers a refusal.** A text passes exactly if it breaks no rule. Otherwise
the error is a denial and answers the decision: it is the one for the gravest rule that is broken,
and none of the texts to fall back on. What is said of verbs that are not run names all of them,
in order, and at least one. -/
theorem enforce_answers (sql : String) (policy : Policy) :
    (∀ d, enforce sql policy = .ok d ↔
      d = check sql policy ∧ (check sql policy).violations = []) ∧
    (∀ e, enforce sql policy = .error e ↔
      (check sql policy).violations ≠ [] ∧ Answers sql (check sql policy) e) ∧
    (∀ e, enforce sql policy = .error e →
      e.isDenial = true ∧ e ≠ .policy "statement denied" ∧
        ∀ v ∈ (check sql policy).violations, v.rule = .hardBlock → e ≠ .hardBlock v.message) ∧
    (∀ v ∈ (check sql policy).violations, v.rule = .unsupported →
      unsupportedVerbs sql ≠ [] ∧ v.message =
        "operation " ++ String.intercalate ", " (unsupportedVerbs sql) ++ " is not supported") := by
  have hfits := fits_check sql policy
  refine ⟨fun d => hfits.enforce_eq_ok_iff, fun e => hfits.enforce_eq_error_iff, ?_,
    fun v => message_of_unsupported⟩
  intro e h
  have hanswers := (hfits.enforce_eq_error_iff.mp h).2
  refine ⟨isDenial_of_enforce h, ?_, ?_⟩
  · rintro rfl
    generalize hmessage : "statement denied" = message at hanswers
    cases hanswers with
    | policy _ _ _ hbroken =>
        exact intercalate_messagesFor_ne (messagesFor_ne_nil hbroken) hmessage.symm
  · rintro v hv hrule rfl
    generalize hmessage : v.message = message at hanswers
    cases hanswers with
    | hardBlock _ hverb => exact message_ne_of_hardBlock hv hrule hverb hmessage.symm

/-- A text with two faults is refused for the verb that is never run; the other verb is named. -/
theorem enforce_answers_of_two_faults :
    enforce "CALL p(); DROP TABLE t" .initial = .error (.hardBlock "DROP") ∧
      (⟨.unsupported, "operation CALL is not supported"⟩ : Violation) ∈
        (check "CALL p(); DROP TABLE t" .initial).violations ∧
      unsupportedVerbs "CALL p(); DROP TABLE t" ≠ [] := by
  have hanswers := enforce_answers "CALL p(); DROP TABLE t" .initial
  have hcall : (⟨.unsupported, "operation CALL is not supported"⟩ : Violation) ∈
      (check "CALL p(); DROP TABLE t" .initial).violations := by
    decide +kernel
  refine ⟨(hanswers.2.1 _).mpr ⟨List.ne_nil_of_mem hcall, .hardBlock ?_ ?_⟩, hcall,
    (hanswers.2.2.2 _ hcall rfl).1⟩
  · decide +kernel
  · decide +kernel

end SqlGateway.Gate
