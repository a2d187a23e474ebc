import SqlGateway.Proofs.Session.HardBlock

/-!
# Which Requests Are Refused, and How

A text passes if the gate allows it under the policy in force, it is read as one statement
and no semicolon of it is followed by more. `refusal?` is the error for a text that does not
pass, and `Request.refusal?` the error for a request: values that cannot be bound, or the
refusal of the first of its texts that does not pass.

What the gateway does before it takes a connection is no more than this: a request with a
refusal is answered by it, and nothing but the reported events is different afterwards.

## Main results

* `admission_eq`: admission is the refusal, or the statement that was read.
* `permitAll_of_refused`, `permitAll_of_passes`: a list of texts is refused for its first text
  that does not pass, and admitted if there is none.
* `serve_of_refused`: a request with a refusal is answered by it and leaves all as it was.
-/

namespace SqlGateway

/-! ### Passing and refusal -/

/-- A text passes: the policy allows it, and it is one statement for the parser and for the
reader of separators. -/
structure Passes (policy : Policy) (sql : String) : Prop where
  allowed : (Gate.check sql policy).allowed = true
  single : (Statement.parse sql).isMulti = false
  unseparated : Sql.hasSeparator sql.toList = false

/-- The error for a text that holds several statements. -/
def severalStatements (sql : String) : GatewayError :=
  .validation (Decimal.digitsText (max (Statement.parse sql).count 2) ++
    " statements in one call; use a transaction to run several statements")

/-- The error for a text that does not pass. -/
def refusal? (policy : Policy) (sql : String) : Option GatewayError :=
  if (Gate.check sql policy).allowed = false then some (Gate.check sql policy).denial
  else if (Statement.parse sql).isMulti = true ∨ Sql.hasSeparator sql.toList = true then
    some (severalStatements sql)
  else none

/-- A text is refused exactly if it does not pass. -/
theorem refusal?_eq_none_iff {policy : Policy} {sql : String} :
    refusal? policy sql = none ↔ Passes policy sql := by
  rw [refusal?]
  constructor
  · intro h
    split at h
    · cases h
    · rename_i hallowed
      split at h
      · cases h
      · rename_i hseveral
        obtain ⟨hmulti, hseparator⟩ := not_or.mp hseveral
        exact ⟨by simpa using hallowed, by simpa using hmulti, by simpa using hseparator⟩
  · rintro ⟨hallowed, hmulti, hseparator⟩
    rw [if_neg (by simp [hallowed]), if_neg (by simp [hmulti, hseparator])]

namespace Gate

/-- A decision that allows a text holds the statement that was read. -/
theorem statement_check_of_allowed {sql : String} {policy : Policy}
    (h : (check sql policy).allowed = true) :
    (check sql policy).statement = some (Statement.parse sql) := by
  rcases hrejection : rejection? sql policy with _ | d
  · rw [check, hrejection]
    rfl
  · -- A rejection allows nothing, whether it is for an empty text or for one too long.
    have hrefused : d.allowed = false := by
      unfold rejection? at hrejection
      dsimp only at hrejection
      split at hrejection
      · cases hrejection
        rfl
      · split at hrejection
        · cases hrejection
          rfl
        · cases hrejection
    rw [check, hrejection, Option.getD_some, hrefused] at h
    cases h

end Gate

namespace Run

variable {σ : Type}

/-- **Admission is the refusal, or the statement that was read.** -/
theorem admission_eq (sql : String) (policy : Policy) :
    admission sql policy =
      match refusal? policy sql with
      | some e => .error e
      | none => .ok (Statement.parse sql) := by
  rw [admission, Gate.enforce, Gate.Decision.enforce, refusal?]
  by_cases hallowed : (Gate.check sql policy).allowed = true
  · rw [if_pos hallowed, if_neg (by simp [hallowed])]
    simp only [bind, Except.bind, Gate.statement_check_of_allowed hallowed, Option.getD_some,
      Bool.or_eq_true]
    split <;> rfl
  · rw [if_neg hallowed, if_pos (by simpa using hallowed)]
    rfl

/-! ### Passing the gate -/

/-- An outcome that is a given error and left nothing behind but events. -/
structure Refused {α : Type} (r : Run σ) (e : GatewayError) (outcome : Outcome σ α) : Prop where
  answer_eq : outcome.1 = .error e
  untouched : Untouched r outcome.2

/-- A refusal is the result of all that follows. -/
theorem Refused.andThen {α β : Type} {r : Run σ} {e : GatewayError} {outcome : Outcome σ α}
    (h : Refused r e outcome) (f : α → Run σ → Outcome σ β) : Refused r e (andThen outcome f) := by
  obtain ⟨heq, huntouched⟩ := h
  obtain ⟨answer, r'⟩ := outcome
  obtain rfl : answer = .error e := heq
  exact ⟨rfl, huntouched⟩

/-- A text that does not pass is answered by its refusal. -/
theorem permit_of_refused {sql : String} {r : Run σ} {e : GatewayError}
    (h : refusal? r.live.policy sql = some e) : Refused r e (r.permit sql) := by
  refine ⟨?_, untouched_permit sql r⟩
  rw [permit, admission_eq, h]

/-- A text that passes is admitted as the statement that was read. -/
theorem permit_of_passes {sql : String} {r : Run σ} (h : Passes r.live.policy sql) :
    (r.permit sql).1 = .ok (Statement.parse sql) := by
  rw [permit, admission_eq, refusal?_eq_none_iff.mpr h]

/-- The policy in force is still in force when nothing happened. -/
theorem Untouched.policy_eq {r r' : Run σ} (h : Untouched r r') :
    r'.live.policy = r.live.policy :=
  congrArg (fun session => session.live.policy) h.session_eq

/-- A list of texts is refused for its first text that does not pass. -/
theorem permitAll_of_refused {sqls : List String} {r : Run σ} {e : GatewayError}
    (h : sqls.findSome? (refusal? r.live.policy) = some e) : Refused r e (r.permitAll sqls) := by
  induction sqls generalizing r with
  | nil => cases h
  | cons first rest ih =>
      rw [permitAll]
      rcases hfirst : refusal? r.live.policy first with _ | e'
      · have huntouched := untouched_permit first r
        rw [List.findSome?_cons, hfirst, ← huntouched.policy_eq] at h
        have hpermit := permit_of_passes (refusal?_eq_none_iff.mp hfirst)
        obtain ⟨heq, hafter⟩ := (ih h).andThen fun more r =>
          (.ok ((first, Statement.parse first) :: more), r)
        rw [← Prod.eta (r.permit first), hpermit]
        exact ⟨heq, huntouched.trans hafter⟩
      · rw [List.findSome?_cons, hfirst] at h
        obtain rfl : e' = e := Option.some.inj h
        exact (permit_of_refused hfirst).andThen _

/-- Texts that all pass are admitted, each as the statement that was read. -/
theorem permitAll_of_passes {sqls : List String} {r : Run σ}
    (h : ∀ sql ∈ sqls, Passes r.live.policy sql) :
    (r.permitAll sqls).1 = .ok (sqls.map fun sql => (sql, Statement.parse sql)) ∧
      Untouched r (r.permitAll sqls).2 := by
  induction sqls generalizing r with
  | nil => exact ⟨rfl, rfl, rfl, rfl⟩
  | cons first rest ih =>
      have huntouched := untouched_permit first r
      have hrest : ∀ sql ∈ rest, Passes (r.permit first).2.live.policy sql := by
        intro sql hmem
        rw [huntouched.policy_eq]
        exact h sql (List.mem_cons_of_mem first hmem)
      obtain ⟨heq, hafter⟩ := ih hrest
      rw [permitAll, ← Prod.eta (r.permit first), permit_of_passes (h first List.mem_cons_self),
        andThen, ← Prod.eta ((r.permit first).2.permitAll rest), heq]
      exact ⟨rfl, huntouched.trans hafter⟩

/-- Letting texts pass the gate, or not, touches nothing. -/
theorem untouched_permitAll (sqls : List String) (r : Run σ) :
    Untouched r (r.permitAll sqls).2 := by
  rcases hrefusal : sqls.findSome? (refusal? r.live.policy) with _ | e
  · exact (permitAll_of_passes fun sql hmem =>
      refusal?_eq_none_iff.mp (List.findSome?_eq_none_iff.mp hrefusal sql hmem)).2
  · exact (permitAll_of_refused hrefusal).untouched

end Run

/-! ### Requests -/

/-- A request passes: its values can be bound, and each of its texts passes. -/
def Request.Passes (policy : Policy) : Request → Prop
  | .query sql params => ∃ bound, Query.bind params sql = .ok bound ∧
      SqlGateway.Passes policy bound.sql
  | .transaction sqls => ∀ sql ∈ sqls, SqlGateway.Passes policy sql

/-- The error for a request that does not pass. -/
def Request.refusal? (policy : Policy) : Request → Option GatewayError
  | .query sql params =>
    match Query.bind params sql with
    | .error e => some e.toGateway
    | .ok bound => SqlGateway.refusal? policy bound.sql
  | .transaction sqls => sqls.findSome? (SqlGateway.refusal? policy)

/-- A request is refused exactly if it does not pass. -/
theorem Request.refusal?_eq_none_iff {policy : Policy} {request : Request} :
    request.refusal? policy = none ↔ request.Passes policy := by
  cases request with
  | query sql params =>
      rw [Request.refusal?, Request.Passes]
      rcases Query.bind params sql with e | bound
      · simp
      · simp [SqlGateway.refusal?_eq_none_iff]
  | transaction sqls =>
      simp [Request.refusal?, Request.Passes, SqlGateway.refusal?_eq_none_iff]

namespace Run

variable {σ : Type} (s : Server σ)

/-- **A request with a refusal is answered by it and nothing happens**, in any state. -/
theorem serve_of_refused {request : Request} {r : Run σ} {e : GatewayError}
    (h : request.refusal? r.live.policy = some e) : Refused r e (r.serve s request) := by
  cases request with
  | query sql params =>
      rw [Request.refusal?] at h
      rw [serve, query]
      rcases hbind : Query.bind params sql with e' | bound
      · rw [hbind] at h
        cases h
        exact ⟨rfl, rfl, rfl, rfl⟩
      · rw [hbind] at h
        exact ((permit_of_refused h).andThen _).andThen _
  | transaction sqls =>
      have hne : sqls.isEmpty = false := by
        cases sqls with
        | nil => cases h
        | cons => rfl
      rw [serve, transaction, hne, if_neg Bool.false_ne_true]
      exact (permitAll_of_refused h).andThen _

end Run

end SqlGateway
