import SqlGateway.Proofs.Gate.Refusal
import SqlGateway.Server.Unreachable
import SqlGateway.Session.Query

/-!
# Destructive Texts Never Reach the Server

A caller of a session makes requests: single statements with their values, and lists of
statements to be run in one transaction. `Run.serve` answers one request and `Run.trace`
records a whole run of them, for any policy, any state of the pool and any server.

A request whose text opens with a verb that is never run is answered by a denial, and leaves
everything but the events that were reported as it was: the session, the server's state and
the calls made to the server. It does not matter whether the verb stands inside a versioned
comment, behind parentheses, or in a text that the tokenizer does not accept, nor where in a
transaction the statement is listed.

## Main results

* `permit_of_destructive`: the gate does not let a destructive text pass.
* `serve_of_destructive`: the step lemma, for one request.
* `trace_of_destructive`: the run lemma, for every request of a run.
-/

namespace SqlGateway

open Sql Statement

namespace Run

variable {σ : Type}

/-! ### What a refusal leaves -/

/-- Nothing happened to the session or the server; events may have been reported. -/
structure Untouched (r r' : Run σ) : Prop where
  session_eq : r'.toSession = r.toSession
  server_eq : r'.server = r.server
  calls_eq : r'.calls = r.calls

theorem Untouched.trans {r r' r'' : Run σ} (h : Untouched r r') (h' : Untouched r' r'') :
    Untouched r r'' :=
  ⟨h'.session_eq.trans h.session_eq, h'.server_eq.trans h.server_eq,
    h'.calls_eq.trans h.calls_eq⟩

/-- An outcome that is a denial and left nothing behind but events. -/
structure Denied {α : Type} (r : Run σ) (outcome : Outcome σ α) : Prop where
  denial : ∃ e, outcome.1 = .error e ∧ e.isDenial = true
  untouched : Untouched r outcome.2

/-- A denial is the result of all that follows. -/
theorem Denied.andThen {α β : Type} {r : Run σ} {outcome : Outcome σ α} (h : Denied r outcome)
    (f : α → Run σ → Outcome σ β) : Denied r (andThen outcome f) := by
  obtain ⟨⟨e, heq, he⟩, huntouched⟩ := h
  obtain ⟨answer, r'⟩ := outcome
  obtain rfl : answer = .error e := heq
  exact ⟨⟨e, rfl, he⟩, huntouched⟩

/-! ### Passing the gate -/

/-- Passing the gate touches nothing. -/
theorem untouched_permit (sql : String) (r : Run σ) : Untouched r (r.permit sql).2 :=
  ⟨rfl, rfl, rfl⟩

/-- Whoever does not pass the gate gets a denial. -/
theorem isDenial_of_admission {sql : String} {p : Policy} {e : GatewayError}
    (h : admission sql p = .error e) : e.isDenial = true := by
  rw [admission] at h
  rcases henforce : Gate.enforce sql p with e' | decision
  · rw [henforce] at h
    cases h
    exact Gate.isDenial_of_enforce henforce
  · rw [henforce] at h
    simp only [bind, Except.bind] at h
    split at h
    · cases h
      rfl
    · cases h

/-- **A destructive text does not pass the gate**, whatever the policy. -/
theorem permit_of_destructive {sql : String} (h : IsDestructive (stripComments sql.toList))
    (r : Run σ) : Denied r (r.permit sql) := by
  obtain ⟨s, more, hstatements, hrefused⟩ := exists_refused_of_destructive h
  have hmem : s ∈ statements sql := by
    rw [hstatements]
    exact List.mem_cons_self
  obtain ⟨e, he⟩ := Gate.enforce_of_isRefused r.live.policy hmem hrefused
  have hadmission : admission sql r.live.policy = .error e := by
    rw [admission, he]
    rfl
  exact ⟨⟨e, hadmission, isDenial_of_admission hadmission⟩, untouched_permit sql r⟩

/-- Statements with a destructive one among them do not pass the gate. -/
theorem permitAll_of_destructive {sqls : List String} {sql : String} (hmem : sql ∈ sqls)
    (h : IsDestructive (stripComments sql.toList)) (r : Run σ) : Denied r (r.permitAll sqls) := by
  induction sqls generalizing r with
  | nil => cases hmem
  | cons first rest ih =>
      rw [permitAll]
      rcases hpermit : r.permit first with ⟨e | stmt, r'⟩
      · -- The first statement is refused already, for whatever reason.
        have hadmission : admission first r.live.policy = .error e :=
          congrArg Prod.fst hpermit
        have hdenied : Denied r (r.permit first) :=
          ⟨⟨e, hadmission, isDenial_of_admission hadmission⟩, untouched_permit first r⟩
        rw [hpermit] at hdenied
        exact hdenied.andThen _
      · have huntouched := untouched_permit first r
        rw [hpermit] at huntouched
        have hrest : sql ∈ rest := by
          rcases List.mem_cons.mp hmem with rfl | hrest
          · obtain ⟨⟨e, heq, -⟩, -⟩ := permit_of_destructive h r
            rw [hpermit] at heq
            cases heq
          · exact hrest
        obtain ⟨hdenial, hafter⟩ := (ih hrest r').andThen fun more r =>
          (.ok ((first, stmt) :: more), r)
        exact ⟨hdenial, huntouched.trans hafter⟩

end Run

/-! ### Requests and runs -/

/-- What a caller asks of a session. -/
inductive Request where
  /-- One statement, with the values of its placeholders. -/
  | query (sql : String) (params : Query.Params)
  /-- Statements to be run in one transaction. -/
  | transaction (sqls : List String)

/-- The texts that a request would send, once its values are bound. -/
def Request.texts : Request → List String
  | .query sql params =>
    match Query.bind params sql with
    | .ok bound => [bound.sql]
    | .error _ => []
  | .transaction sqls => sqls

/-- A request that would send a destructive text. -/
def Request.IsDestructive (request : Request) : Prop :=
  ∃ sql ∈ request.texts, SqlGateway.IsDestructive (stripComments sql.toList)

/-- One request of a run: what was asked, what was answered, and the run before and after. -/
structure Step (σ : Type) where
  request : Request
  before : Run σ
  answer : Except GatewayError (List (List Record))
  after : Run σ

namespace Run

variable {σ : Type} (s : Server σ)

/-- Answers a request. -/
def serve (request : Request) (r : Run σ) : Outcome σ (List (List Record)) :=
  match request with
  | .query sql params => andThen (r.query s sql params) fun records r => (.ok [records], r)
  | .transaction sqls => r.transaction s sqls

/-- Answers requests one after another. -/
def trace : List Request → Run σ → List (Step σ)
  | [], _ => []
  | request :: rest, r =>
    ⟨request, r, (r.serve s request).1, (r.serve s request).2⟩ :: trace rest (r.serve s request).2

/-- **A destructive request is denied and nothing happens**, in any state. -/
theorem serve_of_destructive {request : Request} (h : request.IsDestructive) (r : Run σ) :
    Denied r (r.serve s request) := by
  obtain ⟨sql, hmem, hdestructive⟩ := h
  cases request with
  | query text params =>
      rw [Request.texts] at hmem
      rw [serve, query]
      split at hmem
      · rename_i bound hbind
        rw [hbind]
        obtain rfl : sql = bound.sql := List.mem_singleton.mp hmem
        exact ((permit_of_destructive hdestructive r).andThen _).andThen _
      · cases hmem
  | transaction sqls =>
      have hne : sqls.isEmpty = false := by
        cases sqls with
        | nil => cases hmem
        | cons => rfl
      rw [serve, transaction, hne, if_neg Bool.false_ne_true]
      exact (permitAll_of_destructive hmem hdestructive r).andThen _

/-- **Destructive texts never reach the server**: in every run of requests, whatever the
policy, the state of the pool and the server, a request that would send a destructive text is
answered by a denial and leaves the session, the server's state and the calls made to it as
they were. -/
theorem trace_of_destructive {requests : List Request} {r : Run σ} {step : Step σ}
    (hstep : step ∈ r.trace s requests) (h : step.request.IsDestructive) :
    (∃ e, step.answer = .error e ∧ e.isDenial = true) ∧
      step.after.toSession = step.before.toSession ∧ step.after.server = step.before.server ∧
      step.after.calls = step.before.calls := by
  induction requests generalizing r with
  | nil => cases hstep
  | cons request rest ih =>
      rcases List.mem_cons.mp hstep with rfl | hstep
      · obtain ⟨hdenial, huntouched⟩ := serve_of_destructive s h r
        exact ⟨hdenial, huntouched.session_eq, huntouched.server_eq, huntouched.calls_eq⟩
      · exact ih hstep

/-- A verb in a versioned comment behind a parenthesis, listed last in a transaction. -/
theorem trace_of_destructive_versioned :
    (∃ e, (serve unreachable (.transaction ["SELECT 1 LIMIT 1", "(/*!50000 drop*/ TABLE t"])
        ⟨.new "" .initial, ⟨(), [], []⟩⟩).1 = .error e ∧ e.isDenial = true) ∧
      (serve unreachable (.transaction ["SELECT 1 LIMIT 1", "(/*!50000 drop*/ TABLE t"])
        ⟨.new "" .initial, ⟨(), [], []⟩⟩).2.calls = [] := by
  have hdrop : Request.IsDestructive
      (.transaction ["SELECT 1 LIMIT 1", "(/*!50000 drop*/ TABLE t"]) := by
    refine ⟨"(/*!50000 drop*/ TABLE t", by simp [Request.texts], "DROP", by decide,
      "drop".toList, "  TABLE t".toList, by cbv, by simp, by simp [endsWord]⟩
  have hstep : (⟨_, ⟨.new "" .initial, ⟨(), [], []⟩⟩, _, _⟩ : Step Unit) ∈
      trace unreachable [.transaction ["SELECT 1 LIMIT 1", "(/*!50000 drop*/ TABLE t"]]
        ⟨.new "" .initial, ⟨(), [], []⟩⟩ := List.mem_cons_self
  obtain ⟨hdenial, -, -, hcalls⟩ := trace_of_destructive unreachable hstep hdrop
  exact ⟨hdenial, hcalls⟩

end Run

end SqlGateway
