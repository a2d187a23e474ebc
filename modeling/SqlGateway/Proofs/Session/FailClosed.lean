import SqlGateway.Proofs.Session.Sending

/-!
# The Gateway Fails Closed

In the course of a session requests come between changes to its settings and its pool: an
`Operation` is any of these, and `Run.history` records a whole course of them, each with the
run before and after it. The policy in force at an operation is the one of the run before it.

A request that does not pass is answered by its refusal and leaves the settings, the pool,
the server and the calls made to it as they were; the counts of pools opened and closed, of
connections and of texts are read off the calls, so they stay too. What is sent over the
whole course is the text of a request that passed when it was made, or one of the statements
by which the gateway itself begins and ends a transaction.

## Main results

* `silent_operate`: whatever is no request sends nothing.
* `calls_afterAll`: what is sent over a course of operations.
* `history_fails_closed`: all of it, for every course of operations from every state.
-/

namespace SqlGateway

/-- What happens to a session. -/
inductive Operation where
  | request (request : Request)
  /-- Settings are made. -/
  | update (entries : List (String × String))
  /-- The session is pointed at another server or database. -/
  | switch (target : Target)
  /-- The pool is closed and another opened, with as many attempts as are allowed. -/
  | reopen (retries : Nat)
  | reconnect
  | close

/-- One operation of a course: what was done, what was answered, and the run before and
after. -/
structure Happening (σ : Type) where
  operation : Operation
  before : Run σ
  answer : Except GatewayError (List (List Record))
  after : Run σ

namespace Run

variable {σ : Type} (s : Server σ)

/-- Does one operation. What has nothing to tell answers with no records. -/
def operate (operation : Operation) (r : Run σ) : Outcome σ (List (List Record)) :=
  let done (outcome : Outcome σ Unit) : Outcome σ (List (List Record)) :=
    andThen outcome fun _ r => (.ok [], r)
  match operation with
  | .request request => r.serve s request
  | .update entries => done (r.update entries)
  | .switch target => done (r.switch s target)
  | .reopen retries => done (r.openPool s retries .closed)
  | .reconnect => done (r.reconnect s)
  | .close => (.ok [], r.closePool s)

/-- Does operations one after another. -/
def history : List Operation → Run σ → List (Happening σ)
  | [], _ => []
  | operation :: rest, r =>
    ⟨operation, r, (r.operate s operation).1, (r.operate s operation).2⟩ ::
      history rest (r.operate s operation).2

/-- The run that operations lead to. -/
def afterAll (operations : List Operation) (r : Run σ) : Run σ :=
  operations.foldl (fun r operation => (r.operate s operation).2) r

/-- Whatever is no request sends nothing. -/
theorem silent_operate {operation : Operation} (h : ∀ request, operation ≠ .request request)
    (r : Run σ) : Adds Call.IsSilent r (r.operate s operation).2 := by
  cases operation with
  | request request => exact absurd rfl (h request)
  | update entries => exact (silent_update entries r).andThen fun _ _ => .of_eq rfl
  | switch target => exact (silent_switch s target r).andThen fun _ _ => .of_eq rfl
  | reopen retries =>
      exact (silent_openPool s retries .closed r).andThen fun _ _ => .of_eq rfl
  | reconnect => exact (silent_reconnect s r).andThen fun _ _ => .of_eq rfl
  | close => exact silent_closeTo s .closed r

/-- A text that a request in a course of operations sent, and that passed under the policy in
force when the request was made. -/
def PassedIn (course : List (Happening σ)) (text : String) : Prop :=
  ∃ h ∈ course, ∃ request, h.operation = .request request ∧ text ∈ request.texts ∧
    Passes h.before.live.policy text

theorem PassedIn.mono {course course' : List (Happening σ)} {text : String}
    (h : PassedIn course text) (hsub : course ⊆ course') : PassedIn course' text := by
  obtain ⟨happening, hmem, hpassed⟩ := h
  exact ⟨happening, hsub hmem, hpassed⟩

/-- One operation sends what passed. -/
theorem carries_operate (operation : Operation) (r : Run σ) :
    Adds (Call.Carries (PassedIn (r.history s [operation]))) r (r.operate s operation).2 := by
  by_cases h : ∃ request, operation = .request request
  · obtain ⟨request, rfl⟩ := h
    refine (serve_carries s request r).mono fun c hc => hc.mono ?_
    rintro text ⟨htext, hpasses⟩
    exact ⟨_, List.mem_singleton_self _, request, rfl, htext, hpasses⟩
  · exact (silent_operate s (fun request heq => h ⟨request, heq⟩) r).mono fun c hc =>
      hc.carries _

/-- **What is sent over a course of operations** is text that passed when its request was
made, or begins or ends a transaction. -/
theorem calls_afterAll (operations : List Operation) (r : Run σ) :
    Adds (Call.Carries (PassedIn (r.history s operations))) r (r.afterAll s operations) := by
  induction operations generalizing r with
  | nil => exact .of_eq rfl
  | cons operation rest ih =>
      have hfirst := carries_operate s operation r
      have hrest := ih (r.operate s operation).2
      refine Adds.trans (hfirst.mono fun c hc => hc.mono fun text hpassed => ?_)
        (hrest.mono fun c hc => hc.mono fun text hpassed => ?_)
      · exact hpassed.mono (List.cons_subset_cons _ (List.nil_subset _))
      · exact hpassed.mono (List.subset_cons_self _ _)

/-- What is recorded of an operation is what it did. -/
theorem operate_of_mem_history {operations : List Operation} {r : Run σ} {h : Happening σ}
    (hmem : h ∈ r.history s operations) :
    h.before.operate s h.operation = (h.answer, h.after) := by
  induction operations generalizing r with
  | nil => cases hmem
  | cons operation rest ih =>
      rcases List.mem_cons.mp hmem with rfl | hmem
      · rfl
      · exact ih hmem

/-- **The gateway fails closed**, over every course of operations from every state, with every
server.

* A request that does not pass under the policy in force is answered by its refusal (for a
  transaction that of its first text that does not pass), and leaves the session, the server
  and the calls made to it as they were.
* Every text that was sent passed when its request was made, the gateway's own control
  statements apart.
* A single statement that succeeds was sent once, as it was bound, followed by one commit if it
  returns no rows and by nothing if it does. -/
theorem history_fails_closed (operations : List Operation) (r : Run σ) :
    (∀ h ∈ r.history s operations, ∀ request, h.operation = .request request →
      ¬request.Passes h.before.live.policy →
        (∃ e, request.refusal? h.before.live.policy = some e ∧ h.answer = .error e) ∧
        h.after.toSession = h.before.toSession ∧ h.after.server = h.before.server ∧
        h.after.calls = h.before.calls) ∧
    (∃ added, (r.afterAll s operations).calls = r.calls ++ added ∧
      ∀ c ∈ added, ∀ text, c.text? = some text → c.IsControl ∨
        ∃ h ∈ r.history s operations, ∃ request, h.operation = .request request ∧
          text ∈ request.texts ∧ Passes h.before.live.policy text) ∧
    (∀ h ∈ r.history s operations, ∀ sql params answer,
      h.operation = .request (.query sql params) → h.answer = .ok answer →
        ∃ bound, Query.bind params sql = .ok bound ∧ Passes h.before.live.policy bound.sql ∧
          h.after.sent = h.before.sent ++
            bound.sql :: (if (Statement.parse bound.sql).returnsRows then []
              else ["COMMIT"])) := by
  refine ⟨fun h hmem request hrequest hfails => ?_, calls_afterAll s operations r,
    fun h hmem sql params answer hrequest hok => ?_⟩
  · have hdone := operate_of_mem_history s hmem
    rw [hrequest, operate] at hdone
    obtain ⟨e, he⟩ := Option.ne_none_iff_exists'.mp
      (mt Request.refusal?_eq_none_iff.mp hfails)
    obtain ⟨hanswer, huntouched⟩ := serve_of_refused s he
    rw [hdone] at hanswer huntouched
    exact ⟨⟨e, he, hanswer⟩, huntouched.session_eq, huntouched.server_eq,
      huntouched.calls_eq⟩
  · have hdone := operate_of_mem_history s hmem
    rw [hrequest, operate] at hdone
    have hsent := sent_serve_query s ((congrArg Prod.fst hdone).trans hok)
    rw [hdone] at hsent
    exact hsent

end Run

end SqlGateway
