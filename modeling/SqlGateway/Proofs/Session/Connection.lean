import SqlGateway.Proofs.Session.Sending

/-!
# What Is Done on a Connection

Once a connection is taken, statements are run on it and nothing else: the session stays as it
was, and every call that is added is one on a connection of the same pool. `Uses h r r'` says so
of the runs before and after.

## Main results

* `uses_runStatement`: a single statement and its commit.
* `uses_runSteps`: the statements of a transaction, and the rollback if one of them fails.
* `connects_serve`: a request takes one connection at most and uses no other.
-/

namespace SqlGateway

/-- The pool of the connection that a call is made on. -/
def Call.connection? : Call → Option Handle
  | fetch pool _ _ _ => some pool
  | execute pool _ _ _ => some pool
  | control pool _ _ => some pool
  | _ => none

/-- A call that sends no text is on no connection. -/
theorem Call.connection?_of_isSilent {c : Call} (h : c.IsSilent) : c.connection? = none := by
  cases c with
  | fetch | execute | control => cases h
  | openPool | closePool | acquire => rfl

namespace Run

variable {σ : Type} {h : Handle} {r r' r'' : Run σ}

/-- From one run to another only connections of the pool `h` were used. -/
structure Uses (h : Handle) (r r' : Run σ) : Prop where
  session_eq : r'.toSession = r.toSession
  calls : Adds (·.connection? = some h) r r'

/-- Nothing was called. -/
theorem Uses.of_eq (hsession : r'.toSession = r.toSession) (hcalls : r'.calls = r.calls) :
    Uses h r r' :=
  ⟨hsession, .of_eq hcalls⟩

theorem Uses.trans (hr : Uses h r r') (hr' : Uses h r' r'') : Uses h r r'' :=
  ⟨hr'.session_eq.trans hr.session_eq, hr.calls.trans hr'.calls⟩

/-- What goes on after a success uses the connection that led there. -/
theorem Uses.andThen {α β : Type} {x : Outcome σ α} {f : α → Run σ → Outcome σ β}
    (hx : Uses h r x.2) (hf : ∀ a r', Uses h r' (f a r').2) : Uses h r (andThen x f).2 := by
  obtain ⟨e | a, r'⟩ := x
  · exact hx
  · exact hx.trans (hf a r')

variable (s : Server σ) (h)

theorem uses_callFetch (sql : String) (values : List Value) (r : Run σ) :
    Uses h r (r.callFetch s h sql values).2 :=
  ⟨rfl, .single rfl rfl⟩

theorem uses_callExecute (sql : String) (values : List Value) (r : Run σ) :
    Uses h r (r.callExecute s h sql values).2 :=
  ⟨rfl, .single rfl rfl⟩

theorem uses_callControl (c : Control) (r : Run σ) : Uses h r (r.callControl s h c).2 :=
  ⟨rfl, .single rfl rfl⟩

theorem uses_reportOutcome (sql : String) (error : Option GatewayError) (r : Run σ) :
    Uses h r (r.reportOutcome sql error) := by
  cases error <;> exact .of_eq rfl rfl

theorem uses_fetchRecords (stmt : Statement) (sql : String) (values : List Value) (r : Run σ) :
    Uses h r (r.fetchRecords s h stmt sql values).2 :=
  (uses_callFetch h s sql values r).andThen fun _ _ => .of_eq rfl rfl

/-- A single statement uses its connection, also to commit. -/
theorem uses_runStatement (stmt : Statement) (sql : String) (values : List Value) (r : Run σ) :
    Uses h r (r.runStatement s h stmt sql values).2 := by
  rw [runStatement]
  split
  · exact uses_fetchRecords h s stmt sql values r
  · refine (uses_callExecute h s sql values r).andThen fun _ r => ?_
    exact (uses_callControl h s .commit r).andThen fun _ _ => .of_eq rfl rfl

theorem uses_runStep (stmt : Statement) (sql : String) (r : Run σ) :
    Uses h r (r.runStep s h stmt sql).2 := by
  have hrun : Uses h r
      (if stmt.returnsRows then r.fetchRecords s h stmt sql []
        else Run.andThen (r.callExecute s h sql []) fun affected r =>
          (.ok [changeRecord stmt affected], r)).2 := by
    split
    · exact uses_fetchRecords h s stmt sql [] r
    · exact (uses_callExecute h s sql [] r).andThen fun _ _ => .of_eq rfl rfl
  exact hrun.trans (uses_reportOutcome h sql _ _)

theorem uses_rollBack (e : GatewayError) (r : Run σ) : Uses h r (r.rollBack s h e) := by
  refine (uses_callControl h s .rollback r).trans ?_
  rw [rollBack]
  dsimp only
  split <;> exact .of_eq rfl rfl

/-- The statements of a transaction use its connection, also to roll back. -/
theorem uses_runSteps (steps : List (String × Statement)) (r : Run σ) :
    Uses h r (r.runSteps s h steps).2 := by
  induction steps generalizing r with
  | nil => exact .of_eq rfl rfl
  | cons step rest ih =>
      obtain ⟨sql, stmt⟩ := step
      have hstep := uses_runStep h s stmt sql r
      rw [runSteps]
      split
      · rename_i heq
        rw [heq] at hstep
        exact hstep.trans ((ih _).andThen fun _ _ => .of_eq rfl rfl)
      · rename_i heq
        rw [heq] at hstep
        exact hstep.trans (uses_rollBack h s _ _)

/-! ### Requests -/

/-- What a request does with connections: it takes none, or tries in vain to take one, or takes
one and uses it until the end. -/
inductive Connects (r r' : Run σ) : Prop
  | untouched (h : Untouched r r')
  | failed (e : GatewayError) (admitted : Run σ) (hadmitted : Untouched r admitted)
      (hconnect : admitted.connect s = (.error e, r'))
  | taken (h : Handle) (admitted connected : Run σ) (hadmitted : Untouched r admitted)
      (hconnect : admitted.connect s = (.ok h, connected)) (huses : Uses h connected r')

variable {s}

/-- What is let pass, or not, may come first. -/
theorem Connects.admit {α β : Type} {r : Run σ} {x : Outcome σ α} {f : α → Run σ → Outcome σ β}
    (hx : Untouched r x.2)
    (hf : ∀ a admitted, Untouched r admitted → Connects s r (f a admitted).2) :
    Connects s r (andThen x f).2 := by
  obtain ⟨e | a, admitted⟩ := x
  · exact .untouched hx
  · exact hf a admitted hx

/-- A connection is taken for what follows, if one can be had. -/
theorem Connects.connect {α : Type} {r admitted : Run σ} {f : Handle → Run σ → Outcome σ α}
    (hadmitted : Untouched r admitted) (huses : ∀ h connected, Uses h connected (f h connected).2) :
    Connects s r (andThen (admitted.connect s) f).2 := by
  rcases hconnect : admitted.connect s with ⟨e | h, connected⟩
  · exact .failed e admitted hadmitted hconnect
  · exact .taken h admitted connected hadmitted hconnect (huses h connected)

variable (s)

theorem connects_query (sql : String) (params : Query.Params) (r : Run σ) :
    Connects s r (r.query s sql params).2 := by
  rcases hbind : Query.bind params sql with e | bound
  · rw [query, hbind]
    exact .untouched ⟨rfl, rfl, rfl⟩
  · rw [query_of_bind s hbind]
    refine Connects.admit (untouched_permit bound.sql r) fun stmt admitted hadmitted => ?_
    exact .connect hadmitted fun h connected =>
      (uses_runStatement h s stmt bound.sql bound.values connected).trans
        (uses_reportOutcome h bound.sql _ _)

theorem connects_transaction (sqls : List String) (r : Run σ) :
    Connects s r (r.transaction s sqls).2 := by
  rw [transaction]
  split
  · exact .untouched ⟨rfl, rfl, rfl⟩
  · refine Connects.admit (untouched_permitAll sqls r) fun steps admitted hadmitted => ?_
    refine .connect hadmitted fun h connected => ?_
    refine (uses_callControl h s .start connected).andThen fun _ r₁ => ?_
    refine (uses_runSteps h s steps r₁).andThen fun _ r₂ => ?_
    exact (uses_callControl h s .commit r₂).andThen fun _ _ => .of_eq rfl rfl

/-- **A request takes one connection at most**, and then uses this one until the end. -/
theorem connects_serve (request : Request) (r : Run σ) :
    Connects s r (r.serve s request).2 := by
  cases request with
  | query sql params =>
      have hquery := connects_query s sql params r
      rw [serve]
      generalize r.query s sql params = outcome at hquery ⊢
      obtain ⟨e | records, r'⟩ := outcome <;> exact hquery
  | transaction sqls => exact connects_transaction s sqls r

end Run

end SqlGateway
