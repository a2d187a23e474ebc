import SqlGateway.Proofs.Session.Sending
import SqlGateway.Server.Scripted

/-!
# The Trace of a Transaction

Once its statements are admitted and a connection is taken, a transaction goes one of three ways,
whatever the server answers: it cannot be begun; it is begun and a statement fails, after which
it is rolled back; or all its statements succeed and it is committed, which may fail too. The
calls of each way are written down here with their answers, since the result of the transaction
is put together from these answers: the records of a statement come from the call that ran it
(`Call.Runs`), and so does the error.

## Main results

* `runStep_runs`: a statement of a transaction is one call, and its result is that of this call.
* `runSteps_trace`: the statements of a list, up to the first that fails.
* `transaction_trace`: the three ways of a transaction, one of which it goes.
-/

namespace SqlGateway

/-- A call that runs a statement without values, and what it makes the result of the statement:
the rows, if it returns any, or else the record of the change. -/
inductive Call.Runs (h : Handle) (sql : String) (stmt : Statement) :
    Except GatewayError (List Record) → Call → Prop
  | fetched (answer : Except GatewayError QueryResult) (hrows : stmt.returnsRows = true) :
      Runs h sql stmt (answer.map fun result => (result.shape stmt).records)
        (.fetch h sql [] answer)
  | executed (answer : Except GatewayError Nat) (hrows : stmt.returnsRows = false) :
      Runs h sql stmt (answer.map fun affected => [changeRecord stmt affected])
        (.execute h sql [] answer)

/-- The call that runs a statement sends its text. -/
theorem Call.Runs.text?_eq {h : Handle} {sql : String} {stmt : Statement}
    {result : Except GatewayError (List Record)} {c : Call} (hc : c.Runs h sql stmt result) :
    c.text? = some sql := by
  cases hc <;> rfl

/-- The calls by which all statements of a list succeed, one for each in order, and the records
of each. -/
inductive RunsEach (h : Handle) : List String → List (List Record) → List Call → Prop
  | nil : RunsEach h [] [] []
  | cons {sql : String} {sqls : List String} {records : List Record}
      {results : List (List Record)} {c : Call} {calls : List Call}
      (hc : c.Runs h sql (Statement.parse sql) (.ok records))
      (hrest : RunsEach h sqls results calls) :
      RunsEach h (sql :: sqls) (records :: results) (c :: calls)

/-- The calls by which the statements of a list run, and their results: all succeed, or one does
not, and then a rollback follows and the answer to it counts for nothing. -/
inductive RunsUntil (h : Handle) (sqls : List String) :
    Except GatewayError (List (List Record)) → List Call → Prop
  | all {results : List (List Record)} {calls : List Call} (heach : RunsEach h sqls results calls) :
      RunsUntil h sqls (.ok results) calls
  | failed {before after : List String} {sql : String} {results : List (List Record)}
      {calls : List Call} {c : Call} {e : GatewayError} (answer : Except GatewayError Unit)
      (hsqls : sqls = before ++ sql :: after) (hbefore : RunsEach h before results calls)
      (hc : c.Runs h sql (Statement.parse sql) (.error e)) :
      RunsUntil h sqls (.error (e.withStatement (Statement.parse sql)))
        (calls ++ [c, .control h .rollback answer])

section

variable {h : Handle} {sqls : List String} {results : List (List Record)} {calls : List Call}

/-- Statements that succeed are sent as they are listed. -/
theorem RunsEach.texts_eq (heach : RunsEach h sqls results calls) :
    calls.filterMap Call.text? = sqls := by
  induction heach with
  | nil => rfl
  | cons hc _ ih => rw [List.filterMap_cons, hc.text?_eq, ih]

/-- There are as many lists of records as statements. -/
theorem RunsEach.length_eq (heach : RunsEach h sqls results calls) :
    results.length = sqls.length := by
  induction heach with
  | nil => rfl
  | cons _ _ ih => rw [List.length_cons, List.length_cons, ih]

/-- A statement that succeeds goes in front of a list. -/
theorem RunsUntil.cons {sql : String} {records : List Record} {c : Call}
    {result : Except GatewayError (List (List Record))}
    (hc : c.Runs h sql (Statement.parse sql) (.ok records)) (hrest : RunsUntil h sqls result calls) :
    RunsUntil h (sql :: sqls) (result.map (records :: ·)) (c :: calls) := by
  cases hrest with
  | all heach => exact .all (.cons hc heach)
  | failed answer hsqls hbefore hfailed =>
      subst hsqls
      exact .failed answer rfl (.cons hc hbefore) hfailed

end

/-! ### The ways of a transaction -/

/-- The calls of a transaction that could not be begun, and its result. -/
def IsNotBegun (h : Handle) (calls : List Call)
    (result : Except GatewayError (List (List Record))) : Prop :=
  ∃ e, calls = [.control h .start (.error e)] ∧ result = .error e ∧
    calls.filterMap Call.text? = ["START TRANSACTION"]

/-- The calls of a transaction of which a statement failed, and its result. -/
def IsRolledBack (h : Handle) (sqls : List String) (calls : List Call)
    (result : Except GatewayError (List (List Record))) : Prop :=
  ∃ (before after : List String) (sql : String) (results : List (List Record)) (ran : List Call)
      (c : Call) (e : GatewayError) (answer : Except GatewayError Unit),
    sqls = before ++ sql :: after ∧ RunsEach h before results ran ∧
    c.Runs h sql (Statement.parse sql) (.error e) ∧
    calls = .control h .start (.ok ()) :: (ran ++ [c, .control h .rollback answer]) ∧
    result = .error (e.withStatement (Statement.parse sql)) ∧
    calls.filterMap Call.text? = "START TRANSACTION" :: (before ++ [sql, "ROLLBACK"])

/-- The calls of a transaction whose statements succeeded, the answer to its commit, and its
result. -/
def IsCommitted (h : Handle) (sqls : List String) (calls : List Call)
    (answer : Except GatewayError Unit) (result : Except GatewayError (List (List Record))) :
    Prop :=
  ∃ (results : List (List Record)) (ran : List Call),
    RunsEach h sqls results ran ∧ results.length = sqls.length ∧
    calls = .control h .start (.ok ()) :: (ran ++ [.control h .commit answer]) ∧
    result = (answer.map fun _ => results) ∧
    calls.filterMap Call.text? = "START TRANSACTION" :: (sqls ++ ["COMMIT"])

section

variable {h : Handle} {sqls : List String} {calls : List Call} {answer : Except GatewayError Unit}
  {result : Except GatewayError (List (List Record))}

/-- What was not begun was not rolled back. -/
theorem IsNotBegun.not_rolledBack (hn : IsNotBegun h calls result) :
    ¬IsRolledBack h sqls calls result := by
  rintro ⟨before, after, sql, results, ran, c, e, answer, -, -, -, -, -, htexts⟩
  obtain ⟨e', -, -, htexts'⟩ := hn
  rw [htexts'] at htexts
  simp at htexts

/-- What was not begun was not committed. -/
theorem IsNotBegun.not_committed (hn : IsNotBegun h calls result) :
    ¬IsCommitted h sqls calls answer result := by
  rintro ⟨results, ran, -, -, -, -, htexts⟩
  obtain ⟨e, -, -, htexts'⟩ := hn
  rw [htexts'] at htexts
  simp at htexts

/-- What was rolled back was not committed; the last text tells them apart. -/
theorem IsRolledBack.not_committed (hr : IsRolledBack h sqls calls result) :
    ¬IsCommitted h sqls calls answer result := by
  rintro ⟨results, ran, -, -, -, -, htexts⟩
  obtain ⟨before, after, sql, results', ran', c, e, answer', -, -, -, -, -, htexts'⟩ := hr
  have heq : ("START TRANSACTION" :: sqls) ++ ["COMMIT"] =
      ("START TRANSACTION" :: (before ++ [sql])) ++ ["ROLLBACK"] := by
    simpa using htexts.symm.trans htexts'
  have hlast := (List.append_inj' heq rfl).2
  simp at hlast

end

namespace Run

variable {σ : Type} (s : Server σ)

/-- **One statement** of a transaction is one call, and its result is that of this call. -/
theorem runStep_runs (h : Handle) (stmt : Statement) (sql : String) (r : Run σ) :
    ∃ c, (r.runStep s h stmt sql).2.calls = r.calls ++ [c] ∧
      c.Runs h sql stmt (r.runStep s h stmt sql).1 := by
  rw [runStep]
  by_cases hrows : stmt.returnsRows = true
  · rw [if_pos hrows, fetchRecords, callFetch]
    rcases s.fetch h.number sql [] r.server with ⟨e | result, server⟩
    · exact ⟨_, calls_reportOutcome sql _ _, .fetched (.error e) hrows⟩
    · exact ⟨_, calls_reportOutcome sql _ _, .fetched (.ok result) hrows⟩
  · rw [if_neg hrows, callExecute]
    have hrows : stmt.returnsRows = false := by simpa using hrows
    rcases s.execute h.number sql [] r.server with ⟨e | affected, server⟩
    · exact ⟨_, calls_reportOutcome sql _ _, .executed (.error e) hrows⟩
    · exact ⟨_, calls_reportOutcome sql _ _, .executed (.ok affected) hrows⟩

/-- A rollback is one call. -/
theorem calls_rollBack (h : Handle) (e : GatewayError) (r : Run σ) :
    ∃ answer, (r.rollBack s h e).calls = r.calls ++ [.control h .rollback answer] := by
  rw [rollBack, callControl]
  rcases s.control h.number .rollback r.server with ⟨_ | _, server⟩ <;> exact ⟨_, rfl⟩

/-- **The statements of a list** are run in order, up to the first that fails. -/
theorem runSteps_trace (h : Handle) (sqls : List String) (r : Run σ) :
    ∃ calls,
      (r.runSteps s h (sqls.map fun sql => (sql, Statement.parse sql))).2.calls =
        r.calls ++ calls ∧
      RunsUntil h sqls (r.runSteps s h (sqls.map fun sql => (sql, Statement.parse sql))).1
        calls := by
  induction sqls generalizing r with
  | nil => exact ⟨[], (List.append_nil _).symm, .all .nil⟩
  | cons sql rest ih =>
      obtain ⟨c, hcalls, hc⟩ := runStep_runs s h (Statement.parse sql) sql r
      rw [List.map_cons, runSteps]
      generalize r.runStep s h (Statement.parse sql) sql = stepped at hcalls hc ⊢
      obtain ⟨e | records, r₁⟩ := stepped
      · obtain ⟨answer, hrolled⟩ := calls_rollBack s h e r₁
        refine ⟨[c, .control h .rollback answer], ?_, .failed answer rfl .nil hc⟩
        rw [hrolled, hcalls, List.append_assoc]
        rfl
      · obtain ⟨calls, hafter, hrest⟩ := ih r₁
        dsimp only
        generalize runSteps s h _ r₁ = ran at hafter hrest ⊢
        refine ⟨c :: calls, ?_, ?_⟩
        · have hkept : (andThen ran fun more r => (.ok (records :: more), r)).2.calls =
              ran.2.calls := by
            obtain ⟨_ | _, _⟩ := ran <;> rfl
          rw [hkept, hafter, hcalls, List.append_assoc]
          rfl
        · have hresult : (andThen ran fun more r => (.ok (records :: more), r)).1 =
              ran.1.map (records :: ·) := by
            obtain ⟨_ | _, _⟩ := ran <;> rfl
          rw [hresult]
          exact hrest.cons hc

/-- What is done on the connection of a transaction once it is taken. -/
def conduct (h : Handle) (sqls : List String) (admitted : List (String × Statement)) (r : Run σ) :
    Outcome σ (List (List Record)) :=
  andThen (r.callControl s h .start) fun _ r =>
    andThen (r.runSteps s h admitted) fun results r =>
      andThen (r.callControl s h .commit) fun _ r =>
        (.ok results, r.reportQuery .info "Transaction committed"
          [.shown "statements" (Decimal.digitsText sqls.length)])

theorem transaction_eq {sqls : List String} (hne : sqls ≠ []) (r : Run σ) :
    r.transaction s sqls =
      andThen (r.permitAll sqls) fun admitted r =>
        andThen (r.connect s) fun h r => r.conduct s h sqls admitted := by
  rw [transaction, if_neg (by simpa using hne)]
  rfl

/-- **A transaction goes one of the three ways** once a connection is taken. -/
theorem conduct_trace (h : Handle) (sqls : List String) (r : Run σ) :
    ∃ calls,
      (r.conduct s h sqls (sqls.map fun sql => (sql, Statement.parse sql))).2.calls =
        r.calls ++ calls ∧
      (IsNotBegun h calls
          (r.conduct s h sqls (sqls.map fun sql => (sql, Statement.parse sql))).1 ∨
        IsRolledBack h sqls calls
          (r.conduct s h sqls (sqls.map fun sql => (sql, Statement.parse sql))).1 ∨
        ∃ answer, IsCommitted h sqls calls answer
          (r.conduct s h sqls (sqls.map fun sql => (sql, Statement.parse sql))).1) := by
  rw [conduct, callControl]
  rcases s.control h.number .start r.server with ⟨e | _, server⟩
  · exact ⟨_, rfl, .inl ⟨e, rfl, rfl, rfl⟩⟩
  · obtain ⟨calls, hcalls, hruns⟩ := runSteps_trace s h sqls
      { r with server, calls := r.calls ++ [.control h .start (.ok ())] }
    rw [andThen]
    generalize runSteps s h _ _ = ran at hcalls hruns ⊢
    obtain ⟨result, r₂⟩ := ran
    dsimp only at hcalls hruns ⊢
    cases hruns with
    | @all results _ heach =>
        rw [andThen, callControl]
        have hshape : ∀ answer, IsCommitted h sqls
            (.control h .start (.ok ()) :: (calls ++ [.control h .commit answer])) answer
            (answer.map fun _ => results) := fun answer =>
          ⟨results, calls, heach, heach.length_eq, rfl, rfl, by
            simp [Call.text?, Control.text, heach.texts_eq]⟩
        have happend : ∀ answer, r₂.calls ++ [.control h .commit answer] = r.calls ++
            (.control h .start (.ok ()) :: (calls ++ [.control h .commit answer])) := by
          intro answer
          rw [hcalls]
          simp
        rcases s.control h.number .commit r₂.server with ⟨e | _, server⟩
        · exact ⟨_, happend (.error e), .inr (.inr ⟨.error e, hshape (.error e)⟩)⟩
        · exact ⟨_, happend (.ok ()), .inr (.inr ⟨.ok (), hshape (.ok ())⟩)⟩
    | @failed before after sql results ran c e answer hsqls hbefore hc =>
        refine ⟨.control h .start (.ok ()) :: (ran ++ [c, .control h .rollback answer]), ?_,
          .inr (.inl ⟨before, after, sql, results, ran, c, e, answer, hsqls, hbefore, hc, rfl,
            rfl, ?_⟩)⟩
        · rw [andThen, hcalls]
          simp
        · have hstart : (Call.control h .start (.ok ())).text? = some "START TRANSACTION" := rfl
          have hrollback : (Call.control h .rollback answer).text? = some "ROLLBACK" := rfl
          simp [hstart, hrollback, hbefore.texts_eq, hc.text?_eq]

/-- **The trace of a transaction.** Let the statements of a list all pass, and let a connection be
taken for them, which sends nothing. Then the transaction makes exactly one of three traces on
this connection, whatever the server does:

* it could not be begun, and the error is its result;
* a statement failed: it and those before it were sent in order, then a `ROLLBACK`, and its error
  is the result, whatever the answer to the `ROLLBACK` was;
* all statements succeeded and were sent in order, and then a `COMMIT`.

The list succeeds exactly if the last of these was made and the commit succeeded; its result is
then one list of records for each statement, in order. -/
theorem transaction_trace {sqls : List String} {r r₁ : Run σ} {h : Handle} (hne : sqls ≠ [])
    (hpasses : ∀ sql ∈ sqls, Passes r.live.policy sql)
    (hconnect : (r.permitAll sqls).2.connect s = (.ok h, r₁)) :
    ∃ calls, (r.transaction s sqls).2.calls = r₁.calls ++ calls ∧
      (r.transaction s sqls).2.sent = r.sent ++ calls.filterMap Call.text? ∧
      let result := (r.transaction s sqls).1
      (IsNotBegun h calls result ∧ ¬IsRolledBack h sqls calls result ∧
          (∀ answer, ¬IsCommitted h sqls calls answer result) ∨
        ¬IsNotBegun h calls result ∧ IsRolledBack h sqls calls result ∧
          (∀ answer, ¬IsCommitted h sqls calls answer result) ∨
        ¬IsNotBegun h calls result ∧ ¬IsRolledBack h sqls calls result ∧
          ∃ answer, IsCommitted h sqls calls answer result) ∧
      (result.isOk = true ↔ IsCommitted h sqls calls (.ok ()) result) := by
  obtain ⟨hadmitted, huntouched⟩ := permitAll_of_passes hpasses
  have hsilent := silent_connect s (r.permitAll sqls).2
  rw [hconnect] at hsilent
  have hsent : r₁.sent = r.sent := by
    rw [hsilent.sent_eq, sent, sent, huntouched.calls_eq]
  obtain ⟨calls, hcalls, hways⟩ := conduct_trace s h sqls r₁
  have hconduct : r.transaction s sqls =
      r₁.conduct s h sqls (sqls.map fun sql => (sql, Statement.parse sql)) := by
    rw [transaction_eq s hne, ← Prod.eta (r.permitAll sqls), hadmitted, andThen, hconnect]
    rfl
  rw [← hconduct] at hcalls hways
  refine ⟨calls, hcalls, ?_, ?_⟩
  · rw [sent, hcalls, List.filterMap_append, ← hsent, sent]
  · dsimp only
    rcases hways with hn | hr | ⟨answer, hc⟩
    · refine ⟨.inl ⟨hn, hn.not_rolledBack, fun _ => hn.not_committed⟩, fun hok => ?_,
        fun hc => absurd hc hn.not_committed⟩
      obtain ⟨e, -, herror, -⟩ := hn
      rw [herror] at hok
      cases hok
    · refine ⟨.inr (.inl ⟨fun hn => hn.not_rolledBack hr, hr, fun _ => hr.not_committed⟩),
        fun hok => ?_, fun hc => absurd hc hr.not_committed⟩
      obtain ⟨before, after, sql, results, ran, c, e, answer, -, -, -, -, herror, -⟩ := hr
      rw [herror] at hok
      cases hok
    · refine ⟨.inr (.inr ⟨fun hn => hn.not_committed hc, fun hr => hr.not_committed hc, answer,
        hc⟩), fun hok => ?_, fun hc => ?_⟩
      · obtain ⟨results, ran, heach, hlength, rfl, hresult, htexts⟩ := hc
        rcases answer with e | _
        · rw [hresult] at hok
          cases hok
        · exact ⟨results, ran, heach, hlength, rfl, hresult, htexts⟩
      · obtain ⟨results, ran, -, -, -, hresult, -⟩ := hc
        rw [hresult]
        rfl

/-- The second of three statements lacks a privilege: the third is not sent, and the error names
the statement that needs the privilege. -/
theorem transaction_trace_of_permission :
    ∃ (p : Policy) (r r₁ : Run Script) (h : Handle) (sqls : List String) (calls : List Call),
      sqls = ["INSERT INTO t (a) VALUES (1)", "INSERT INTO u (a) VALUES (2)",
        "INSERT INTO v (a) VALUES (3)"] ∧
      (∀ sql ∈ sqls, Passes r.live.policy sql) ∧
      (r.permitAll sqls).2.connect Script.server = (.ok h, r₁) ∧
      r = ⟨.new "s" p, ⟨Script.initial.addError "INSERT INTO u" (.permission "" "" "denied"), [],
        []⟩⟩ ∧
      (r.transaction Script.server sqls).1 = .error (.permission "INSERT" "u" "denied") ∧
      (r.transaction Script.server sqls).2.calls = r₁.calls ++ calls ∧
      IsRolledBack h sqls calls (r.transaction Script.server sqls).1 := by
  let p : Policy := { Policy.initial with allowedRisks := .ofList [.low, .medium] }
  let r : Run Script :=
    ⟨.new "s" p, ⟨Script.initial.addError "INSERT INTO u" (.permission "" "" "denied"), [], []⟩⟩
  let sqls := ["INSERT INTO t (a) VALUES (1)", "INSERT INTO u (a) VALUES (2)",
    "INSERT INTO v (a) VALUES (3)"]
  let h : Handle := ⟨0, p.connectParams⟩
  obtain ⟨hall, hconnected, hresult, htexts⟩ :
      sqls.findSome? (refusal? r.live.policy) = none ∧
      ((r.permitAll sqls).2.connect Script.server).1 = .ok h ∧
      (r.transaction Script.server sqls).1 = .error (.permission "INSERT" "u" "denied") ∧
      (r.transaction Script.server sqls).2.sent = ["START TRANSACTION",
        "INSERT INTO t (a) VALUES (1)", "INSERT INTO u (a) VALUES (2)", "ROLLBACK"] := by
    decide +kernel
  have hpasses : ∀ sql ∈ sqls, Passes r.live.policy sql := fun sql hmem =>
    refusal?_eq_none_iff.mp (List.findSome?_eq_none_iff.mp hall sql hmem)
  generalize hconnect : (r.permitAll sqls).2.connect Script.server = connected at hconnected
  obtain ⟨_, r₁⟩ := connected
  obtain rfl := hconnected
  obtain ⟨calls, hcalls, hsent, hways, -⟩ :=
    transaction_trace Script.server (List.cons_ne_nil _ _) hpasses hconnect
  obtain hsent : [_, _, _, _] = calls.filterMap Call.text? := htexts.symm.trans hsent
  refine ⟨p, r, r₁, h, sqls, calls, rfl, hpasses, hconnect, rfl, hresult, hcalls, ?_⟩
  rcases hways with ⟨⟨e, rfl, -, -⟩, -⟩ | ⟨-, hrolled, -⟩ | ⟨-, -, answer, hcommitted⟩
  · cases hsent
  · exact hrolled
  · obtain ⟨results, ran, -, -, -, -, hcommit⟩ := hcommitted
    exact absurd (hsent.trans hcommit) (by decide)

end Run

end SqlGateway
