import SqlGateway.Proofs.Session.Renewal
import SqlGateway.Proofs.Session.TransactionTrace

/-!
# What a Transaction Sends

A list of statements runs in one transaction: it is begun, the statements are sent in order up to
the first that fails, and then the transaction is rolled back, or committed if none failed
(`IsTransaction`). That the whole list takes effect or nothing does needs one thing more: none of
its statements may begin or end a transaction itself. The gate does not see to that. The verbs
that control transactions are harmless to it, and what was sent before a `COMMIT` of the list
stays when a later statement fails.

## Main results

* `IsTransaction.isBroken_iff`: the statements alone break a transaction up.
* `transaction_spec`: what a transaction sends.
* `transaction_broken_iff`: when a list breaks up the transaction that it runs in.
-/

namespace SqlGateway

/-! ### Statements -/

/-- The verbs that begin and end transactions. -/
def controlVerbs : List String := ["BEGIN", "START", "COMMIT", "ROLLBACK"]

/-- A text that begins or ends a transaction. -/
def ControlsTransaction (text : String) : Prop :=
  (Statement.parse text).operation ∈ controlVerbs

instance (text : String) : Decidable (ControlsTransaction text) :=
  inferInstanceAs (Decidable (_ ∈ _))

/-- Texts that are broken up: one that begins or ends a transaction stands between the first and
the last. -/
def IsBroken (texts : List String) : Prop :=
  ∃ (first : String) (inner : List String) (last : String),
    texts = first :: (inner ++ [last]) ∧ ∃ text ∈ inner, ControlsTransaction text

/-- The statement that a call runs: the pool of its connection, its text, and whether it
succeeded. -/
def Call.statement? : Call → Option (Handle × String × Bool)
  | fetch pool sql _ answer => some (pool, sql, answer.isOk)
  | execute pool sql _ answer => some (pool, sql, answer.isOk)
  | _ => none

/-- What a call runs is what it sends. -/
theorem Call.text?_of_statement? {c : Call} {h : Handle} {sql : String} {succeeded : Bool}
    (hc : c.statement? = some (h, sql, succeeded)) : c.text? = some sql := by
  cases c with
  | fetch | execute =>
      cases hc
      rfl
  | openPool | closePool | acquire | control => cases hc

/-- The calls of the statements of a list, and whether all succeeded: one call for each in order,
up to the first that fails, which is followed by a rollback. -/
inductive RunsAll (h : Handle) : List String → Bool → List Call → Prop
  | nil : RunsAll h [] true []
  | failed {c : Call} {sql : String} (rest : List String) (answer : Except GatewayError Unit)
      (hc : c.statement? = some (h, sql, false)) :
      RunsAll h (sql :: rest) false [c, .control h .rollback answer]
  | cons {c : Call} {sql : String} {rest : List String} {succeeded : Bool} {calls : List Call}
      (hc : c.statement? = some (h, sql, true)) (hrest : RunsAll h rest succeeded calls) :
      RunsAll h (sql :: rest) succeeded (c :: calls)

/-- The call that runs a statement has succeeded if the statement has. -/
theorem Call.Runs.statement?_eq {h : Handle} {sql : String} {stmt : Statement}
    {result : Except GatewayError (List Record)} {c : Call} (hc : c.Runs h sql stmt result) :
    c.statement? = some (h, sql, result.isOk) := by
  cases hc with
  | fetched answer | executed answer => cases answer <;> rfl

theorem RunsEach.runsAll {h : Handle} {sqls : List String} {results : List (List Record)}
    {calls : List Call} (heach : RunsEach h sqls results calls) : RunsAll h sqls true calls := by
  induction heach with
  | nil => exact .nil
  | cons hc _ ih => exact .cons hc.statement?_eq ih

theorem RunsEach.runsAll_of_failed {h : Handle} {before : List String} {sql : String}
    {results : List (List Record)} {calls : List Call} {c : Call} {e : GatewayError}
    (hbefore : RunsEach h before results calls) (after : List String)
    (hc : c.Runs h sql (Statement.parse sql) (.error e)) (answer : Except GatewayError Unit) :
    RunsAll h (before ++ sql :: after) false (calls ++ [c, .control h .rollback answer]) := by
  induction hbefore with
  | nil => exact .failed after answer hc.statement?_eq
  | cons hfirst _ ih => exact .cons hfirst.statement?_eq ih

/-- The calls of a transaction in which a list of statements runs, and whether it succeeded. -/
inductive IsTransaction (h : Handle) (sqls : List String) : Bool → List Call → Prop
  /-- The transaction could not be begun. -/
  | refused (e : GatewayError) : IsTransaction h sqls false [.control h .start (.error e)]
  /-- All statements succeeded, and the transaction did if it could be committed. -/
  | committed {calls : List Call} (answer : Except GatewayError Unit)
      (hall : RunsAll h sqls true calls) :
      IsTransaction h sqls answer.isOk
        (.control h .start (.ok ()) :: (calls ++ [.control h .commit answer]))
  /-- A statement failed. -/
  | rolledBack {calls : List Call} (hfailed : RunsAll h sqls false calls) :
      IsTransaction h sqls false (.control h .start (.ok ()) :: calls)

section

variable {h : Handle} {sqls : List String} {succeeded : Bool} {calls : List Call}

/-- All calls but the rollback run statements of the list. -/
theorem RunsAll.exists_statements (hruns : RunsAll h sqls succeeded calls) :
    ∃ statements ended : List Call, calls = statements ++ ended ∧
      (∀ call ∈ statements, ∃ sql ∈ sqls, ∃ b, call.statement? = some (h, sql, b)) ∧
      (succeeded = true ∧ ended = [] ∨
        succeeded = false ∧ ∃ answer, ended = [.control h .rollback answer]) := by
  induction hruns with
  | nil => exact ⟨[], [], rfl, by simp, .inl ⟨rfl, rfl⟩⟩
  | @failed c sql rest answer hc =>
      refine ⟨[c], [.control h .rollback answer], rfl, ?_, .inr ⟨rfl, answer, rfl⟩⟩
      simp [hc]
  | @cons c sql rest succeeded calls hc _ ih =>
      obtain ⟨statements, ended, rfl, hall, hended⟩ := ih
      refine ⟨c :: statements, ended, rfl, fun call hcall => ?_, hended⟩
      rcases List.mem_cons.mp hcall with rfl | hcall
      · exact ⟨sql, List.mem_cons_self, true, hc⟩
      · obtain ⟨sql', hsql', hstatement⟩ := hall call hcall
        exact ⟨sql', List.mem_cons_of_mem sql hsql', hstatement⟩

/-- Statements that all succeed are sent as they are listed. -/
theorem RunsAll.texts_eq (hruns : RunsAll h sqls true calls) :
    calls.filterMap Call.text? = sqls := by
  generalize hsucceeded : true = succeeded at hruns
  induction hruns with
  | nil => rfl
  | failed => cases hsucceeded
  | cons hc _ ih => rw [List.filterMap_cons, Call.text?_of_statement? hc, ih hsucceeded]

/-- A transaction was begun in vain, or is begun, runs statements of its list, and is ended. -/
theorem IsTransaction.cases_begun (ht : IsTransaction h sqls succeeded calls) :
    (∃ e, calls = [.control h .start (.error e)]) ∨
    ∃ (statements : List Call) (c : Control) (answer : Except GatewayError Unit),
      calls = .control h .start (.ok ()) :: (statements ++ [.control h c answer]) ∧
      ∀ call ∈ statements, ∃ sql ∈ sqls, ∃ b, call.statement? = some (h, sql, b) := by
  cases ht with
  | refused e => exact .inl ⟨e, rfl⟩
  | committed answer hall =>
      obtain ⟨statements, ended, rfl, hstatements, ⟨-, rfl⟩ | ⟨hfalse, -⟩⟩ :=
        hall.exists_statements
      · exact .inr ⟨statements, .commit, answer, by rw [List.append_nil], hstatements⟩
      · cases hfalse
  | rolledBack hfailed =>
      obtain ⟨statements, ended, rfl, hstatements, ⟨htrue, -⟩ | ⟨-, answer, rfl⟩⟩ :=
        hfailed.exists_statements
      · cases htrue
      · exact .inr ⟨statements, .rollback, answer, rfl, hstatements⟩

end

/-- Texts are broken up if a text between the first and the last is one that does it. -/
theorem isBroken_iff {first last : String} {inner : List String} :
    IsBroken (first :: (inner ++ [last])) ↔ ∃ text ∈ inner, ControlsTransaction text := by
  constructor
  · rintro ⟨first', inner', last', heq, hcontrols⟩
    have hinner := (List.append_inj' (List.cons.inj heq).2 rfl).1
    rwa [hinner]
  · exact fun hcontrols => ⟨first, inner, last, rfl, hcontrols⟩

/-- A call that runs a statement stands between the calls that begin and end the transaction. -/
theorem mem_of_statement? {h : Handle} {c : Control} {started ended : Except GatewayError Unit}
    {statements : List Call} {call : Call} {statement : Handle × String × Bool}
    (hcall : call ∈ .control h .start started :: (statements ++ [.control h c ended]))
    (hstatement : call.statement? = some statement) : call ∈ statements := by
  simp only [List.mem_cons, List.mem_append, List.not_mem_nil, or_false] at hcall
  rcases hcall with rfl | hcall | rfl
  · cases hstatement
  · exact hcall
  · cases hstatement

namespace IsTransaction

variable {h : Handle} {sqls : List String} {succeeded : Bool} {calls : List Call}

/-- **A transaction is broken up by its statements alone**: if one that was sent begins or ends a
transaction. -/
theorem isBroken_iff (ht : IsTransaction h sqls succeeded calls) :
    IsBroken (calls.filterMap Call.text?) ↔
      ∃ call ∈ calls, ∃ sql ∈ sqls, ∃ b,
        call.statement? = some (h, sql, b) ∧ ControlsTransaction sql := by
  rcases ht.cases_begun with ⟨e, rfl⟩ | ⟨statements, c, answer, rfl, hstatements⟩
  · constructor
    · rintro ⟨first, inner, last, heq, -⟩
      simp [Call.text?] at heq
    · rintro ⟨call, hcall, sql, -, b, hstatement, -⟩
      obtain rfl := List.mem_singleton.mp hcall
      cases hstatement
  · have htexts : (Call.control h .start (.ok ()) ::
        (statements ++ [.control h c answer])).filterMap Call.text? =
        Control.start.text :: (statements.filterMap Call.text? ++ [c.text]) := by
      simp [Call.text?]
    rw [htexts, SqlGateway.isBroken_iff]
    constructor
    · rintro ⟨text, hmem, hcontrols⟩
      obtain ⟨call, hcall, htext⟩ := List.mem_filterMap.mp hmem
      obtain ⟨sql, hsql, b, hstatement⟩ := hstatements call hcall
      obtain rfl : sql = text :=
        Option.some.inj ((Call.text?_of_statement? hstatement).symm.trans htext)
      exact ⟨call, by simp [hcall], sql, hsql, b, hstatement, hcontrols⟩
    · rintro ⟨call, hcall, sql, -, b, hstatement, hcontrols⟩
      have hmem := mem_of_statement? hcall hstatement
      exact ⟨sql, List.mem_filterMap.mpr ⟨call, hmem, Call.text?_of_statement? hstatement⟩,
        hcontrols⟩

/-- A transaction that succeeded has sent all its statements. -/
theorem texts_of_succeeded (ht : IsTransaction h sqls true calls) :
    calls.filterMap Call.text? = Control.start.text :: (sqls ++ [Control.commit.text]) := by
  have hshape : ∀ {b : Bool}, IsTransaction h sqls b calls → b = true →
      ∃ (statements : List Call) (answer : Except GatewayError Unit),
        calls = .control h .start (.ok ()) :: (statements ++ [.control h .commit answer]) ∧
        RunsAll h sqls true statements := by
    intro b ht hb
    cases ht with
    | refused => cases hb
    | @committed statements answer hall => exact ⟨statements, answer, rfl, hall⟩
    | rolledBack => cases hb
  obtain ⟨statements, answer, rfl, hall⟩ := hshape ht rfl
  simp [Call.text?, hall.texts_eq]

end IsTransaction

namespace Run

variable {σ : Type} (s : Server σ)

/-- What is done on the connection of a transaction makes a transaction. -/
theorem conduct_spec (h : Handle) (sqls : List String) (r : Run σ) :
    ∃ calls,
      (r.conduct s h sqls (sqls.map fun sql => (sql, Statement.parse sql))).2.calls =
        r.calls ++ calls ∧
      IsTransaction h sqls
        (r.conduct s h sqls (sqls.map fun sql => (sql, Statement.parse sql))).1.isOk calls := by
  obtain ⟨calls, hcalls, hways⟩ := conduct_trace s h sqls r
  refine ⟨calls, hcalls, ?_⟩
  generalize (r.conduct s h sqls (sqls.map fun sql => (sql, Statement.parse sql))).1 = result
    at hways
  rcases hways with ⟨e, rfl, rfl, -⟩ |
    ⟨before, after, sql, results, ran, c, e, answer, rfl, hbefore, hc, rfl, rfl, -⟩ |
    ⟨answer, results, ran, heach, -, rfl, rfl, -⟩
  · exact .refused e
  · exact .rolledBack (hbefore.runsAll_of_failed after hc answer)
  · have hok : (answer.map fun _ => results).isOk = answer.isOk := by cases answer <;> rfl
    rw [hok]
    exact .committed answer heach.runsAll

/-- **What a transaction sends.** Nothing is sent unless all statements pass and a connection is
taken; then the calls on this connection are those of a transaction. -/
theorem transaction_spec (sqls : List String) (r : Run σ) :
    ∃ quiet calls, (r.transaction s sqls).2.calls = r.calls ++ (quiet ++ calls) ∧
      (∀ c ∈ quiet, c.IsSilent) ∧
      (calls = [] ∧ (r.transaction s sqls).1.isOk = false ∨
        (∀ sql ∈ sqls, Passes r.live.policy sql) ∧
          ∃ h, IsTransaction h sqls (r.transaction s sqls).1.isOk calls) := by
  by_cases hempty : sqls = []
  · rw [hempty]
    exact ⟨[], [], (List.append_nil _).symm, by simp, .inl ⟨rfl, rfl⟩⟩
  rw [transaction_eq s hempty]
  rcases hrefusal : sqls.findSome? (refusal? r.live.policy) with _ | e
  · have hpasses : ∀ sql ∈ sqls, Passes r.live.policy sql := fun sql hmem =>
      refusal?_eq_none_iff.mp (List.findSome?_eq_none_iff.mp hrefusal sql hmem)
    obtain ⟨hadmitted, huntouched⟩ := permitAll_of_passes hpasses
    rw [← Prod.eta (r.permitAll sqls), hadmitted, andThen]
    obtain ⟨quiet, hquiet, hsilent⟩ := silent_connect s (r.permitAll sqls).2
    rw [huntouched.calls_eq] at hquiet
    generalize connect s _ = connected at hquiet ⊢
    obtain ⟨e | h, r₁⟩ := connected
    · exact ⟨quiet, [], hquiet.trans (by rw [List.append_nil]), hsilent, .inl ⟨rfl, rfl⟩⟩
    · obtain ⟨calls, hcalls, htransaction⟩ := conduct_spec s h sqls r₁
      refine ⟨quiet, calls, ?_, hsilent, .inr ⟨hpasses, h, htransaction⟩⟩
      rw [andThen, hcalls, hquiet, List.append_assoc]
  · obtain ⟨hanswer, huntouched⟩ := (permitAll_of_refused hrefusal).andThen fun admitted r =>
      andThen (r.connect s) fun h r => r.conduct s h sqls admitted
    refine ⟨[], [], huntouched.calls_eq.trans (List.append_nil _).symm, by simp, .inl ⟨rfl, ?_⟩⟩
    rw [hanswer]
    rfl

/-- What is sent is sent by the calls of the transaction. -/
theorem sent_transaction {sqls : List String} {r : Run σ} {quiet calls : List Call}
    (hcalls : (r.transaction s sqls).2.calls = r.calls ++ (quiet ++ calls))
    (hquiet : ∀ c ∈ quiet, c.IsSilent) :
    (r.transaction s sqls).2.sent = r.sent ++ calls.filterMap Call.text? := by
  rw [sent, hcalls, List.filterMap_append, List.filterMap_append,
    List.filterMap_eq_nil_iff.mpr hquiet, List.nil_append, sent]

/-! ### Success -/

/-- A server that does all that it is asked to do. -/
def obliging : Server Unit where
  openPool _ _ := (.ok 0, ())
  closePool _ _ := ()
  acquire _ _ _ := (some (.ok ()), ())
  fetch _ _ _ _ := (.ok (.ofRows [] []), ())
  execute _ _ _ _ := (.ok 0, ())
  control _ _ _ := (.ok (), ())

/-- Such a server has a connection for every session that opens its pool on demand. -/
theorem connect_obliging {r : Run Unit} (hdemand : r.slot.state.opensOnDemand = true) :
    ∃ h r', r.connect obliging = (.ok h, r') := by
  rcases hopen : r.openPool obliging maxAuthRetries .closed with ⟨e | _, r₁⟩
  · have hok : (r.openPool obliging maxAuthRetries .closed).1 = .ok () := rfl
    rw [hopen] at hok
    cases hok
  · obtain ⟨h, -, hopened⟩ := agrees_of_openPool hopen
    have hlook := hopened.look
    have hfresh := isStale_of_openPool obliging hopen
    rw [connect, ensure, if_pos hdemand, hopen, andThen, refresh]
    generalize r₁.isStale = looked at hlook hfresh ⊢
    obtain ⟨stale, r₂⟩ := looked
    obtain rfl : stale = false := hfresh
    have hchecked : (r₂.checkOut obliging).1 = .ok h := by
      rw [checkOut, hlook.state_eq, hlook.handle_eq]
      rfl
    exact ⟨h, (r₂.checkOut obliging).2, Prod.ext hchecked rfl⟩

theorem runSteps_obliging (h : Handle) (steps : List (String × Statement)) (r : Run Unit) :
    (r.runSteps obliging h steps).1.isOk = true := by
  induction steps generalizing r with
  | nil => rfl
  | cons step rest ih =>
      obtain ⟨sql, stmt⟩ := step
      have hstep : ∃ records, (r.runStep obliging h stmt sql).1 = .ok records := by
        rw [runStep]
        by_cases hrows : stmt.returnsRows = true
        · rw [if_pos hrows]
          exact ⟨_, rfl⟩
        · rw [if_neg hrows]
          exact ⟨_, rfl⟩
      obtain ⟨records, hok⟩ := hstep
      rw [runSteps]
      generalize r.runStep obliging h stmt sql = stepped at hok ⊢
      obtain ⟨_, r₁⟩ := stepped
      obtain rfl := hok
      have hrest := ih r₁
      dsimp only
      generalize runSteps obliging h rest r₁ = ran at hrest ⊢
      obtain ⟨e | results, r₂⟩ := ran
      · cases hrest
      · rfl

theorem conduct_obliging (h : Handle) (sqls : List String) (admitted : List (String × Statement))
    (r : Run Unit) : (r.conduct obliging h sqls admitted).1.isOk = true := by
  let begun : Run Unit := (r.callControl obliging h .start).2
  have hstart : r.callControl obliging h .start = (.ok (), begun) := rfl
  have hsteps := runSteps_obliging h admitted begun
  rw [conduct, hstart, andThen]
  generalize runSteps obliging h admitted begun = ran at hsteps ⊢
  obtain ⟨e | results, r₂⟩ := ran
  · cases hsteps
  · rfl

/-- A list of statements that pass succeeds at such a server. -/
theorem transaction_obliging {sqls : List String} {r : Run Unit} (hne : sqls ≠ [])
    (hpasses : ∀ sql ∈ sqls, Passes r.live.policy sql)
    (hdemand : r.slot.state.opensOnDemand = true) :
    (r.transaction obliging sqls).1.isOk = true := by
  obtain ⟨hadmitted, huntouched⟩ := permitAll_of_passes hpasses
  have hslot : (r.permitAll sqls).2.slot = r.slot := congrArg Session.slot huntouched.session_eq
  obtain ⟨h, r₁, hconnect⟩ := connect_obliging (hslot.symm ▸ hdemand)
  rw [transaction_eq obliging hne, ← Prod.eta (r.permitAll sqls), hadmitted, andThen, hconnect]
  exact conduct_obliging h sqls _ r₁

/-! ### Broken transactions -/

variable (sqls : List String)

/-- **When a list of statements breaks up its transaction.**

* Whatever the server does and whatever the session is like, either nothing is sent and the list
  does not succeed, or all its statements passed and are sent on one connection: after a
  `START TRANSACTION`, in order, up to the first that fails, and before a single `COMMIT` or
  `ROLLBACK`. Then the transaction is broken up exactly if one of the statements that were sent
  begins or ends a transaction itself.
* Under a policy no server and no session sees a list break up its transaction exactly if a
  statement of the list does not pass, or none begins or ends a transaction. -/
theorem transaction_broken_iff :
    (∀ (σ : Type) (s : Server σ) (r : Run σ), ∃ quiet calls,
      (r.transaction s sqls).2.calls = r.calls ++ (quiet ++ calls) ∧ (∀ c ∈ quiet, c.IsSilent) ∧
      (calls = [] ∧ (r.transaction s sqls).1.isOk = false ∨
        (∀ sql ∈ sqls, Passes r.live.policy sql) ∧ ∃ h,
          IsTransaction h sqls (r.transaction s sqls).1.isOk calls ∧
          (IsBroken (calls.filterMap Call.text?) ↔ ∃ call ∈ calls, ∃ sql ∈ sqls, ∃ succeeded,
            call.statement? = some (h, sql, succeeded) ∧ ControlsTransaction sql))) ∧
    (∀ p : Policy,
      (∀ (σ : Type) (s : Server σ) (r : Run σ) (texts : List String), r.live.policy = p →
        (r.transaction s sqls).2.sent = r.sent ++ texts → ¬IsBroken texts) ↔
      ((∀ sql ∈ sqls, Passes p sql) → ∀ sql ∈ sqls, ¬ControlsTransaction sql)) := by
  refine ⟨fun σ s r => ?_, fun p => ⟨fun hwhole hpasses sql hmem hcontrols => ?_,
    fun hharmless σ s r texts hpolicy hsent hbroken => ?_⟩⟩
  · obtain ⟨quiet, calls, hcalls, hquiet, hnothing | ⟨hpasses, h, htransaction⟩⟩ :=
      transaction_spec s sqls r
    · exact ⟨quiet, calls, hcalls, hquiet, .inl hnothing⟩
    · exact ⟨quiet, calls, hcalls, hquiet,
        .inr ⟨hpasses, h, htransaction, htransaction.isBroken_iff⟩⟩
  · -- At a server that does all it is asked to do, all statements are sent.
    let r : Run Unit := begin "s" p ()
    have hok : (r.transaction obliging sqls).1.isOk = true :=
      transaction_obliging (List.ne_nil_of_mem hmem) hpasses rfl
    obtain ⟨quiet, calls, hcalls, hquiet, ⟨-, herror⟩ | ⟨-, h, htransaction⟩⟩ :=
      transaction_spec obliging sqls r
    · rw [hok] at herror
      cases herror
    · rw [hok] at htransaction
      have hsent := sent_transaction obliging hcalls hquiet
      rw [htransaction.texts_of_succeeded] at hsent
      exact hwhole Unit obliging r _ rfl hsent (isBroken_iff.mpr ⟨sql, hmem, hcontrols⟩)
  · obtain ⟨quiet, calls, hcalls, hquiet, hrest⟩ := transaction_spec s sqls r
    obtain rfl : calls.filterMap Call.text? = texts :=
      List.append_cancel_left ((sent_transaction s hcalls hquiet).symm.trans hsent)
    rcases hrest with ⟨rfl, -⟩ | ⟨hpasses, h, htransaction⟩
    · obtain ⟨first, inner, last, heq, -⟩ := hbroken
      cases heq
    · obtain ⟨call, -, sql, hmem, b, -, hcontrols⟩ := htransaction.isBroken_iff.mp hbroken
      exact hharmless (hpolicy ▸ hpasses) sql hmem hcontrols

/-- A `COMMIT` in the list: the statement before it is committed, and the rollback after the
statement that fails comes too late for it. -/
theorem transaction_broken_of_commit :
    ∃ (p : Policy) (r after : Run Script),
      Policy.ofEntries [("MYSQL_ALLOWED_RISK_LEVELS", "LOW,MEDIUM")] = .ok p ∧
      r = { fresh p with
        server := Script.initial.addError "INSERT INTO u" (.execution "duplicate") } ∧
      r.transaction Script.server ["INSERT INTO t (a) VALUES (1)", "COMMIT",
        "INSERT INTO u (a) VALUES (2)"] = (.error (.execution "duplicate"), after) ∧
      after.sent = ["START TRANSACTION", "INSERT INTO t (a) VALUES (1)", "COMMIT",
        "INSERT INTO u (a) VALUES (2)", "ROLLBACK"] ∧
      IsBroken after.sent := by
  let p : Policy := { Policy.initial with allowedRisks := .ofList [.low, .medium] }
  let r : Run Script := { fresh p with
    server := Script.initial.addError "INSERT INTO u" (.execution "duplicate") }
  let after : Run Script := (r.transaction Script.server ["INSERT INTO t (a) VALUES (1)", "COMMIT",
    "INSERT INTO u (a) VALUES (2)"]).2
  obtain ⟨hanswer, hsent⟩ : (r.transaction Script.server ["INSERT INTO t (a) VALUES (1)", "COMMIT",
        "INSERT INTO u (a) VALUES (2)"]).1 = .error (.execution "duplicate") ∧
      after.sent = ["START TRANSACTION", "INSERT INTO t (a) VALUES (1)", "COMMIT",
        "INSERT INTO u (a) VALUES (2)", "ROLLBACK"] := by
    decide +kernel
  have hcontrols : ControlsTransaction "COMMIT" := by decide +kernel
  refine ⟨p, r, after, by decide +kernel, rfl, Prod.ext hanswer rfl, hsent, ?_⟩
  rw [hsent]
  exact ⟨_, ["INSERT INTO t (a) VALUES (1)", "COMMIT", "INSERT INTO u (a) VALUES (2)"], _, rfl,
    "COMMIT", by simp, hcontrols⟩

end Run

end SqlGateway
