import SqlGateway.Proofs.Session.Admission
import SqlGateway.Session.Switch

/-!
# What Is Sent to the Server

The calls of a run only grow, so an operation is described by the calls that it adds:
`Adds P r r'` says that the run `r'` has the calls of `r` and then some that all satisfy `P`.
The pool is opened, closed and asked for connections without any text (`Call.IsSilent`); only
running statements sends some, and then either the text of a statement that was let pass or
one of the statements that begin and end a transaction.

## Main results

* `silent_openPool`, `silent_connect`, `silent_reconnect`, `silent_switch`, …: all that is
  done to a pool is silent.
* `serve_carries`: what a request sends is its own text, and has passed.
* `sent_serve_query`: a statement that succeeds was sent once, and then committed if it
  returns no rows.
-/

namespace SqlGateway

namespace Call

/-- A call that sends no text. -/
def IsSilent (c : Call) : Prop :=
  c.text? = none

/-- A call that begins or ends a transaction. -/
def IsControl (c : Call) : Prop :=
  ∃ pool statement answer, c = .control pool statement answer

/-- A call that sends nothing but a text with a property, unless it begins or ends a
transaction. -/
def Carries (texts : String → Prop) (c : Call) : Prop :=
  ∀ text, c.text? = some text → c.IsControl ∨ texts text

/-- A silent call sends nothing, whatever is allowed. -/
theorem IsSilent.carries {c : Call} (h : c.IsSilent) (texts : String → Prop) :
    c.Carries texts := by
  intro text htext
  rw [h] at htext
  cases htext

/-- More may be allowed. -/
theorem Carries.mono {texts texts' : String → Prop} {c : Call} (h : c.Carries texts)
    (himp : ∀ text, texts text → texts' text) : c.Carries texts' :=
  fun text htext => (h text htext).imp_right (himp text)

theorem carries_fetch (pool : Handle) (sql : String) (values : List Value)
    (answer : Except GatewayError QueryResult) :
    (fetch pool sql values answer).Carries (· = sql) := by
  rintro text ⟨⟩
  exact .inr rfl

theorem carries_execute (pool : Handle) (sql : String) (values : List Value)
    (answer : Except GatewayError Nat) : (execute pool sql values answer).Carries (· = sql) := by
  rintro text ⟨⟩
  exact .inr rfl

theorem carries_control (texts : String → Prop) (pool : Handle) (statement : Control)
    (answer : Except GatewayError Unit) : (control pool statement answer).Carries texts :=
  fun _ _ => .inl ⟨pool, statement, answer, rfl⟩

end Call

namespace Run

variable {σ : Type}

/-- A run has the calls of another and then some that all have a property. -/
def Adds (P : Call → Prop) (r r' : Run σ) : Prop :=
  ∃ added, r'.calls = r.calls ++ added ∧ ∀ c ∈ added, P c

namespace Adds

variable {P Q : Call → Prop} {r r' r'' : Run σ}

/-- Nothing was called. -/
theorem of_eq (h : r'.calls = r.calls) : Adds P r r' :=
  ⟨[], by simpa using h, by simp⟩

/-- One thing was called. -/
theorem single {c : Call} (h : r'.calls = r.calls ++ [c]) (hc : P c) : Adds P r r' :=
  ⟨[c], h, by simpa using hc⟩

theorem trans (h : Adds P r r') (h' : Adds P r' r'') : Adds P r r'' := by
  obtain ⟨added, heq, hall⟩ := h
  obtain ⟨more, heq', hall'⟩ := h'
  refine ⟨added ++ more, by rw [heq', heq, List.append_assoc], fun c hc => ?_⟩
  rcases List.mem_append.mp hc with hc | hc
  · exact hall c hc
  · exact hall' c hc

theorem mono (h : Adds P r r') (himp : ∀ c, P c → Q c) : Adds Q r r' := by
  obtain ⟨added, heq, hall⟩ := h
  exact ⟨added, heq, fun c hc => himp c (hall c hc)⟩

/-- What goes on after a success adds to what led there. -/
theorem andThen {α β : Type} {x : Outcome σ α} {f : α → Run σ → Outcome σ β}
    (h : Adds P r x.2) (hf : ∀ a r', Adds P r' (f a r').2) : Adds P r (andThen x f).2 := by
  obtain ⟨e | a, r'⟩ := x
  · exact h
  · exact h.trans (hf a r')

end Adds

/-- The texts that were sent, the latest last. -/
def sent (r : Run σ) : List String :=
  r.calls.filterMap Call.text?

/-- What is done silently sends nothing. -/
theorem Adds.sent_eq {r r' : Run σ} (h : Adds Call.IsSilent r r') : r'.sent = r.sent := by
  obtain ⟨added, heq, hall⟩ := h
  rw [sent, heq, List.filterMap_append, List.filterMap_eq_nil_iff.mpr hall, List.append_nil]
  rfl

variable (s : Server σ)

/-! ### Pools -/

theorem silent_callOpen (params : ConnectParams) (r : Run σ) :
    Adds Call.IsSilent r (r.callOpen s params).2 :=
  .single rfl rfl

theorem silent_callAcquire (h : Handle) (timeout : Duration) (r : Run σ) :
    Adds Call.IsSilent r (r.callAcquire s h timeout).2 :=
  .single rfl rfl

theorem silent_closeTo (next : PoolState) (r : Run σ) :
    Adds Call.IsSilent r (r.closeTo s next) := by
  rw [closeTo]
  split
  · exact .single rfl rfl
  · exact .of_eq rfl

theorem silent_tryPlugins (params : ConnectParams) (plugins : List (Option AuthPlugin))
    (last : String) (r : Run σ) :
    Adds Call.IsSilent r (r.tryPlugins s params plugins last).2 := by
  induction plugins generalizing last r with
  | nil => exact .of_eq rfl
  | cons plugin plugins ih =>
      have hopen := silent_callOpen s { params with authPlugin := plugin }
        (r.reportPool .info "Trying authentication plugin" [pluginField plugin])
      rw [tryPlugins]
      split
      · rename_i heq
        rw [heq] at hopen
        exact hopen
      · rename_i heq
        rw [heq] at hopen
        exact hopen.trans (ih _ _)

theorem silent_seekPool (retries : Nat) (params : ConnectParams) (r : Run σ) :
    Adds Call.IsSilent r (r.seekPool s retries params).2 := by
  have hopen := silent_callOpen s params r
  rw [seekPool]
  split
  · rename_i heq
    rwa [heq] at hopen
  · rename_i message r' heq
    rw [heq] at hopen
    split
    · exact hopen
    · have htry := silent_tryPlugins s params (AuthPlugin.fallbackOrder.take retries) message
        (r'.reportPool .warn message [])
      split
      · rename_i heq'
        rw [heq'] at htry
        exact hopen.trans htry
      · rename_i heq'
        rw [heq'] at htry
        exact hopen.trans htry
  · rename_i heq
    rwa [heq] at hopen

theorem calls_finishOpening (o : Opening) (answer : Except GatewayError Handle) (r : Run σ) :
    (r.finishOpening o answer).2.calls = r.calls := by
  cases answer <;> rfl

/-- Opening a pool is silent. -/
theorem silent_openPool (retries : Nat) (meanwhile : PoolState) (r : Run σ) :
    Adds Call.IsSilent r (r.openPool s retries meanwhile).2 := by
  have hstart : Adds Call.IsSilent r (r.startOpening s meanwhile).2 :=
    silent_closeTo s meanwhile r
  have hseek := silent_seekPool s retries (r.startOpening s meanwhile).1.params
    (r.startOpening s meanwhile).2
  exact hstart.trans (hseek.trans (.of_eq (calls_finishOpening _ _ _)))

theorem silent_ensure (r : Run σ) : Adds Call.IsSilent r (r.ensure s).2 := by
  rw [ensure]
  split
  · exact silent_openPool s maxAuthRetries .closed r
  · exact .of_eq rfl

theorem calls_isStale (r : Run σ) : r.isStale.2.calls = r.calls := by
  rw [isStale]
  split
  · rfl
  · split <;> rfl

theorem silent_refresh (r : Run σ) : Adds Call.IsSilent r (r.refresh s).2 := by
  have hstale := calls_isStale r
  rw [refresh]
  split
  · rename_i heq
    rw [heq] at hstale
    exact (Adds.of_eq hstale).trans (silent_openPool s maxAuthRetries .closed _)
  · rename_i heq
    rw [heq] at hstale
    exact .of_eq hstale

theorem silent_checkOut (r : Run σ) : Adds Call.IsSilent r (r.checkOut s).2 := by
  rw [checkOut]
  split
  · rename_i h _ _
    have hacquire := silent_callAcquire s h r.live.policy.acquireTimeout r
    dsimp only
    split
    · rename_i heq
      rwa [heq] at hacquire
    · rename_i heq
      rwa [heq] at hacquire
  · exact .of_eq rfl

/-- Taking a connection is silent. -/
theorem silent_connect (r : Run σ) : Adds Call.IsSilent r (r.connect s).2 :=
  (silent_ensure s r).andThen fun _ r =>
    (silent_refresh s r).andThen fun _ r => silent_checkOut s r

/-- Reconnecting is silent. -/
theorem silent_reconnect (r : Run σ) : Adds Call.IsSilent r (r.reconnect s).2 :=
  silent_openPool s maxAuthRetries .reconnecting
    (r.reportPool .info "Reconnecting connection pool" [.shown "from" r.slot.state.label])

/-- Changing settings is silent. -/
theorem silent_update (entries : List (String × String)) (r : Run σ) :
    Adds Call.IsSilent r (r.update entries).2 := by
  rw [update]
  split <;> exact .of_eq rfl

theorem silent_switchBack (t : Target) (previous : List (String × String)) (e : GatewayError)
    (r : Run σ) : Adds Call.IsSilent r (r.switchBack s t previous e).2 := by
  rw [switchBack]
  refine Adds.andThen (silent_update previous _) fun _ r => ?_
  have hopen := silent_openPool s maxAuthRetries .closed r
  dsimp only
  split
  · rename_i heq
    rwa [heq] at hopen
  · rename_i heq
    rw [heq] at hopen
    exact hopen

/-- Switching databases is silent. -/
theorem silent_switch (t : Target) (r : Run σ) : Adds Call.IsSilent r (r.switch s t).2 := by
  rw [switch]
  split
  · exact .of_eq rfl
  · refine (silent_update t.entries r).andThen fun _ r => ?_
    have hopen := silent_openPool s maxAuthRetries .closed r
    split
    · rename_i heq
      rw [heq] at hopen
      exact hopen
    · rename_i heq
      rw [heq] at hopen
      exact hopen.trans (silent_switchBack s t _ _ _)

/-! ### Statements -/

theorem calls_reportOutcome (sql : String) (error : Option GatewayError) (r : Run σ) :
    (r.reportOutcome sql error).calls = r.calls := by
  cases error <;> rfl

theorem carries_fetchRecords (h : Handle) (stmt : Statement) (sql : String)
    (values : List Value) (r : Run σ) :
    Adds (Call.Carries (· = sql)) r (r.fetchRecords s h stmt sql values).2 :=
  (Adds.single rfl (Call.carries_fetch h sql values _)).andThen fun _ _ => .of_eq rfl

theorem carries_runStatement (h : Handle) (stmt : Statement) (sql : String)
    (values : List Value) (r : Run σ) :
    Adds (Call.Carries (· = sql)) r (r.runStatement s h stmt sql values).2 := by
  rw [runStatement]
  split
  · exact carries_fetchRecords s h stmt sql values r
  · refine (Adds.single rfl (Call.carries_execute h sql values _)).andThen fun _ _ => ?_
    exact (Adds.single rfl (Call.carries_control _ h .commit _)).andThen fun _ _ => .of_eq rfl

theorem carries_runStep (h : Handle) (stmt : Statement) (sql : String) (r : Run σ) :
    Adds (Call.Carries (· = sql)) r (r.runStep s h stmt sql).2 := by
  have hrun : Adds (Call.Carries (· = sql)) r
      (if stmt.returnsRows then r.fetchRecords s h stmt sql []
        else Run.andThen (r.callExecute s h sql []) fun affected r =>
          (.ok [changeRecord stmt affected], r)).2 := by
    split
    · exact carries_fetchRecords s h stmt sql [] r
    · exact (Adds.single rfl (Call.carries_execute h sql [] _)).andThen fun _ _ => .of_eq rfl
  exact hrun.trans (.of_eq (calls_reportOutcome sql _ _))

theorem carries_rollBack (texts : String → Prop) (h : Handle) (e : GatewayError) (r : Run σ) :
    Adds (Call.Carries texts) r (r.rollBack s h e) := by
  have hcontrol : Adds (Call.Carries texts) r (r.callControl s h .rollback).2 :=
    .single rfl (Call.carries_control texts h .rollback _)
  refine hcontrol.trans (.of_eq ?_)
  rw [rollBack]
  dsimp only
  split <;> rfl

/-- The steps of a transaction send the texts of its statements. -/
theorem carries_runSteps (h : Handle) (steps : List (String × Statement)) (r : Run σ) :
    Adds (Call.Carries (· ∈ steps.map Prod.fst)) r (r.runSteps s h steps).2 := by
  induction steps generalizing r with
  | nil => exact .of_eq rfl
  | cons step rest ih =>
      obtain ⟨sql, stmt⟩ := step
      have hstep : Adds (Call.Carries (· ∈ ((sql, stmt) :: rest).map Prod.fst)) r
          (r.runStep s h stmt sql).2 :=
        (carries_runStep s h stmt sql r).mono fun c hc =>
          hc.mono fun text htext => by simp [htext]
      rw [runSteps]
      split
      · rename_i heq
        rw [heq] at hstep
        refine (hstep.trans ?_)
        refine Adds.andThen ((ih _).mono fun c hc => hc.mono fun text htext => ?_)
          fun _ _ => .of_eq rfl
        exact List.mem_cons_of_mem _ htext
      · rename_i heq
        rw [heq] at hstep
        exact hstep.trans (carries_rollBack s _ h _ _)

/-! ### Requests -/

/-- A statement whose values can be bound is let pass, takes a connection and is run. -/
theorem query_of_bind {sql : String} {params : Query.Params} {bound : Query.Bound}
    (hbind : Query.bind params sql = .ok bound) (r : Run σ) :
    r.query s sql params =
      andThen (r.permit bound.sql) fun stmt r =>
        andThen (r.connect s) fun h r =>
          ((r.runStatement s h stmt bound.sql bound.values).1.mapError (·.withStatement stmt),
            (r.runStatement s h stmt bound.sql bound.values).2.reportOutcome bound.sql
              (errorOf (r.runStatement s h stmt bound.sql bound.values).1)) := by
  rw [query, hbind]

/-- What a statement sends, once it is bound, is its text and has passed. -/
theorem carries_query {sql : String} {params : Query.Params} {bound : Query.Bound}
    (hbind : Query.bind params sql = .ok bound) (r : Run σ) :
    Adds (Call.Carries fun text => text = bound.sql ∧ Passes r.live.policy text) r
      (r.query s sql params).2 := by
  rw [query_of_bind s hbind]
  rcases hrefusal : refusal? r.live.policy bound.sql with _ | e
  · have hpasses := refusal?_eq_none_iff.mp hrefusal
    refine (Adds.of_eq (untouched_permit bound.sql r).calls_eq).andThen fun stmt r' => ?_
    refine ((silent_connect s r').mono fun c hc => hc.carries _).andThen fun h r'' => ?_
    have hrun := carries_runStatement s h stmt bound.sql bound.values r''
    have hpassed : Adds (Call.Carries fun text => text = bound.sql ∧ Passes r.live.policy text)
        r'' (r''.runStatement s h stmt bound.sql bound.values).2 :=
      hrun.mono fun c hc => hc.mono fun text htext => ⟨htext, htext ▸ hpasses⟩
    exact hpassed.trans (.of_eq (calls_reportOutcome bound.sql _ _))
  · exact .of_eq ((permit_of_refused hrefusal).andThen _).untouched.calls_eq

/-- What a transaction sends are the texts of its statements, and all have passed. -/
theorem carries_transaction (sqls : List String) (r : Run σ) :
    Adds (Call.Carries fun text => text ∈ sqls ∧ Passes r.live.policy text) r
      (r.transaction s sqls).2 := by
  rw [transaction]
  split
  · exact .of_eq rfl
  rcases hrefusal : sqls.findSome? (refusal? r.live.policy) with _ | e
  · have hpasses : ∀ sql ∈ sqls, Passes r.live.policy sql := fun sql hmem =>
      refusal?_eq_none_iff.mp (List.findSome?_eq_none_iff.mp hrefusal sql hmem)
    obtain ⟨hadmitted, huntouched⟩ := permitAll_of_passes hpasses
    rw [← Prod.eta (r.permitAll sqls), hadmitted]
    refine (Adds.of_eq huntouched.calls_eq).trans ?_
    refine ((silent_connect s _).mono fun c hc => hc.carries _).andThen fun h r' => ?_
    refine (Adds.single rfl (Call.carries_control _ h .start _)).andThen fun _ r' => ?_
    have hsteps := carries_runSteps s h (sqls.map fun sql => (sql, Statement.parse sql)) r'
    refine (hsteps.mono fun c hc => hc.mono fun text htext => ?_).andThen fun _ r' => ?_
    · have hmem : text ∈ sqls := by simpa using htext
      exact ⟨hmem, hpasses text hmem⟩
    · exact (Adds.single rfl (Call.carries_control _ h .commit _)).andThen fun _ _ => .of_eq rfl
  · exact .of_eq ((permitAll_of_refused hrefusal).andThen _).untouched.calls_eq

/-- **What a request sends is its own text, and has passed.** -/
theorem serve_carries (request : Request) (r : Run σ) :
    Adds (Call.Carries fun text => text ∈ request.texts ∧ Passes r.live.policy text) r
      (r.serve s request).2 := by
  cases request with
  | query sql params =>
      rw [serve]
      refine Adds.andThen ?_ fun _ _ => .of_eq rfl
      rcases hbind : Query.bind params sql with e | bound
      · rw [query, hbind]
        exact .of_eq rfl
      · refine (carries_query s hbind r).mono fun c hc => hc.mono fun text htext => ?_
        simpa [Request.texts, hbind] using htext
  | transaction sqls => exact carries_transaction s sqls r

/-! ### Success -/

/-- What succeeds went through a success of its first part. -/
theorem exists_of_andThen_ok {α β : Type} {x : Outcome σ α} {f : α → Run σ → Outcome σ β}
    {b : β} (h : (Run.andThen x f).1 = .ok b) :
    ∃ a r', x = (.ok a, r') ∧ Run.andThen x f = f a r' ∧ (f a r').1 = .ok b := by
  obtain ⟨e | a, r'⟩ := x
  · cases h
  · exact ⟨a, r', rfl, rfl, h⟩

theorem sent_fetchRecords (h : Handle) (stmt : Statement) (sql : String) (values : List Value)
    (r : Run σ) : (r.fetchRecords s h stmt sql values).2.sent = r.sent ++ [sql] := by
  have hcalls : (r.fetchRecords s h stmt sql values).2.calls =
      (r.callFetch s h sql values).2.calls := by
    rw [fetchRecords]
    rcases r.callFetch s h sql values with ⟨e | result, r'⟩ <;> rfl
  rw [sent, hcalls, callFetch, List.filterMap_append]
  rfl

theorem sent_callExecute (h : Handle) (sql : String) (values : List Value) (r : Run σ) :
    (r.callExecute s h sql values).2.sent = r.sent ++ [sql] := by
  rw [sent, callExecute, List.filterMap_append]
  rfl

theorem sent_callControl (h : Handle) (c : Control) (r : Run σ) :
    (r.callControl s h c).2.sent = r.sent ++ [c.text] := by
  rw [sent, callControl, List.filterMap_append]
  rfl

/-- A statement that succeeds was sent once, and then committed if it returns no rows. -/
theorem sent_runStatement {h : Handle} {stmt : Statement} {sql : String} {values : List Value}
    {r : Run σ} {records : List Record}
    (hok : (r.runStatement s h stmt sql values).1 = .ok records) :
    (r.runStatement s h stmt sql values).2.sent =
      r.sent ++ sql :: (if stmt.returnsRows then [] else [Control.commit.text]) := by
  rw [runStatement] at hok ⊢
  by_cases hrows : stmt.returnsRows = true
  · rw [if_pos hrows, if_pos hrows, sent_fetchRecords]
  · rw [if_neg hrows] at hok ⊢
    rw [if_neg hrows]
    obtain ⟨affected, r', hexecute, heq, hok⟩ := exists_of_andThen_ok hok
    obtain ⟨_, r'', hcommit, heq', -⟩ := exists_of_andThen_ok hok
    have hexecuted := sent_callExecute s h sql values r
    have hcommitted := sent_callControl s h .commit r'
    rw [hexecute] at hexecuted
    rw [hcommit, hexecuted] at hcommitted
    rw [heq, heq', List.append_cons]
    exact hcommitted

/-- A bound statement that succeeds has passed and was sent once. -/
theorem sent_query {sql : String} {params : Query.Params} {bound : Query.Bound} {r : Run σ}
    {records : List Record} (hbind : Query.bind params sql = .ok bound)
    (hok : (r.query s sql params).1 = .ok records) :
    Passes r.live.policy bound.sql ∧ (r.query s sql params).2.sent = r.sent ++
      bound.sql :: (if (Statement.parse bound.sql).returnsRows then []
        else [Control.commit.text]) := by
  rw [query_of_bind s hbind] at hok ⊢
  rcases hrefusal : refusal? r.live.policy bound.sql with _ | e
  · have hpasses := refusal?_eq_none_iff.mp hrefusal
    refine ⟨hpasses, ?_⟩
    obtain ⟨stmt, r₁, hpermit, heq, hok⟩ := exists_of_andThen_ok hok
    obtain ⟨h, r₂, hconnect, heq', hok⟩ := exists_of_andThen_ok hok
    have hstmt : Statement.parse bound.sql = stmt :=
      Except.ok.inj ((permit_of_passes hpasses).symm.trans (congrArg Prod.fst hpermit))
    -- Neither the gate nor the pool sends anything.
    have hcalls : r₁.calls = r.calls :=
      (congrArg (·.2.calls) hpermit).symm.trans (untouched_permit bound.sql r).calls_eq
    have hsilent : r₂.sent = r.sent := by
      have hsent := (silent_connect s r₁).sent_eq
      rw [hconnect] at hsent
      rw [hsent, sent, hcalls, sent]
    rcases hrun : r₂.runStatement s h stmt bound.sql bound.values with ⟨e | rows, r₃⟩
    · rw [hrun] at hok
      cases hok
    · have hsent := sent_runStatement s (congrArg Prod.fst hrun)
      rw [hrun, hsilent, ← hstmt] at hsent
      rw [heq, heq', hrun, ← hsent, sent, calls_reportOutcome, sent]
  · rw [((permit_of_refused hrefusal).andThen _).answer_eq] at hok
    cases hok

/-- **A statement that succeeds was sent once**, as it was bound, and has passed; if it
returns no rows it was then committed. -/
theorem sent_serve_query {sql : String} {params : Query.Params} {r : Run σ}
    {answer : List (List Record)} (hok : (r.serve s (.query sql params)).1 = .ok answer) :
    ∃ bound, Query.bind params sql = .ok bound ∧ Passes r.live.policy bound.sql ∧
      (r.serve s (.query sql params)).2.sent = r.sent ++
        bound.sql :: (if (Statement.parse bound.sql).returnsRows then []
          else [Control.commit.text]) := by
  rw [serve] at hok ⊢
  obtain ⟨records, r', hquery, heq, -⟩ := exists_of_andThen_ok hok
  rcases hbind : Query.bind params sql with e | bound
  · rw [query, hbind] at hquery
    cases hquery
  · obtain ⟨hpasses, hsent⟩ := sent_query s hbind (congrArg Prod.fst hquery)
    rw [hquery] at hsent
    rw [heq]
    exact ⟨bound, rfl, hpasses, hsent⟩

end Run

end SqlGateway
