import SqlGateway.Proofs.Session.Impartial

/-!
# What a Session Does for Its Caller

A caller can have its session do all that is done to sessions, and ask it what the gate thinks of
a text and what is known of the database (`Service`); `Run.grant` does it and answers. Whatever
the service, two runs of a session at an impartial server that look alike give the same answer
and look alike afterwards: neither the numbers of the pools nor what other sessions did before
makes a difference.

## Main results

* `tally_query`, `tally_transaction`, `tally_switch`: requests and switches.
* `tally_grant`: every service.
* `id_grant`: the session keeps its name.
-/

namespace SqlGateway

/-- What a caller can ask of its session. -/
inductive Service where
  | operation (operation : Operation)
  /-- A pool is opened if there is none. -/
  | ensure
  /-- A connection is taken and given back. -/
  | connect
  /-- Another policy is put in place. -/
  | replace (policy : Policy)
  /-- Another authentication plugin is set. -/
  | plugin (plugin : Option AuthPlugin)
  | check (sql : String)
  | report (sql : String)
  | currentDatabase
  | databaseInfo

/-- What a session answers. -/
inductive Reply where
  | records (answer : Except GatewayError (List (List Record)))
  | done (answer : Except GatewayError Unit)
  | decision (decision : Gate.Decision)
  | report (report : Gate.Report)
  | database (answer : Except GatewayError (Option String))
  | info (info : DatabaseInfo)

namespace Run

variable {σ : Type} (s : Server σ)

/-- Does what the caller asks for. -/
def grant (service : Service) (r : Run σ) : Reply × Run σ :=
  match service with
  | .operation operation => (r.operate s operation).map .records id
  | .ensure => (r.ensure s).map .done id
  | .connect => (r.connect s).map (fun answer => .done (answer.map fun _ => ())) id
  | .replace policy => (.done (.ok ()), { r with live := r.live.replace policy })
  | .plugin plugin => (.done (.ok ()), { r with live := r.live.setAuthPlugin plugin })
  | .check sql => (r.check sql).map .decision id
  | .report sql => (r.securityReport sql).map .report id
  | .currentDatabase => (r.currentDatabase s).map .database id
  | .databaseInfo => (r.databaseInfo s).map .info id

end Run

/-! ### Results -/

namespace QueryResult

variable {a b : QueryResult}

theorem table_pushColumn {value : Row → Value} (column : Column) (h : a.table = b.table) :
    (a.pushColumn column value).table = (b.pushColumn column value).table := by
  obtain ⟨hcolumns, hrows⟩ := Prod.mk.inj h
  simp only [table, pushColumn, hcolumns, hrows]

theorem columnIndex?_of_table (h : a.table = b.table) (name : String) :
    a.columnIndex? name = b.columnIndex? name := by
  rw [columnIndex?, columnIndex?, (Prod.mk.inj h).1]

theorem table_addTableColumns (h : a.table = b.table) :
    a.addTableColumns.table = b.addTableColumns.table := by
  rw [addTableColumns, addTableColumns, (Prod.mk.inj h).1, columnIndex?_of_table h]
  split
  · exact h
  · split
    · exact h
    · exact table_pushColumn _ (table_pushColumn _ h)

theorem table_addFieldColumns (h : a.table = b.table) :
    a.addFieldColumns.table = b.addFieldColumns.table := by
  rw [addFieldColumns, addFieldColumns, columnIndex?_of_table h, columnIndex?_of_table h,
    columnIndex?_of_table h]
  split
  · split
    · exact h
    · exact table_pushColumn _ (table_pushColumn _ h)
  · exact h

/-- The records of a result do not tell how long the statement took. -/
theorem records_shape_of_table (stmt : Statement) (h : a.table = b.table) :
    (a.shape stmt).records = (b.shape stmt).records := by
  have hshape : (a.shape stmt).table = (b.shape stmt).table := by
    rw [shape, shape]
    split
    · split
      · exact table_addFieldColumns (table_addTableColumns h)
      · exact table_addFieldColumns h
      · exact table_addFieldColumns h
      · exact h
    · exact h
  rw [records, records, (Prod.mk.inj hshape).1, (Prod.mk.inj hshape).2]

end QueryResult

namespace Server.Impartial

variable {σ : Type} {s : Server σ} {i : s.Impartial} {others others' : Handle → Prop}
  {a : Answers} {r r' r₁ r₁' : Run σ} {h h' : Handle} {α β : Type}

/-! ### Statements -/

theorem Joined.report (hjoined : i.Joined a others others' h h' r r')
    (hsession : r₁.toSession = r.toSession) (hserver : r₁.server = r.server)
    (hsession' : r₁'.toSession = r'.toSession) (hserver' : r₁'.server = r'.server) :
    i.Joined a others others' h h' r₁ r₁' :=
  hjoined.goes hsession (hserver ▸ .stays) hsession' (hserver' ▸ .stays)

theorem tally_fetchRecords (stmt : Statement) (sql : String) (values : List Value)
    (hjoined : i.Joined a others others' h h' r r') :
    Tally (i.Joined a others others' h h') (r.fetchRecords s h stmt sql values)
      (r'.fetchRecords s h' stmt sql values) := by
  have hasked : i.Joined a others others' h h' (r.callFetch s h sql values).2
      (r'.callFetch s h' sql values).2 := hjoined.goes rfl (.fetch _ _ _) rfl (.fetch _ _ _)
  have hanswer : (r.callFetch s h sql values).1.map QueryResult.table =
      (r'.callFetch s h' sql values).1.map QueryResult.table :=
    (i.fetch_eq hjoined.left.gives hjoined.isOpen.1 sql values).trans (by
      rw [hjoined.params_eq]
      exact (i.fetch_eq hjoined.right.gives hjoined.isOpen.2 sql values).symm)
  rw [Run.fetchRecords, Run.fetchRecords]
  generalize r.callFetch s h sql values = asked at hasked hanswer ⊢
  generalize r'.callFetch s h' sql values = asked' at hasked hanswer ⊢
  obtain ⟨e | result, r₁⟩ := asked <;> obtain ⟨e' | result', r₁'⟩ := asked'
  · obtain rfl : e = e' := Except.error.inj hanswer
    exact ⟨rfl, hasked⟩
  · cases hanswer
  · cases hanswer
  · have htable : result.table = result'.table := Except.ok.inj hanswer
    exact ⟨congrArg Except.ok (QueryResult.records_shape_of_table stmt htable), hasked⟩

theorem tally_callExecute (sql : String) (values : List Value)
    (hjoined : i.Joined a others others' h h' r r') :
    Tally (i.Joined a others others' h h') (r.callExecute s h sql values)
      (r'.callExecute s h' sql values) := by
  refine ⟨?_, hjoined.goes rfl (.execute _ _ _) rfl (.execute _ _ _)⟩
  have hanswer : (s.execute h.number sql values r.server).1 =
      (s.execute h'.number sql values r'.server).1 := by
    rw [i.execute_eq hjoined.left.gives hjoined.isOpen.1,
      i.execute_eq hjoined.right.gives hjoined.isOpen.2, hjoined.params_eq]
  exact hanswer

theorem tally_callControl (c : Control) (hjoined : i.Joined a others others' h h' r r') :
    Tally (i.Joined a others others' h h') (r.callControl s h c) (r'.callControl s h' c) := by
  refine ⟨?_, hjoined.goes rfl (.control _ _) rfl (.control _ _)⟩
  have hanswer : (s.control h.number c r.server).1 = (s.control h'.number c r'.server).1 := by
    rw [i.control_eq hjoined.left.gives hjoined.isOpen.1,
      i.control_eq hjoined.right.gives hjoined.isOpen.2, hjoined.params_eq]
  exact hanswer

theorem joined_reportOutcome (sql : String) (error : Option GatewayError)
    (hjoined : i.Joined a others others' h h' r r') :
    i.Joined a others others' h h' (r.reportOutcome sql error) (r'.reportOutcome sql error) := by
  cases error <;> exact hjoined.report rfl rfl rfl rfl

/-- A single statement. -/
theorem tally_runStatement (stmt : Statement) (sql : String) (values : List Value)
    (hjoined : i.Joined a others others' h h' r r') :
    Tally (i.Joined a others others' h h') (r.runStatement s h stmt sql values)
      (r'.runStatement s h' stmt sql values) := by
  rw [Run.runStatement, Run.runStatement]
  split
  · exact tally_fetchRecords stmt sql values hjoined
  · refine (tally_callExecute sql values hjoined).andThen fun affected r r' hjoined => ?_
    refine (tally_callControl .commit hjoined).andThen fun _ r r' hjoined => ?_
    exact ⟨rfl, hjoined.report rfl rfl rfl rfl⟩

theorem tally_runStep (stmt : Statement) (sql : String)
    (hjoined : i.Joined a others others' h h' r r') :
    Tally (i.Joined a others others' h h') (r.runStep s h stmt sql) (r'.runStep s h' stmt sql) := by
  have hran : Tally (i.Joined a others others' h h')
      (if stmt.returnsRows then r.fetchRecords s h stmt sql []
        else Run.andThen (r.callExecute s h sql []) fun affected r =>
          (.ok [changeRecord stmt affected], r))
      (if stmt.returnsRows then r'.fetchRecords s h' stmt sql []
        else Run.andThen (r'.callExecute s h' sql []) fun affected r =>
          (.ok [changeRecord stmt affected], r)) := by
    split
    · exact tally_fetchRecords stmt sql [] hjoined
    · exact (tally_callExecute sql [] hjoined).andThen fun affected r r' hjoined => ⟨rfl, hjoined⟩
  obtain ⟨hresult, hafter⟩ := hran
  rw [Run.runStep, Run.runStep]
  refine ⟨hresult, ?_⟩
  dsimp only
  rw [hresult]
  exact joined_reportOutcome sql _ hafter

theorem joined_rollBack (e : GatewayError) (hjoined : i.Joined a others others' h h' r r') :
    i.Joined a others others' h h' (r.rollBack s h e) (r'.rollBack s h' e) := by
  obtain ⟨hanswer, hafter⟩ := tally_callControl .rollback hjoined
  rw [Run.rollBack, Run.rollBack]
  dsimp only
  rw [hanswer]
  split <;> exact hafter.report rfl rfl rfl rfl

/-- The statements of a transaction. -/
theorem tally_runSteps (steps : List (String × Statement))
    (hjoined : i.Joined a others others' h h' r r') :
    Tally (i.Joined a others others' h h') (r.runSteps s h steps) (r'.runSteps s h' steps) := by
  induction steps generalizing r r' with
  | nil => exact ⟨rfl, hjoined⟩
  | cons step rest ih =>
      obtain ⟨sql, stmt⟩ := step
      obtain ⟨hresult, hafter⟩ := tally_runStep stmt sql hjoined
      rw [Run.runSteps, Run.runSteps]
      generalize r.runStep s h stmt sql = stepped at hresult hafter ⊢
      generalize r'.runStep s h' stmt sql = stepped' at hresult hafter ⊢
      obtain ⟨result, r₁⟩ := stepped
      obtain ⟨_, r₁'⟩ := stepped'
      obtain rfl := hresult
      rcases result with e | records
      · exact ⟨rfl, joined_rollBack e hafter⟩
      · exact (ih hafter).andThen fun more r r' hjoined => ⟨rfl, hjoined⟩

/-! ### Requests -/

/-- A connection is taken for what follows, if one can be had. -/
theorem tally_of_connects {x x' : Run.Outcome σ Handle} {f f' : Handle → Run σ → Run.Outcome σ α}
    (hx : i.Connects a others others' x x')
    (hf : ∀ h h' r r', i.Joined a others others' h h' r r' →
      Tally (i.Joined a others others' h h') (f h r) (f' h' r')) :
    Tally (i.Alike a others others') (Run.andThen x f) (Run.andThen x' f') := by
  cases hx with
  | taken hjoined =>
      obtain ⟨hresult, hafter⟩ := hf _ _ _ _ hjoined
      exact ⟨hresult, hafter.toAlike⟩
  | failed e halike => exact ⟨rfl, halike⟩

theorem tally_permit (sql : String) (halike : i.Alike a others others' r r') :
    Tally (i.Alike a others others') (r.permit sql) (r'.permit sql) :=
  ⟨congrArg (fun live : LivePolicy => Run.admission sql live.policy) halike.live_eq,
    halike.report rfl rfl rfl rfl⟩

theorem tally_permitAll (sqls : List String) (halike : i.Alike a others others' r r') :
    Tally (i.Alike a others others') (r.permitAll sqls) (r'.permitAll sqls) := by
  induction sqls generalizing r r' with
  | nil => exact ⟨rfl, halike⟩
  | cons sql rest ih =>
      refine (tally_permit sql halike).andThen fun stmt r r' halike => ?_
      exact (ih halike).andThen fun more r r' halike => ⟨rfl, halike⟩

/-- **A single statement** is answered in the same way. -/
theorem tally_query (sql : String) (params : Query.Params)
    (halike : i.Alike a others others' r r') :
    Tally (i.Alike a others others') (r.query s sql params) (r'.query s sql params) := by
  rw [Run.query, Run.query]
  rcases Query.bind params sql with e | bound
  · exact ⟨rfl, halike⟩
  refine (tally_permit bound.sql halike).andThen fun stmt r r' halike => ?_
  refine tally_of_connects (connects_connect halike) fun h h' r r' hjoined => ?_
  obtain ⟨hresult, hafter⟩ := tally_runStatement stmt bound.sql bound.values hjoined
  refine ⟨congrArg (Except.mapError _) hresult, ?_⟩
  dsimp only
  rw [hresult]
  exact joined_reportOutcome bound.sql _ hafter

/-- **A transaction** is answered in the same way. -/
theorem tally_transaction (sqls : List String) (halike : i.Alike a others others' r r') :
    Tally (i.Alike a others others') (r.transaction s sqls) (r'.transaction s sqls) := by
  rw [Run.transaction, Run.transaction]
  split
  · exact ⟨rfl, halike⟩
  refine (tally_permitAll sqls halike).andThen fun admitted r r' halike => ?_
  refine tally_of_connects (connects_connect halike) fun h h' r r' hjoined => ?_
  refine (tally_callControl .start hjoined).andThen fun _ r r' hjoined => ?_
  refine (tally_runSteps admitted hjoined).andThen fun results r r' hjoined => ?_
  refine (tally_callControl .commit hjoined).andThen fun _ r r' hjoined => ?_
  exact ⟨rfl, hjoined.report rfl rfl rfl rfl⟩

/-! ### Changes -/

/-- The same policy is put in place. -/
theorem alike_live (live : LivePolicy) (halike : i.Alike a others others' r r') :
    i.Alike a others others' { r with live } { r' with live } := by
  refine halike.change ?_ rfl (fun _ hk => hk) rfl fun _ hk => hk
  exact congrArg (fun session : Session => { session with live }) halike.seen_eq

theorem tally_update (entries : List (String × String)) (halike : i.Alike a others others' r r') :
    Tally (i.Alike a others others') (r.update entries) (r'.update entries) := by
  rw [Run.update, Run.update, halike.live_eq]
  split
  · exact ⟨rfl, alike_live _ halike⟩
  · exact ⟨rfl, halike⟩

theorem tally_switchBack (t : Target) (previous : List (String × String)) (e : GatewayError)
    (halike : i.Alike a others others' r r') :
    Tally (i.Alike a others others') (r.switchBack s t previous e)
      (r'.switchBack s t previous e) := by
  rw [Run.switchBack, Run.switchBack]
  have hreported : i.Alike a others others' (r.reportSession .warn
        "Database switch failed, restoring previous settings" [.shown "error" e.message])
      (r'.reportSession .warn "Database switch failed, restoring previous settings"
        [.shown "error" e.message]) := halike.report rfl rfl rfl rfl
  refine (tally_update previous hreported).andThen fun _ r r' halike => ?_
  obtain ⟨hresult, hafter⟩ := alike_openPool maxAuthRetries .closed halike
  refine ⟨rfl, ?_⟩
  generalize r.openPool s maxAuthRetries .closed = x at hresult hafter ⊢
  generalize r'.openPool s maxAuthRetries .closed = x' at hresult hafter ⊢
  obtain ⟨result, r₁⟩ := x
  obtain ⟨_, r₁'⟩ := x'
  obtain rfl := hresult
  rcases result with e | _
  · exact hafter.report rfl rfl rfl rfl
  · exact hafter

/-- **A switch to another database** goes the same way. -/
theorem tally_switch (t : Target) (halike : i.Alike a others others' r r') :
    Tally (i.Alike a others others') (r.switch s t) (r'.switch s t) := by
  rw [Run.switch, Run.switch, halike.live_eq]
  split
  · exact ⟨rfl, halike⟩
  refine (tally_update t.entries halike).andThen fun _ r₁ r₁' halike => ?_
  obtain ⟨hresult, hafter⟩ := alike_openPool maxAuthRetries .closed halike
  generalize r₁.openPool s maxAuthRetries .closed = x at hresult hafter ⊢
  generalize r₁'.openPool s maxAuthRetries .closed = x' at hresult hafter ⊢
  obtain ⟨result, r₂⟩ := x
  obtain ⟨_, r₂'⟩ := x'
  obtain rfl := hresult
  rcases result with e | _
  · exact tally_switchBack t _ e hafter
  · exact ⟨rfl, hafter.report rfl rfl rfl rfl⟩

/-! ### Services -/

/-- An answer may be told in another way. -/
theorem Tally.map {T : Run σ → Run σ → Prop} {x x' : α × Run σ} (hx : Tally T x x')
    (f : α → β) : Tally T (x.map f id) (x'.map f id) :=
  ⟨congrArg f hx.1, hx.2⟩

theorem tally_serve (request : Request) (halike : i.Alike a others others' r r') :
    Tally (i.Alike a others others') (r.serve s request) (r'.serve s request) := by
  cases request with
  | query sql params =>
      exact (tally_query sql params halike).andThen fun records r r' halike => ⟨rfl, halike⟩
  | transaction sqls => exact tally_transaction sqls halike

theorem tally_reconnect (halike : i.Alike a others others' r r') :
    Tally (i.Alike a others others') (r.reconnect s) (r'.reconnect s) := by
  have hreported : i.Alike a others others'
      (r.reportPool .info "Reconnecting connection pool" [.shown "from" r.slot.state.label])
      (r'.reportPool .info "Reconnecting connection pool" [.shown "from" r'.slot.state.label]) :=
    halike.report rfl rfl rfl rfl
  exact alike_openPool maxAuthRetries .reconnecting hreported

theorem tally_operate (operation : Operation) (halike : i.Alike a others others' r r') :
    Tally (i.Alike a others others') (r.operate s operation) (r'.operate s operation) := by
  cases operation with
  | request request => exact tally_serve request halike
  | update entries =>
      exact (tally_update entries halike).andThen fun _ r r' halike => ⟨rfl, halike⟩
  | switch target => exact (tally_switch target halike).andThen fun _ r r' halike => ⟨rfl, halike⟩
  | reopen retries =>
      exact (alike_openPool retries .closed halike).andThen fun _ r r' halike => ⟨rfl, halike⟩
  | reconnect => exact (tally_reconnect halike).andThen fun _ r r' halike => ⟨rfl, halike⟩
  | close => exact ⟨rfl, alike_closeTo .closed halike⟩

theorem tally_databaseInfo (halike : i.Alike a others others' r r') :
    Tally (i.Alike a others others') (r.databaseInfo s) (r'.databaseInfo s) := by
  obtain ⟨hresult, hafter⟩ := tally_query "SELECT VERSION() AS version LIMIT 1" .none halike
  rw [Run.databaseInfo, Run.databaseInfo]
  generalize r.query s _ _ = x at hresult hafter ⊢
  generalize r'.query s _ _ = x' at hresult hafter ⊢
  obtain ⟨result, r₁⟩ := x
  obtain ⟨_, r₁'⟩ := x'
  obtain rfl := hresult
  have hhealth : r₁.health = r₁'.health := hafter.health_eq
  rcases result with e | rows <;> exact ⟨by simp only [hhealth], hafter⟩

/-- **Every service** is answered in the same way, and leads to runs that look alike. -/
theorem tally_grant (service : Service) (halike : i.Alike a others others' r r') :
    Tally (i.Alike a others others') (r.grant s service) (r'.grant s service) := by
  have hpolicy : r.live.policy = r'.live.policy := congrArg LivePolicy.policy halike.live_eq
  cases service with
  | operation operation => exact (tally_operate operation halike).map _
  | ensure => exact (alike_ensure halike).map _
  | connect =>
      rw [Run.grant, Run.grant]
      have hconnects := connects_connect halike
      generalize r.connect s = x at hconnects ⊢
      generalize r'.connect s = x' at hconnects ⊢
      cases hconnects with
      | taken hjoined => exact ⟨rfl, hjoined.toAlike⟩
      | failed e halike => exact ⟨rfl, halike⟩
  | replace policy =>
      rw [Run.grant, Run.grant, halike.live_eq]
      exact ⟨rfl, alike_live _ halike⟩
  | plugin plugin =>
      rw [Run.grant, Run.grant, halike.live_eq]
      exact ⟨rfl, alike_live _ halike⟩
  | check sql =>
      exact ⟨congrArg (fun policy => Reply.decision (Gate.check sql policy)) hpolicy,
        halike.report rfl rfl rfl rfl⟩
  | report sql =>
      exact ⟨congrArg (fun policy => Reply.report (Gate.report sql policy)) hpolicy,
        halike.report rfl rfl rfl rfl⟩
  | currentDatabase =>
      have hdatabase : Tally (i.Alike a others others') (r.currentDatabase s)
          (r'.currentDatabase s) :=
        (tally_query _ .none halike).andThen fun rows r r' halike => ⟨rfl, halike⟩
      exact hdatabase.map _
  | databaseInfo => exact (tally_databaseInfo halike).map _

end Server.Impartial

namespace Run

variable {σ : Type} (s : Server σ)

theorem id_openPool (retries : Nat) (meanwhile : PoolState) (r : Run σ) :
    (r.openPool s retries meanwhile).2.id = r.id := by
  have hseek := toSession_seekPool (s := s) retries (r.startOpening s meanwhile).1.params
    (r.startOpening s meanwhile).2
  have hclosed : (r.startOpening s meanwhile).2.id = r.id :=
    (congrArg Session.id (toSession_closeTo s meanwhile r) :)
  rw [openPool, openDuring]
  generalize r.startOpening s meanwhile = started at hseek hclosed ⊢
  obtain ⟨opening, r₁⟩ := started
  dsimp only at hseek hclosed ⊢
  generalize r₁.seekPool s retries opening.params = found at hseek ⊢
  obtain ⟨_ | pool, r₂⟩ := found <;> exact (congrArg Session.id hseek).trans hclosed

/-- No move gives a session another name. -/
theorem id_of_moves {P : Policy → Prop} {r r' : Run σ} (hmoves : Moves s P r r') :
    r'.id = r.id := by
  induction hmoves with
  | refl => rfl
  | change _ _ ih => exact ih
  | @look r' _ ih =>
      rw [← ih, isStale]
      split
      · rfl
      · split <;> rfl
  | call _ hsession _ ih => exact (congrArg Session.id hsession).trans ih
  | @reopen r' _ retries meanwhile _ ih => exact (id_openPool s retries meanwhile r').trans ih
  | @close r' _ ih => exact (congrArg Session.id (toSession_closeTo s .closed r')).trans ih

/-- **A session keeps its name**, whatever it does for its caller. -/
theorem id_grant (service : Service) (r : Run σ) : (r.grant s service).2.id = r.id := by
  have hquery : ∀ sql, (r.query s sql .none).2.id = r.id := by
    intro sql
    have hmoves := settles_serve s (.query sql .none) r
    rw [serve] at hmoves
    generalize r.query s sql .none = x at hmoves ⊢
    obtain ⟨_ | _, r₁⟩ := x <;> exact id_of_moves s hmoves
  cases service with
  | operation operation => exact id_of_moves s (settles_operate s operation r)
  | ensure => exact id_of_moves s (settles_ensure s r)
  | connect => exact id_of_moves s (settles_connect s r)
  | replace | plugin | check | report => rfl
  | currentDatabase =>
      have hid := hquery "SELECT DATABASE() AS db LIMIT 1"
      rw [grant, currentDatabase]
      generalize r.query s _ _ = x at hid ⊢
      obtain ⟨_ | _, r₁⟩ := x <;> exact hid
  | databaseInfo =>
      have hid := hquery "SELECT VERSION() AS version LIMIT 1"
      rw [grant, databaseInfo]
      generalize r.query s _ _ = x at hid ⊢
      obtain ⟨_ | _, r₁⟩ := x <;> exact hid

end Run

end SqlGateway
