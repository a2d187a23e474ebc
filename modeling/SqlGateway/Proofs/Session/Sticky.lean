import SqlGateway.Proofs.Session.Service

/-!
# A Failure Stays Until It Is Attended To

After a failure to open its pool a session is in error. It leaves this state when it is told to:
by reconnecting, opening a pool, switching databases or closing. Nothing else that a caller may ask
of it (`Service.IsPassive`) ends the error, though a session in another state would open a pool on
demand, or another when its settings changed. In error nothing is asked of the server any more, and
whoever needs a connection is told that there is none.

## Main results

* `connect_of_error`: no connection is taken in error.
* `serve_of_error`: a request in error is denied, or answered by the error for a missing pool.
* `grant_of_error`: what a service leaves of a session in error.
* `error_sticky`: this and the answers, over every course of services.
-/

namespace SqlGateway

/-- What does not open or close a pool on purpose. -/
def Service.IsPassive : Service → Prop
  | .operation (.request _) | .operation (.update _) => True
  | .operation _ => False
  | _ => True

/-- The answer to whoever needs a connection when the pool failed. -/
def poolFailed : GatewayError :=
  .poolUnavailable "connection pool is error; call reconnect to recover"

/-- The answer to a request that is not allowed, or has nothing to run. -/
def Request.denial? (policy : Policy) : Request → Option GatewayError
  | .transaction [] => some (.validation "transaction has no statements")
  | request => request.refusal? policy

/-- A service that was granted: what was asked for, the reply, and the run before and after. -/
structure Grant (σ : Type) where
  service : Service
  before : Run σ
  reply : Reply
  after : Run σ

/-! ### Denials -/

theorem isDenial_of_refusal? {policy : Policy} {sql : String} {e : GatewayError}
    (h : refusal? policy sql = some e) : e.isDenial = true := by
  have hadmission : Run.admission sql policy = .error e := by rw [Run.admission_eq, h]
  exact Run.isDenial_of_admission hadmission

namespace Request

theorem denial?_query (policy : Policy) (sql : String) (params : Query.Params) :
    (query sql params).denial? policy =
      match Query.bind params sql with
      | .error e => some e.toGateway
      | .ok bound => SqlGateway.refusal? policy bound.sql :=
  rfl

theorem denial?_cons (policy : Policy) (first : String) (rest : List String) :
    (transaction (first :: rest)).denial? policy =
      (transaction (first :: rest)).refusal? policy :=
  rfl

/-- A denial is one of the errors that are decided before anything is sent. -/
theorem isDenial_of_denial? {policy : Policy} {request : Request} {e : GatewayError}
    (h : request.denial? policy = some e) : e.isDenial = true := by
  rcases request with ⟨sql, params⟩ | ⟨_ | ⟨first, rest⟩⟩
  · rw [denial?_query] at h
    rcases hbind : Query.bind params sql with e' | bound
    · rw [hbind] at h
      cases h
      rfl
    · rw [hbind] at h
      exact isDenial_of_refusal? h
  · cases h
    rfl
  · obtain ⟨sql, -, hsql⟩ := List.exists_of_findSome?_eq_some h
    exact isDenial_of_refusal? hsql

end Request

namespace Run

variable {σ : Type} (s : Server σ)

/-- Grants services one after another. -/
def grants : List Service → Run σ → List (Grant σ)
  | [], _ => []
  | service :: rest, r =>
    ⟨service, r, (r.grant s service).1, (r.grant s service).2⟩ ::
      grants rest (r.grant s service).2

variable {r r' r'' : Run σ}

/-! ### What is left alone -/

/-- From one run to another the pool, the server and the calls made to it were left alone. -/
structure LeavesPool (r r' : Run σ) : Prop where
  slot_eq : r'.slot = r.slot
  server_eq : r'.server = r.server
  calls_eq : r'.calls = r.calls

theorem LeavesPool.refl (r : Run σ) : LeavesPool r r :=
  ⟨rfl, rfl, rfl⟩

theorem LeavesPool.trans (h : LeavesPool r r') (h' : LeavesPool r' r'') : LeavesPool r r'' :=
  ⟨h'.slot_eq.trans h.slot_eq, h'.server_eq.trans h.server_eq, h'.calls_eq.trans h.calls_eq⟩

theorem Untouched.leavesPool (h : Untouched r r') : LeavesPool r r' :=
  ⟨congrArg Session.slot h.session_eq, h.server_eq, h.calls_eq⟩

/-- Settings may be made in any state. -/
theorem leavesPool_update (entries : List (String × String)) (r : Run σ) :
    LeavesPool r (r.update entries).2 := by
  rw [update]
  split <;> exact ⟨rfl, rfl, rfl⟩

/-- What comes before may succeed and leave all as it was. -/
theorem Refused.after {α β : Type} {e : GatewayError} {a : α} {x : Outcome σ α}
    {f : α → Run σ → Outcome σ β} (hx : x.1 = .ok a) (huntouched : Untouched r x.2)
    (h : Refused x.2 e (f a x.2)) : Refused r e (Run.andThen x f) := by
  obtain ⟨answer, r'⟩ := x
  obtain rfl : answer = .ok a := hx
  exact ⟨h.answer_eq, huntouched.trans h.untouched⟩

/-! ### In error -/

/-- Nothing is opened in error. -/
theorem ensure_of_error (h : r.slot.state = .error) : r.ensure s = (.ok (), r) := by
  rw [ensure, h]
  rfl

/-- The settings are not compared in error. -/
theorem isStale_of_error (h : r.slot.state = .error) : r.isStale = (false, r) := by
  rw [isStale, if_pos (.inl (by simp [h]))]

/-- **No connection is taken in error.** -/
theorem connect_of_error (h : r.slot.state = .error) : r.connect s = (.error poolFailed, r) := by
  have hrefresh : r.refresh s = (.ok (), r) := by rw [refresh, isStale_of_error h]
  rw [connect, ensure_of_error s h, andThen, hrefresh, andThen, checkOut, h]
  rfl

theorem refused_connect (h : r.slot.state = .error) : Refused r poolFailed (r.connect s) := by
  rw [connect_of_error s h]
  exact ⟨rfl, rfl, rfl, rfl⟩

/-- A single statement is denied in error, or answered by the error for a missing pool. -/
theorem query_of_error (sql : String) (params : Query.Params) (h : r.slot.state = .error) :
    Refused r (((Request.query sql params).denial? r.live.policy).getD poolFailed)
      (r.query s sql params) := by
  rw [Request.denial?_query]
  rcases hbind : Query.bind params sql with e | bound
  · rw [query, hbind]
    exact ⟨rfl, rfl, rfl, rfl⟩
  · rw [query_of_bind s hbind]
    dsimp only
    rcases hrefusal : refusal? r.live.policy bound.sql with _ | e
    · have huntouched := untouched_permit bound.sql r
      refine .after (permit_of_passes (refusal?_eq_none_iff.mp hrefusal)) huntouched ?_
      exact Refused.andThen (refused_connect s (huntouched.leavesPool.slot_eq ▸ h)) _
    · exact (permit_of_refused hrefusal).andThen _

/-- **A request is denied in error**, or answered by the error for a missing pool. -/
theorem serve_of_error (request : Request) (h : r.slot.state = .error) :
    Refused r ((request.denial? r.live.policy).getD poolFailed) (r.serve s request) := by
  rcases request with ⟨sql, params⟩ | ⟨_ | ⟨first, rest⟩⟩
  · exact (query_of_error s sql params h).andThen _
  · exact ⟨rfl, rfl, rfl, rfl⟩
  · rw [Request.denial?_cons]
    rcases hrefusal : (Request.transaction (first :: rest)).refusal? r.live.policy with _ | e
    · obtain ⟨hadmitted, huntouched⟩ :=
        permitAll_of_passes (Request.refusal?_eq_none_iff.mp hrefusal)
      refine .after hadmitted huntouched ?_
      exact Refused.andThen (refused_connect s (huntouched.leavesPool.slot_eq ▸ h)) _
    · exact serve_of_refused s hrefusal

/-- **A service leaves a session in error as it is**, its settings apart. -/
theorem grant_of_error {service : Service} (hpassive : service.IsPassive)
    (h : r.slot.state = .error) : LeavesPool r (r.grant s service).2 := by
  cases service with
  | operation operation =>
      cases operation with
      | request request => exact (serve_of_error s request h).untouched.leavesPool
      | update entries =>
          have hupdate := leavesPool_update entries r
          rw [grant, operate]
          generalize r.update entries = updated at hupdate ⊢
          obtain ⟨_ | _, r'⟩ := updated <;> exact hupdate
      | switch | reopen | reconnect | close => exact hpassive.elim
  | ensure =>
      rw [grant, ensure_of_error s h]
      exact .refl r
  | connect =>
      rw [grant, connect_of_error s h]
      exact .refl r
  | replace | plugin | check | report => exact ⟨rfl, rfl, rfl⟩
  | currentDatabase =>
      have hquery := query_of_error s "SELECT DATABASE() AS db LIMIT 1" .none h
      exact (hquery.andThen _).untouched.leavesPool
  | databaseInfo =>
      have hquery := (query_of_error s "SELECT VERSION() AS version LIMIT 1" .none h).untouched
      rw [grant, databaseInfo]
      generalize r.query s _ _ = queried at hquery ⊢
      obtain ⟨_ | _, r'⟩ := queried <;> exact hquery.leavesPool

/-! ### Over a course of services -/

/-- What is said of one service in error: the pool, the server and the calls are those from before,
and so is what is told of the pool; and who needs a connection is told that there is none. -/
structure IsIdle (r : Run σ) (g : Grant σ) : Prop where
  calls_eq : g.after.calls = r.calls
  server_eq : g.after.server = r.server
  slot_eq : g.after.slot = r.slot
  state_eq : g.after.health.state = .error
  failures_eq : g.after.health.failures = r.health.failures
  lastError_eq : g.after.health.lastError = r.health.lastError
  reply_ensure : g.service = .ensure → g.reply = .done (.ok ())
  reply_connect : g.service = .connect →
    g.reply = .done (.error poolFailed) ∧ poolFailed.isRetryable = true
  /-- A request is answered by its own denial, if it has one, and else as whoever needs a
  connection. -/
  reply_request : ∀ request, g.service = .operation (.request request) →
    ∃ e, g.reply = .records (.error e) ∧
      e = (request.denial? g.before.live.policy).getD poolFailed ∧
      (e.isDenial = true ∨ e = poolFailed)

/-- The step of a course: one service, of a run that left the pool alone so far. -/
theorem isIdle_grant {service : Service} (hpassive : service.IsPassive)
    (hstate : r.slot.state = .error) (hleaves : LeavesPool r r') :
    IsIdle r ⟨service, r', (r'.grant s service).1, (r'.grant s service).2⟩ := by
  have hstate' : r'.slot.state = .error := by rw [hleaves.slot_eq, hstate]
  obtain ⟨hslot, hserver, hcalls⟩ := hleaves.trans (grant_of_error s hpassive hstate')
  refine ⟨hcalls, hserver, hslot, (congrArg Slot.state hslot).trans hstate,
    congrArg Slot.failures hslot, congrArg Slot.lastError hslot, ?_, ?_, ?_⟩
  · rintro rfl
    rw [grant, ensure_of_error s hstate']
    rfl
  · rintro rfl
    rw [grant, connect_of_error s hstate']
    exact ⟨rfl, rfl⟩
  · rintro request rfl
    refine ⟨_, congrArg Reply.records (serve_of_error s request hstate').answer_eq, rfl, ?_⟩
    rcases hdenial : request.denial? r'.live.policy with _ | e
    · exact .inr rfl
    · exact .inl (Request.isDenial_of_denial? hdenial)

/-- What is said of one service holds of each of a course. -/
theorem isIdle_of_mem_grants {services : List Service}
    (hpassive : ∀ service ∈ services, service.IsPassive) (hstate : r.slot.state = .error)
    (hleaves : LeavesPool r r') : ∀ g ∈ r'.grants s services, IsIdle r g := by
  induction services generalizing r' with
  | nil => exact fun g hg => nomatch hg
  | cons service rest ih =>
      obtain ⟨hfirst, hrest⟩ := List.forall_mem_cons.mp hpassive
      have hstate' : r'.slot.state = .error := by rw [hleaves.slot_eq, hstate]
      have hafter := hleaves.trans (grant_of_error s hfirst hstate')
      exact List.forall_mem_cons.mpr ⟨isIdle_grant s hfirst hstate hleaves, ih hrest hafter⟩

/-- **An error stays**, over every course of services that open or close no pool on purpose, with
every server: nothing is asked of the server, and the pool, its failures and its last error are
those from before. -/
theorem error_sticky (services : List Service) (hpassive : ∀ service ∈ services, service.IsPassive)
    (hstate : r.slot.state = .error) : ∀ g ∈ r.grants s services, IsIdle r g :=
  isIdle_of_mem_grants s hpassive hstate (.refl r)

/-- A server that opens no pool, and a caller that goes on asking after another port was set. -/
theorem error_sticky_of_refusal :
    let refusing := { Script.initial with openError := some (.connection "Connection refused") }
    let failed := ((begin "a" .initial refusing).openPool Script.server maxAuthRetries .closed).2
    let services : List Service :=
      [.operation (.update [("MYSQL_PORT", "3307")]), .ensure, .connect, .check "SELECT 1 LIMIT 1",
        .operation (.request (.query "SELECT 1 LIMIT 1" .none)), .databaseInfo]
    (∀ service ∈ services, service.IsPassive) ∧ failed.slot.state = .error ∧
      ∀ g ∈ failed.grants Script.server services, IsIdle failed g :=
  have hpassive := by simp [Service.IsPassive]
  ⟨hpassive, rfl, error_sticky Script.server _ hpassive rfl⟩

end Run

end SqlGateway
