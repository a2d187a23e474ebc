import SqlGateway.Proofs.Session.Course

/-!
# The Ledger of Pools

The calls of a run are a ledger of pools: which were asked for, which the server opened and
which were closed, each in order. A session holds at most one pool, and what it holds is what
the ledger leaves open: the pools that were opened are those that were closed, in the same
order, and then the one that is open, if one is.

This and what the fields of a slot say of each other is `IsOrderly`. It holds of a session that
was just made, every move keeps it, and so it holds between any two acts; while a pool is being
opened it does not, since the state that is passed through has no pool.

## Main results

* `openPool_ledger`: what an opening writes, and what it finds the slot to be.
* `isOrderly_of_moves`: every move keeps order.
* `pool_orderly`: order holds after every list of acts, and what follows from it.
-/

namespace SqlGateway

namespace Run

variable {σ : Type}

/-- The parameters of the pools that were asked for. -/
def attempts (r : Run σ) : List ConnectParams :=
  r.calls.filterMap Call.params?

/-- The pools that the server opened. -/
def opened (r : Run σ) : List Handle :=
  r.calls.filterMap Call.opened?

/-- The pools that were closed. -/
def closed (r : Run σ) : List Handle :=
  r.calls.filterMap Call.closed?

/-! ### What is written -/

/-- Nothing is written by calls that nothing is read of. -/
theorem filterMap_calls_of_adds {β : Type} {f : Call → Option β} {r r' : Run σ}
    (h : Adds (f · = none) r r') : r'.calls.filterMap f = r.calls.filterMap f := by
  obtain ⟨added, heq, hall⟩ := h
  rw [heq, List.filterMap_append, List.filterMap_eq_nil_iff.mpr hall, List.append_nil]

/-- What was not asked for was not opened. -/
theorem opened?_of_params? {c : Call} (h : c.params? = none) : c.opened? = none := by
  cases c with
  | openPool => cases h
  | closePool | acquire | fetch | execute | control => rfl

/-- A call that leaves the pools alone is not written down. -/
theorem ledger_of_leavesPools {r r' : Run σ} (h : Adds Call.LeavesPools r r') :
    r'.attempts = r.attempts ∧ r'.opened = r.opened ∧ r'.closed = r.closed :=
  ⟨filterMap_calls_of_adds (h.mono fun _ hc => hc.1),
    filterMap_calls_of_adds (h.mono fun _ hc => opened?_of_params? hc.1),
    filterMap_calls_of_adds (h.mono fun _ hc => hc.2)⟩

variable (s : Server σ)

theorem toSession_closeTo (next : PoolState) (r : Run σ) :
    (r.closeTo s next).toSession = { r.toSession with
      slot := { r.slot with handle := none, state := next, fingerprint := none } } := by
  rw [closeTo]
  split <;> rfl

theorem slot_closeTo (next : PoolState) (r : Run σ) :
    (r.closeTo s next).slot =
      { r.slot with handle := none, state := next, fingerprint := none } :=
  congrArg Session.slot (toSession_closeTo s next r)

/-- Closing writes down the pool that was open, if one was. -/
theorem ledger_closeTo (next : PoolState) (r : Run σ) :
    (r.closeTo s next).attempts = r.attempts ∧ (r.closeTo s next).opened = r.opened ∧
      (r.closeTo s next).closed = r.closed ++ r.slot.handle.toList := by
  rw [closeTo]
  cases r.slot.handle with
  | none => exact ⟨rfl, rfl, (List.append_nil _).symm⟩
  | some h =>
      exact ⟨List.filterMap_append.trans (List.append_nil _),
        List.filterMap_append.trans (List.append_nil _), List.filterMap_append⟩

/-- From one run to another pools were asked for until `found` was, and nothing was closed. -/
structure Asks (found : Option Handle) (r r' : Run σ) : Prop where
  attempts_prefix : r.attempts <+: r'.attempts
  opened_eq : r'.opened = r.opened ++ found.toList
  closed_eq : r'.closed = r.closed

variable {r r' r'' : Run σ} {found : Option Handle}

/-- Nothing was called. -/
theorem Asks.of_eq (h : r'.calls = r.calls) : Asks none r r' where
  attempts_prefix := by rw [attempts, attempts, h]
  opened_eq := by rw [opened, opened, h, Option.toList_none, List.append_nil]
  closed_eq := by rw [closed, closed, h]

/-- After asking in vain more is asked for. -/
theorem Asks.trans (h : Asks none r r') (h' : Asks found r' r'') : Asks found r r'' where
  attempts_prefix := h.attempts_prefix.trans h'.attempts_prefix
  opened_eq := by rw [h'.opened_eq, h.opened_eq, Option.toList_none, List.append_nil]
  closed_eq := h'.closed_eq.trans h.closed_eq

/-- Events may be reported before a pool is asked for. -/
theorem Asks.after (h : Asks found r' r'') (hcalls : r'.calls = r.calls) : Asks found r r'' :=
  (Asks.of_eq hcalls).trans h

/-- Events may be reported after a pool was asked for. -/
theorem Asks.report (h : Asks found r r') (hcalls : r''.calls = r'.calls) :
    Asks found r r'' where
  attempts_prefix := by rw [attempts, attempts, hcalls]; exact h.attempts_prefix
  opened_eq := by rw [opened, hcalls]; exact h.opened_eq
  closed_eq := by rw [closed, hcalls]; exact h.closed_eq

/-- Asking for a pool writes down what was asked for, and the pool if there is one. -/
theorem asks_callOpen (params : ConnectParams) (r : Run σ) :
    (r.callOpen s params).2.attempts = r.attempts ++ [params] ∧
      Asks (r.callOpen s params).1.toOption r (r.callOpen s params).2 := by
  have hattempts : (r.callOpen s params).2.attempts = r.attempts ++ [params] :=
    List.filterMap_append
  refine ⟨hattempts, ⟨_, hattempts.symm⟩, ?_, ?_⟩
  · rw [callOpen, opened]
    rcases s.openPool params r.server with ⟨_ | _, _⟩ <;> exact List.filterMap_append
  · exact List.filterMap_append.trans (List.append_nil _)

/-- Trying plugins writes down the pool that was found in the end, if one was. -/
theorem asks_tryPlugins (params : ConnectParams) (plugins : List (Option AuthPlugin))
    (last : String) (r : Run σ) :
    Asks (r.tryPlugins s params plugins last).1.toOption r
      (r.tryPlugins s params plugins last).2 := by
  induction plugins generalizing last r with
  | nil => exact .of_eq rfl
  | cons plugin plugins ih =>
      have hcall : Asks _ r _ := (asks_callOpen s { params with authPlugin := plugin }
        (r.reportPool .info "Trying authentication plugin" [pluginField plugin])).2.after rfl
      rw [tryPlugins]
      split
      · rename_i heq
        rw [heq] at hcall
        exact hcall.report rfl
      · rename_i heq
        rw [heq] at hcall
        exact hcall.trans ((ih _ _).after rfl)

/-- Seeking a pool asks for one at least, and writes down the pool that was found, if one
was. -/
theorem asks_seekPool (retries : Nat) (params : ConnectParams) (r : Run σ) :
    r.attempts ++ [params] <+: (r.seekPool s retries params).2.attempts ∧
      Asks (r.seekPool s retries params).1.toOption r (r.seekPool s retries params).2 := by
  obtain ⟨hattempts, hcall⟩ := asks_callOpen s params r
  rw [seekPool]
  split
  · rename_i heq
    rw [heq] at hattempts hcall
    exact ⟨⟨[], by rw [List.append_nil, hattempts]⟩, hcall⟩
  · rename_i message r₁ heq
    rw [heq] at hattempts hcall
    rw [← hattempts]
    split
    · exact ⟨List.prefix_rfl, hcall⟩
    · have htry : Asks _ r₁ _ := (asks_tryPlugins s params
        (AuthPlugin.fallbackOrder.take retries) message (r₁.reportPool .warn message [])).after rfl
      split
      · rename_i heq'
        rw [heq'] at htry
        exact ⟨htry.attempts_prefix, hcall.trans htry⟩
      · rename_i heq'
        rw [heq'] at htry
        exact ⟨htry.attempts_prefix, (hcall.trans htry).report rfl⟩
  · rename_i heq
    rw [heq] at hattempts hcall
    exact ⟨⟨[], by rw [List.append_nil, hattempts]⟩, hcall⟩

/-- **What an opening does.** The slot is emptied and the pool that was in it is closed; then
pools are asked for; and then the pool that was found is put in place, or the failure noted. -/
theorem openPool_ledger (retries : Nat) (meanwhile : PoolState) (r : Run σ) :
    ∃ (o : Opening) (answer : Except GatewayError Handle) (sought : Run σ),
      r.openPool s retries meanwhile = sought.finishOpening o answer ∧
      sought.toSession = { r.toSession with
        slot := { r.slot with handle := none, state := meanwhile, fingerprint := none } } ∧
      sought.opened = r.opened ++ answer.toOption.toList ∧
      sought.closed = r.closed ++ r.slot.handle.toList ∧
      r.attempts.length < sought.attempts.length := by
  obtain ⟨hattempts, hopened, hclosed⟩ := ledger_closeTo s meanwhile r
  let started := r.startOpening s meanwhile
  obtain ⟨hasked, hasks⟩ := asks_seekPool s retries started.1.params started.2
  have hsession : (started.2.seekPool s retries started.1.params).2.toSession =
      started.2.toSession := toSession_seekPool retries started.1.params started.2
  refine ⟨started.1, (started.2.seekPool s retries started.1.params).1,
    (started.2.seekPool s retries started.1.params).2, rfl, ?_, ?_, ?_, ?_⟩
  · exact hsession.trans (toSession_closeTo s meanwhile r)
  · rw [hasks.opened_eq, ← hopened]
    rfl
  · rw [hasks.closed_eq, ← hclosed]
    rfl
  · have hlength := hasked.length_le
    rw [List.length_append, List.length_singleton] at hlength
    rw [← hattempts]
    exact hlength

/-- An opening asks for a pool at least. -/
theorem attempts_lt_openPool (retries : Nat) (meanwhile : PoolState) (r : Run σ) :
    r.attempts.length < (r.openPool s retries meanwhile).2.attempts.length := by
  obtain ⟨o, answer, sought, heq, -, -, -, hlt⟩ := openPool_ledger s retries meanwhile r
  have hkept : (sought.finishOpening o answer).2.attempts = sought.attempts := by
    rw [attempts, calls_finishOpening]
    rfl
  rwa [heq, hkept]

/-! ### Order -/

end Run

/-- What the fields of a slot say of each other between acts. -/
structure Slot.IsOrderly (slot : Slot) : Prop where
  /-- There is a pool exactly in the active state. -/
  handle_iff : slot.handle.isSome = true ↔ slot.state = .active
  /-- The settings of the pool are on record exactly in the active state. -/
  fingerprint_iff : slot.fingerprint.isSome = true ↔ slot.state = .active
  state_ne : slot.state ≠ .reconnecting
  failures_pos : slot.state = .error → 0 < slot.failures
  lastError_iff : slot.lastError.isSome = true ↔ 0 < slot.failures

theorem Slot.isOrderly_initial : Slot.initial.IsOrderly := by
  constructor <;> decide

namespace Run

variable {σ : Type} {r r' : Run σ}

/-- What holds of a session between acts: its slot is in order, and the ledger leaves open what
is in the slot. -/
structure IsOrderly (r : Run σ) : Prop where
  slot : r.slot.IsOrderly
  opened_eq : r.opened = r.closed ++ r.slot.handle.toList

theorem isOrderly_begin (id : String) (p : Policy) (server : σ) :
    (begin id p server).IsOrderly :=
  ⟨Slot.isOrderly_initial, rfl⟩

theorem IsOrderly.look (h : r.IsOrderly) : r.isStale.2.IsOrderly := by
  rw [isStale]
  split
  · exact h
  · split
    · -- Only the generation is another.
      obtain ⟨hhandle, hfingerprint, hstate, hfailures, hlastError⟩ := h.slot
      exact ⟨⟨hhandle, hfingerprint, hstate, hfailures, hlastError⟩, h.opened_eq⟩
    · exact h

theorem IsOrderly.call (h : r.IsOrderly) (hsession : r'.toSession = r.toSession)
    (hcalls : Adds Call.LeavesPools r r') : r'.IsOrderly := by
  obtain ⟨-, hopened, hclosed⟩ := ledger_of_leavesPools hcalls
  have hslot : r'.slot = r.slot := congrArg Session.slot hsession
  exact ⟨hslot ▸ h.slot, by rw [hopened, hclosed, hslot, h.opened_eq]⟩

variable (s : Server σ)

/-- A failure is noted in an empty slot. -/
theorem isOrderly_fail {e : GatewayError} (hhandle : r.slot.handle = none)
    (hfingerprint : r.slot.fingerprint = none) (hopened : r.opened = r.closed) :
    (r.fail e).IsOrderly where
  slot :=
    { handle_iff := by simp [fail, reportPool, report, hhandle]
      fingerprint_iff := by simp [fail, reportPool, report, hfingerprint]
      state_ne := by simp [fail, reportPool, report]
      failures_pos := fun _ => Nat.succ_pos _
      lastError_iff := ⟨fun _ => Nat.succ_pos _, fun _ => rfl⟩ }
  opened_eq := by
    have hkept : (r.fail e).slot.handle = none := hhandle
    rw [hkept, Option.toList_none, List.append_nil]
    exact hopened

/-- A pool is put in place. -/
theorem isOrderly_activate {pool : Handle} {generation : Nat}
    (hopened : r.opened = r.closed ++ [pool]) : (r.activate pool generation).IsOrderly where
  slot :=
    { handle_iff := ⟨fun _ => rfl, fun _ => rfl⟩
      fingerprint_iff := ⟨fun _ => rfl, fun _ => rfl⟩
      state_ne := by simp [activate, reportPool, report]
      failures_pos := by simp [activate, reportPool, report]
      lastError_iff := by simp [activate, reportPool, report] }
  opened_eq := hopened

/-- **An opening keeps order**: it closes what was open, and ends active or in error. -/
theorem IsOrderly.reopen (h : r.IsOrderly) (retries : Nat) (meanwhile : PoolState) :
    (r.openPool s retries meanwhile).2.IsOrderly := by
  obtain ⟨o, answer, sought, heq, hsession, hopened, hclosed, -⟩ :=
    openPool_ledger s retries meanwhile r
  have hslot := congrArg Session.slot hsession
  -- What was opened before is closed by now.
  have hbalance : sought.opened = sought.closed ++ answer.toOption.toList := by
    rw [hopened, hclosed, h.opened_eq]
  rw [heq]
  cases answer with
  | error e =>
      refine isOrderly_fail (congrArg Slot.handle hslot) (congrArg Slot.fingerprint hslot) ?_
      rwa [Except.toOption, Option.toList_none, List.append_nil] at hbalance
  | ok pool => exact isOrderly_activate hbalance

theorem IsOrderly.close (h : r.IsOrderly) : (r.closePool s).IsOrderly := by
  obtain ⟨-, hopened, hclosed⟩ := ledger_closeTo s .closed r
  have hslot := slot_closeTo s .closed r
  rw [closePool]
  refine ⟨⟨?_, ?_, ?_, ?_, ?_⟩, ?_⟩
  · simp [hslot]
  · simp [hslot]
  · simp [hslot]
  · simp [hslot]
  · rw [hslot]
    exact h.slot.lastError_iff
  · rw [hopened, hclosed, hslot, Option.toList_none, List.append_nil, h.opened_eq]

/-- **Every move keeps order.** -/
theorem isOrderly_of_moves {P : Policy → Prop} (hmoves : Moves s P r r') (h : r.IsOrderly) :
    r'.IsOrderly := by
  induction hmoves with
  | refl => exact h
  | change _ _ ih => exact ⟨ih.slot, ih.opened_eq⟩
  | look _ ih => exact ih.look
  | call _ hsession hcalls ih => exact ih.call hsession hcalls
  | reopen _ retries meanwhile _ ih => exact ih.reopen s retries meanwhile
  | close _ ih => exact ih.close s

theorem isOrderly_afterActs (acts : List Act) (h : r.IsOrderly) :
    (r.afterActs s acts).IsOrderly :=
  afterActs_of_moves s (isOrderly_of_moves s) acts h

end Run

end SqlGateway
