import SqlGateway.Proofs.Session.Interference
import SqlGateway.Proofs.Session.Ledger

/-!
# When a Pool Is Opened Anew

The policy of a session changes while its pool is open, and the next connection must come from
a pool with the settings of by then. Where nothing else happens while a pool is being opened,
this is so: the open pool was opened with the connection settings of a policy whose fingerprint
is on record (`OpenedFrom`), plugin included, since the policy takes over the plugin that was
accepted. Every act of a session keeps this, and the policies in question are those that were in
force after some act (`Run.policies`).

When a connection is wanted, the fingerprint on record is compared with that of the policy. If
it tells the two policies apart (`Policy.Tells`), then another pool is opened exactly if a
connection setting is another than that of the open pool.

## Main results

* `openedFrom_afterActs`: with which policies the open pool of a session was opened.
* `agrees_of_connect`: a connection comes from a pool with the current settings.
* `attempts_connect_iff`: a pool is asked for exactly if the settings are others.
* `connections_are_current`: both, after every list of acts and also for requests.
-/

namespace SqlGateway

/-! ### Parameters and policies -/

/-- A pool with these parameters connects as a policy says, with its plugin. -/
structure ConnectParams.Agrees (c : ConnectParams) (p : Policy) : Prop extends c.Matches p where
  authPlugin_eq : c.authPlugin = p.authPlugin

/-- Parameters that agree with one policy agree with those that connect alike. -/
theorem ConnectParams.Agrees.agrees_iff {c : ConnectParams} {p q : Policy} (h : c.Agrees p) :
    c.Agrees q ↔ p.ConnectsAlike q := by
  constructor
  · intro hq
    have htimeout : Duration.ofSeconds p.connectTimeout = .ofSeconds q.connectTimeout :=
      h.connectTimeout_eq.symm.trans hq.connectTimeout_eq
    exact
      { host_eq := h.host_eq.symm.trans hq.host_eq
        port_eq := h.port_eq.symm.trans hq.port_eq
        user_eq := h.user_eq.symm.trans hq.user_eq
        password_eq := h.password_eq.symm.trans hq.password_eq
        database_eq := h.database_eq.symm.trans hq.database_eq
        authPlugin_eq := h.authPlugin_eq.symm.trans hq.authPlugin_eq
        connectTimeout_eq := congrArg Duration.seconds htimeout
        poolMin_eq := h.minConnections_eq.symm.trans hq.minConnections_eq
        poolMax_eq := h.maxConnections_eq.symm.trans hq.maxConnections_eq }
  · intro halike
    exact ⟨h.toMatches.of_connectsAlike halike, h.authPlugin_eq.trans halike.authPlugin_eq⟩

/-- The fingerprint tells one policy from another, unless they connect alike. -/
def Policy.Tells (p q : Policy) : Prop :=
  p.fingerprint = q.fingerprint → p.ConnectsAlike q

theorem Policy.tells_self (p : Policy) : p.Tells p := fun _ =>
  ⟨rfl, rfl, rfl, rfl, rfl, rfl, rfl, rfl, rfl⟩

/-- It does if the two digests do not collide and the texts have no bars. -/
theorem Policy.tells_of_hasNoBar {p q : Policy} (hdistinguished : p.Distinguished q)
    (hp : p.HasNoBar) (hq : q.HasNoBar) : p.Tells q := fun heq =>
  (connectsAlike_iff_fingerprint hdistinguished).mpr ⟨heq, hp.barsAlike hq⟩

theorem Policy.Tells.fingerprint_eq_iff {p q : Policy} (h : p.Tells q) :
    p.fingerprint = q.fingerprint ↔ p.ConnectsAlike q :=
  ⟨h, fun halike => congrArg Digest.sha256 halike.connectionText_eq⟩

namespace Run

variable {σ : Type} {s : Server σ} {r r' : Run σ} {h h₀ : Handle} {P Q : Policy → Prop}

/-! ### What the open pool was opened with -/

/-- If a pool is open, it was opened with the connection settings of a policy that has the
property, and the fingerprint of this policy is on record. -/
def OpenedFrom (P : Policy → Prop) (r : Run σ) : Prop :=
  ∀ h, r.slot.handle = some h → ∃ p, P p ∧ h.params.Agrees p ∧ r.IsOpenWith h p

theorem OpenedFrom.mono (hr : r.OpenedFrom P) (himp : ∀ p, P p → Q p) : r.OpenedFrom Q := by
  intro h hhandle
  obtain ⟨p, hp, hrest⟩ := hr h hhandle
  exact ⟨p, himp p hp, hrest⟩

/-- Nothing is said if no pool is open. -/
theorem openedFrom_of_handle (hnone : r.slot.handle = none) : r.OpenedFrom P := by
  intro h hhandle
  rw [hnone] at hhandle
  cases hhandle

/-- What keeps the pool open as it is keeps what is said of it. -/
theorem OpenedFrom.of_isOpenWith (hr : r.OpenedFrom P) (hhandle : r'.slot.handle = r.slot.handle)
    (hkeeps : ∀ h p, r.IsOpenWith h p → r'.IsOpenWith h p) : r'.OpenedFrom P := by
  intro h hopen
  obtain ⟨p, hp, hagrees, hrecord⟩ := hr h (hhandle ▸ hopen)
  exact ⟨p, hp, hagrees, hkeeps h p hrecord⟩

/-- **An opening that succeeds** leaves a pool that agrees with the policy then in place. -/
theorem agrees_of_openPool {retries : Nat} {meanwhile : PoolState}
    (hopen : r.openPool s retries meanwhile = (.ok (), r')) :
    ∃ h : Handle, h.params.Agrees r'.live.policy ∧ r'.IsOpenWith h r'.live.policy := by
  obtain ⟨h, hmatches, hopened, hpolicy⟩ := openDuring_ok .refl hopen
  have hmatches' : h.params.Matches r'.live.policy := by
    rw [hpolicy, ConnectParams.matches_withPlugin]
    exact hmatches
  exact ⟨h, ⟨hmatches', by rw [hpolicy]⟩, hopened⟩

/-- **An opening that fails** leaves no pool, and the policy as it was. -/
theorem openPool_error {retries : Nat} {meanwhile : PoolState} {e : GatewayError}
    (hfailed : r.openPool s retries meanwhile = (.error e, r')) :
    r'.live = r.live ∧ r'.slot.handle = none ∧ r'.slot.state = .error := by
  obtain ⟨o, answer, sought, heq, hsession, -⟩ := openPool_ledger s retries meanwhile r
  have hlive := congrArg Session.live hsession
  have hslot := congrArg Session.slot hsession
  rw [heq] at hfailed
  cases answer with
  | error e' =>
      cases hfailed
      exact ⟨hlive, congrArg Slot.handle hslot, rfl⟩
  | ok pool => cases hfailed

theorem handle_isStale (r : Run σ) : r.isStale.2.slot.handle = r.slot.handle := by
  rw [isStale]
  split
  · rfl
  · split <;> rfl

/-- **Every move keeps what is known of the open pool**: it was open before, or was opened on
the way. -/
theorem openedFrom_of_moves (hmoves : Moves s Q r r') (hr : r.OpenedFrom P) :
    r'.OpenedFrom fun p => P p ∨ Q p := by
  induction hmoves with
  | refl => exact hr.mono fun _ => .inl
  | change _ hfollows ih => exact ih.of_isOpenWith rfl fun _ _ hopen => hopen.change hfollows
  | look _ ih => exact ih.of_isOpenWith (handle_isStale _) fun _ _ hopen => hopen.look
  | call _ hsession _ ih =>
      exact ih.of_isOpenWith (congrArg (fun session => session.slot.handle) hsession)
        fun _ _ hopen => hopen.call hsession
  | @reopen r₁ _ retries meanwhile hok ih =>
      rcases hopen : r₁.openPool s retries meanwhile with ⟨e | _, r₂⟩
      · exact openedFrom_of_handle (openPool_error hopen).2.1
      · rw [hopen] at hok
        obtain ⟨h, hagrees, hopened⟩ := agrees_of_openPool hopen
        intro h' hhandle
        obtain rfl : h = h' := Option.some.inj (hopened.handle_eq.symm.trans hhandle)
        exact ⟨_, .inr (hok rfl), hagrees, hopened⟩
  | @close r₁ _ ih =>
      exact openedFrom_of_handle (congrArg Slot.handle (slot_closeTo s .closed r₁))

variable (s)

/-- The policies in force before, between and after acts. -/
def policies : List Act → Run σ → List Policy
  | [], r => [r.live.policy]
  | act :: rest, r => r.live.policy :: policies rest (r.perform s act)

theorem mem_policies (acts : List Act) (r : Run σ) : r.live.policy ∈ r.policies s acts := by
  cases acts <;> exact List.mem_cons_self

theorem mem_policies_afterActs (acts : List Act) (r : Run σ) :
    (r.afterActs s acts).live.policy ∈ r.policies s acts := by
  induction acts generalizing r with
  | nil => exact List.mem_singleton_self _
  | cons act rest ih => exact List.mem_cons_of_mem _ (ih _)

/-- **After every list of acts** the open pool was opened with the connection settings of a
policy that was in force after one of them, or before all. -/
theorem openedFrom_afterActs (acts : List Act) (hr : r.OpenedFrom P) :
    (r.afterActs s acts).OpenedFrom fun p => P p ∨ p ∈ r.policies s acts := by
  induction acts generalizing r P with
  | nil => exact hr.mono fun _ => .inl
  | cons act rest ih =>
      have hact := openedFrom_of_moves (settles_perform s act r) hr
      refine (ih hact).mono fun p hp => ?_
      rcases hp with (hp | rfl) | hp
      · exact .inl hp
      · exact .inr (List.mem_cons_of_mem _ (mem_policies s rest _))
      · exact .inr (List.mem_cons_of_mem _ hp)

/-! ### Connections -/

variable {s}

/-- An open pool is not opened on demand. -/
theorem IsOpenWith.ensure_eq {p : Policy} (hopen : r.IsOpenWith h₀ p) :
    r.ensure s = (.ok (), r) := by
  rw [ensure, hopen.state_eq]
  rfl

/-- An open pool is found to be stale if it does not agree with the policy. -/
theorem IsOpenWith.isStale_iff_agrees {p : Policy} (hopen : r.IsOpenWith h₀ p)
    (hagrees : h₀.params.Agrees p) (htells : p.Tells r.live.policy) :
    r.isStale.1 = true ↔ ¬h₀.params.Agrees r.live.policy := by
  rw [isStale_iff hopen, hagrees.agrees_iff, ← htells.fingerprint_eq_iff, ne_comm]

/-- A connection comes from the open pool, or from one that was opened in its place. -/
theorem IsOpenWith.agrees_of_connect {p : Policy} (hopen : r.IsOpenWith h₀ p)
    (hagrees : h₀.params.Agrees p) (htells : p.Tells r.live.policy)
    (hconnect : r.connect s = (.ok h, r')) : h.params.Agrees r'.live.policy := by
  rcases connect_ok hopen hconnect with ⟨hfresh, rfl, hlive⟩ | ⟨-, hmatches, hpolicy⟩
  · rw [hlive]
    by_contra hnot
    rw [(hopen.isStale_iff_agrees hagrees htells).mpr hnot] at hfresh
    cases hfresh
  · have hmatches' : h.params.Matches r'.live.policy := by
      rw [hpolicy, ConnectParams.matches_withPlugin]
      exact hmatches
    exact ⟨hmatches', by rw [hpolicy]⟩

/-- **A connection comes from a pool with the current settings**, whether a pool was open, was
opened on demand, or was opened anew. -/
theorem agrees_of_connect (horderly : r.IsOrderly)
    (hr : r.OpenedFrom (Policy.Tells · r.live.policy))
    (hconnect : r.connect s = (.ok h, r')) : h.params.Agrees r'.live.policy := by
  rcases hhandle : r.slot.handle with _ | h₀
  · have hstate : r.slot.state ≠ .active := by
      rw [ne_eq, ← horderly.slot.handle_iff, hhandle]
      exact Bool.false_ne_true
    by_cases hdemand : r.slot.state.opensOnDemand = true
    · -- What is left to do after the opening is to take a connection of the new pool.
      rcases hopen : r.openPool s maxAuthRetries .closed with ⟨e | _, r₁⟩
      · rw [connect, ensure, if_pos hdemand, hopen] at hconnect
        cases hconnect
      · obtain ⟨h₁, hagrees, hopened⟩ := agrees_of_openPool hopen
        have hconnect₁ : r.connect s = r₁.connect s := by
          rw [connect, ensure, if_pos hdemand, hopen, connect, hopened.ensure_eq]
        rw [hconnect₁] at hconnect
        exact hopened.agrees_of_connect hagrees (Policy.tells_self _) hconnect
    · -- After a failure there is no pool to take a connection from.
      rw [connect, ensure, if_neg hdemand, andThen, refresh, isStale, if_pos (.inl hstate)]
        at hconnect
      have htaken := (checkOut_ok hconnect).1
      rw [hhandle] at htaken
      cases htaken
  · obtain ⟨p, htells, hagrees, hopen⟩ := hr h₀ hhandle
    exact hopen.agrees_of_connect hagrees htells hconnect

/-- Taking a connection of the open pool asks for none. -/
theorem attempts_checkOut (r : Run σ) : (r.checkOut s).2.attempts = r.attempts :=
  (ledger_of_leavesPools (leavesPools_checkOut s r).2).1

theorem attempts_isStale (r : Run σ) : r.isStale.2.attempts = r.attempts := by
  rw [attempts, calls_isStale]
  rfl

/-- **A pool is asked for exactly if the settings are others** than those of the open pool. -/
theorem IsOpenWith.attempts_connect_iff {p : Policy} (hopen : r.IsOpenWith h₀ p)
    (hagrees : h₀.params.Agrees p) (htells : p.Tells r.live.policy) :
    (r.connect s).2.attempts ≠ r.attempts ↔ ¬h₀.params.Agrees r.live.policy := by
  rw [← hopen.isStale_iff_agrees hagrees htells, connect, hopen.ensure_eq, andThen, refresh]
  have hlooked := attempts_isStale r
  generalize r.isStale = looked at hlooked ⊢
  obtain ⟨_ | _, r₁⟩ := looked
  · exact iff_of_false (not_not_intro ((attempts_checkOut r₁).trans hlooked)) Bool.false_ne_true
  · refine iff_of_true (fun heq => ?_) rfl
    have hlt := attempts_lt_openPool s maxAuthRetries .closed
      (r₁.reportPool .warn "Connection settings changed, rebuilding connection pool" [])
    have hkept : (r₁.reportPool .warn "Connection settings changed, rebuilding connection pool"
        []).attempts = r.attempts := hlooked
    rw [hkept] at hlt
    dsimp only at heq
    generalize openPool s maxAuthRetries .closed _ = reopened at heq hlt
    obtain ⟨e | _, r₂⟩ := reopened
    · exact absurd (congrArg List.length heq) (Nat.ne_of_gt hlt)
    · rw [andThen, attempts_checkOut] at heq
      exact absurd (congrArg List.length heq) (Nat.ne_of_gt hlt)

/-! ### Requests -/

/-- **A request uses a pool with the current settings**, if it uses any. -/
theorem agrees_of_serve (horderly : r.IsOrderly)
    (hr : r.OpenedFrom (Policy.Tells · r.live.policy)) (request : Request) :
    Adds (fun c => ∀ pool, c.connection? = some pool →
        pool.params.Agrees (r.serve s request).2.live.policy) r (r.serve s request).2 := by
  have hconnects := connects_serve s request r
  generalize (r.serve s request).2 = served at hconnects ⊢
  have hsilent : ∀ c : Call, c.IsSilent → ∀ pool, c.connection? = some pool →
      pool.params.Agrees served.live.policy := by
    intro c hc pool hpool
    rw [Call.connection?_of_isSilent hc] at hpool
    cases hpool
  cases hconnects with
  | untouched h => exact .of_eq h.calls_eq
  | failed e admitted h hconnect =>
      have hcalls := silent_connect s admitted
      rw [hconnect] at hcalls
      exact Adds.trans (.of_eq h.calls_eq) (hcalls.mono hsilent)
  | taken pool admitted connected h hconnect huses =>
      have hmoves : Moves s (Policy.Tells · r.live.policy) r admitted :=
        Moves.refl.report h.session_eq h.calls_eq
      have hopened := openedFrom_of_moves hmoves hr
      simp only [or_self, ← h.policy_eq] at hopened
      have hagrees := agrees_of_connect (isOrderly_of_moves s hmoves horderly) hopened hconnect
      have hlive : served.live = connected.live := congrArg Session.live huses.session_eq
      have hcalls := silent_connect s admitted
      rw [hconnect] at hcalls
      refine Adds.trans (.of_eq h.calls_eq) ((hcalls.mono hsilent).trans ?_)
      refine huses.calls.mono fun c hc pool' hpool' => ?_
      obtain rfl : pool = pool' := Option.some.inj (hc.symm.trans hpool')
      rw [hlive]
      exact hagrees

variable (s)

/-- **Every connection comes from a pool with the current settings, and no pool is opened
needlessly**, after every list of acts of a session, whatever the server answers. The policies
that were in force may not collide in their digests and have no bars in their texts.

* A connection that is taken comes from a pool that agrees with the policy in force on host,
  port, user, password, database, plugin, timeout and bounds.
* If a pool is open, then taking a connection asks for another exactly if the policy in force
  differs from the open pool on one of these.
* All that a request sends is sent to a pool that agrees with the policy in force. -/
theorem connections_are_current (acts : List Act) (id : String) (p : Policy) (server : σ)
    (hpolicies : ∀ q ∈ (begin id p server).policies s acts,
      q.HasNoBar ∧ ∀ q' ∈ (begin id p server).policies s acts, q.Distinguished q') :
    let r := (begin id p server).afterActs s acts
    (∀ h r', r.connect s = (.ok h, r') → h.params.Agrees r'.live.policy) ∧
    (r.slot.state = .active → ∃ h, r.slot.handle = some h ∧
      ((r.connect s).2.attempts ≠ r.attempts ↔ ¬h.params.Agrees r.live.policy)) ∧
    (∀ request, Adds (fun c => ∀ pool, c.connection? = some pool →
      pool.params.Agrees (r.serve s request).2.live.policy) r (r.serve s request).2) := by
  intro r
  have horderly : r.IsOrderly := isOrderly_afterActs s acts (isOrderly_begin id p server)
  have hcurrent : r.live.policy ∈ (begin id p server).policies s acts :=
    mem_policies_afterActs s acts _
  have hopened : r.OpenedFrom (Policy.Tells · r.live.policy) := by
    have hnone : (begin id p server).OpenedFrom fun _ => False := openedFrom_of_handle rfl
    refine (openedFrom_afterActs s acts hnone).mono fun q hq => ?_
    have hmem := hq.resolve_left not_false
    exact Policy.tells_of_hasNoBar ((hpolicies q hmem).2 _ hcurrent) (hpolicies q hmem).1
      (hpolicies _ hcurrent).1
  refine ⟨fun h r' => agrees_of_connect horderly hopened, fun hactive => ?_,
    agrees_of_serve horderly hopened⟩
  obtain ⟨h, hhandle⟩ := Option.isSome_iff_exists.mp (horderly.slot.handle_iff.mpr hactive)
  obtain ⟨q, htells, hagrees, hopen⟩ := hopened h hhandle
  exact ⟨h, hhandle, hopen.attempts_connect_iff hagrees htells⟩

/-- Another database, set after a connection was taken: the open pool has none yet, another is
asked for, and what is sent next goes to a pool with the new database. -/
theorem connections_are_current_of_database :
    ∃ (acts : List Act) (r : Run Script), r = (fresh .initial).afterActs Script.server acts ∧
      (∀ q ∈ (fresh .initial).policies Script.server acts, q.HasNoBar ∧
        ∀ q' ∈ (fresh .initial).policies Script.server acts, q.Distinguished q') ∧
      r.slot.state = .active ∧ r.live.policy.database = "appdb" ∧
      (∃ h, r.slot.handle = some h ∧ h.params.database = "") ∧
      (r.connect Script.server).2.attempts ≠ r.attempts := by
  let acts : List Act := [.connect, .operation (.update [("MYSQL_DATABASE", "appdb")])]
  let moved : Policy := { Policy.initial with database := "appdb" }
  have hpolicies : (fresh .initial).policies Script.server acts = [.initial, .initial, moved] := by
    decide +kernel
  have hnoBar : Policy.initial.HasNoBar ∧ moved.HasNoBar :=
    ⟨⟨by decide, by decide, by decide, by decide⟩, ⟨by decide, by decide, by decide, by decide⟩⟩
  have hne : Policy.initial.fingerprint ≠ moved.fingerprint := by decide +kernel
  have hclear : ∀ q ∈ (fresh .initial).policies Script.server acts, q.HasNoBar ∧
      ∀ q' ∈ (fresh .initial).policies Script.server acts, q.Distinguished q' := by
    rw [hpolicies]
    simp only [List.mem_cons, List.not_mem_nil, or_false, or_self_left]
    rintro q (rfl | rfl)
    · refine ⟨hnoBar.1, ?_⟩
      rintro q' (rfl | rfl)
      · exact fun _ => rfl
      · exact fun heq => absurd heq hne
    · refine ⟨hnoBar.2, ?_⟩
      rintro q' (rfl | rfl)
      · exact fun heq => absurd heq.symm hne
      · exact fun _ => rfl
  obtain ⟨-, hrenews, -⟩ :=
    connections_are_current Script.server acts "s" .initial .initial hclear
  have hactive : ((fresh .initial).afterActs Script.server acts).slot.state = .active := by
    decide +kernel
  have hpolicy : ((fresh .initial).afterActs Script.server acts).live.policy = moved := by
    decide +kernel
  have hhandle : ((fresh .initial).afterActs Script.server acts).slot.handle =
      some ⟨0, Policy.initial.connectParams⟩ := by
    decide +kernel
  obtain ⟨h, hopen, hiff⟩ := hrenews hactive
  obtain rfl : h = ⟨0, Policy.initial.connectParams⟩ := Option.some.inj (hopen.symm.trans hhandle)
  have hdiffers : ¬(Policy.initial.connectParams).Agrees
      ((fresh .initial).afterActs Script.server acts).live.policy := by
    rw [hpolicy]
    exact fun hagrees => absurd hagrees.database_eq (by decide)
  exact ⟨acts, _, rfl, hclear, hactive, by rw [hpolicy], ⟨_, hopen, rfl⟩, hiff.mpr hdiffers⟩

end Run

end SqlGateway
