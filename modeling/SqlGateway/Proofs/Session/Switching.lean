import SqlGateway.Proofs.Policy.Update
import SqlGateway.Proofs.Session.Renewal

/-!
# Switches That Fail

A switch first points the policy at the new target and opens a pool there. If that fails, the
settings from before are made again from their texts, and a pool is opened with those. For a
policy that updates can lead to, the texts lead back to exactly the policy from before: what the
policy says besides is not touched by the settings of a target, and an opening that fails leaves
the policy alone. Only the plugin can be another at the end, since the policy takes over what
the second opening found accepted.

None of this depends on the pool that the session had, nor on what the server answers.

## Main results

* `switch_opened`, `switch_failed`: what a valid switch does.
* `switch_undone`: a switch that fails is undone, and one that succeeds is complete.
-/

namespace SqlGateway.Run

variable {σ : Type} {s : Server σ} {r r' : Run σ} {t : Target}

/-- A session with another policy in place. -/
def withPolicy (p : Policy) (r : Run σ) : Run σ :=
  { r with live := r.live.replace p }

/-- A session that is pointed at a target, before a pool is opened there. -/
def pointed (t : Target) (r : Run σ) : Run σ :=
  r.withPolicy (r.live.policy.pointedAt t.trimmed)

/-- Settings that the policy accepts put another policy in place. -/
theorem update_eq_withPolicy {entries : List (String × String)} {p : Policy}
    (h : r.live.policy.update entries = .ok p) : r.update entries = (.ok (), r.withPolicy p) := by
  rw [update, LivePolicy.update, h]
  rfl

theorem update_entries_eq (hreachable : r.live.policy.Reachable) (ht : t.faults = []) :
    r.update t.entries = (.ok (), r.pointed t) :=
  update_eq_withPolicy (hreachable.update_entries_of_faults ht)

/-- A valid switch has succeeded as soon as a pool is open. -/
theorem switch_opened (hreachable : r.live.policy.Reachable) (ht : t.faults = [])
    (hopen : (r.pointed t).openPool s maxAuthRetries .closed = (.ok (), r')) :
    r.switch s t = (.ok (), r'.reportSession .info "Switched database"
      [.inQuotes "host" t.host, .inQuotes "database" t.database]) := by
  rw [switch, if_neg (not_not_intro ht), update_entries_eq hreachable ht]
  simp only [andThen, hopen]

/-- A pool that could not be opened leaves a session that is still pointed at the target. -/
theorem policy_of_failed {e : GatewayError}
    (hopen : (r.pointed t).openPool s maxAuthRetries .closed = (.error e, r')) :
    r'.live.policy = r.live.policy.pointedAt t.trimmed := by
  rw [(openPool_error hopen).1]
  rfl

/-- The session after a switch failed with an error, with the policy `p` in place again. -/
def restored (p : Policy) (e : GatewayError) (failed : Run σ) : Run σ :=
  (failed.reportSession .warn "Database switch failed, restoring previous settings"
    [.shown "error" e.message]).withPolicy p

/-- **A valid switch that cannot open a pool** puts the policy from before in place again and
opens a pool with this policy. -/
theorem switch_failed (hreachable : r.live.policy.Reachable) (ht : t.faults = [])
    {e : GatewayError} (hopen : (r.pointed t).openPool s maxAuthRetries .closed = (.error e, r')) :
    let reopened := (r'.restored r.live.policy e).openPool s maxAuthRetries .closed
    (r.switch s t).1 = .error (.connection ("Failed to switch to " ++ t.user ++ "@" ++ t.host ++
      "/" ++ t.database ++ ": " ++ e.message)) ∧
    (r.switch s t).2.toSession = reopened.2.toSession ∧
    (r.switch s t).2.server = reopened.2.server ∧ (r.switch s t).2.calls = reopened.2.calls := by
  have hrestored : (r'.reportSession .warn "Database switch failed, restoring previous settings"
      [.shown "error" e.message]).update r.live.policy.connectionEntries =
      (.ok (), r'.restored r.live.policy e) := by
    apply update_eq_withPolicy
    have hpolicy := policy_of_failed hopen
    exact hpolicy ▸ hreachable.update_connectionEntries t.trimmed
  intro reopened
  rw [switch, if_neg (not_not_intro ht), update_entries_eq hreachable ht]
  simp only [andThen, hopen]
  rw [switchBack, hrestored]
  refine ⟨rfl, ?_⟩
  simp only [andThen]
  split
  · rename_i heq
    have hreopened : reopened = _ := heq
    rw [hreopened]
    exact ⟨rfl, rfl, rfl⟩
  · rename_i heq
    have hreopened : reopened = _ := heq
    rw [hreopened]
    exact ⟨rfl, rfl, rfl⟩

variable (s)

/-- **A switch that fails is undone**, whatever pool the session had and whatever the server
answers, for every policy that updates can lead to.

* If the target is not valid, then nothing happens but that the caller is told.
* If no pool can be opened at the target, then the policy is afterwards what it was before, but
  for the plugin. Another pool was asked for with the policy from before; if it could be opened,
  then the session is active with a pool that has the settings from before, and otherwise the
  session is in error.
* If a pool can be opened at the target, then the session is active with a pool that has the
  trimmed settings of the target, and the next connection asks for no other. -/
theorem switch_undone (t : Target) (r : Run σ) (hreachable : r.live.policy.Reachable) :
    (t.faults ≠ [] →
      r.switch s t = (.error (.validation (String.intercalate ", " t.faults)), r)) ∧
    (t.faults = [] → ∀ (e : GatewayError) (failed : Run σ),
      (r.pointed t).openPool s maxAuthRetries .closed = (.error e, failed) →
      let reopened := (failed.restored r.live.policy e).openPool s maxAuthRetries .closed
      let after := (r.switch s t).2
      (r.switch s t).1 = .error (.connection ("Failed to switch to " ++ t.user ++ "@" ++ t.host ++
        "/" ++ t.database ++ ": " ++ e.message)) ∧
      after.toSession = reopened.2.toSession ∧ after.server = reopened.2.server ∧
      after.calls = reopened.2.calls ∧
      (∃ plugin, after.live.policy = { r.live.policy with authPlugin := plugin }) ∧
      (after.slot.state = .active ∨ after.slot.state = .error) ∧
      (after.slot.state = .active ↔ reopened.1 = .ok ()) ∧
      (after.slot.state = .active →
        ∃ h, after.slot.handle = some h ∧ h.params.Matches r.live.policy)) ∧
    (t.faults = [] → ∀ opened : Run σ,
      (r.pointed t).openPool s maxAuthRetries .closed = (.ok (), opened) →
      let after := (r.switch s t).2
      (r.switch s t).1 = .ok () ∧ after.slot.state = .active ∧
      (∃ h, after.slot.handle = some h ∧
        h.params.Matches (r.live.policy.pointedAt t.trimmed)) ∧
      (after.connect s).2.attempts = after.attempts) := by
  refine ⟨fun hinvalid => ?_, fun hvalid e failed hfailed => ?_, fun hvalid opened hopened => ?_⟩
  · exact if_pos hinvalid
  · have hswitch := switch_failed hreachable hvalid hfailed
    generalize r.switch s t = switched at hswitch ⊢
    intro reopened after
    obtain ⟨hanswer, hsession, hserver, hcalls⟩ := hswitch
    refine ⟨hanswer, hsession, hserver, hcalls, ?_⟩
    have hslot : after.slot = reopened.2.slot := congrArg Session.slot hsession
    have hlive : after.live = reopened.2.live := congrArg Session.live hsession
    rw [hslot, hlive]
    rcases hreopened : reopened with ⟨e' | _, r₂⟩
    · obtain ⟨hkept, -, hstate⟩ := openPool_error hreopened
      have hnot : r₂.slot.state ≠ .active := by
        rw [hstate]
        exact nofun
      refine ⟨⟨r.live.policy.authPlugin, ?_⟩, .inr hstate, iff_of_false hnot nofun,
        fun hactive => absurd hactive hnot⟩
      rw [hkept]
      rfl
    · obtain ⟨h, hmatches, hopen, hpolicy⟩ := openDuring_ok .refl hreopened
      exact ⟨⟨_, hpolicy⟩, .inl hopen.state_eq, iff_of_true hopen.state_eq rfl,
        fun _ => ⟨h, hopen.handle_eq, hmatches⟩⟩
  · have hanswer := congrArg Prod.fst (switch_opened hreachable hvalid hopened)
    have hsession : (r.switch s t).2.toSession = opened.toSession :=
      congrArg (fun x => x.2.toSession) (switch_opened hreachable hvalid hopened)
    generalize r.switch s t = switched at hanswer hsession ⊢
    intro after
    have hlive : after.live = opened.live := congrArg Session.live hsession
    obtain ⟨h, hagrees, hopen⟩ := agrees_of_openPool hopened
    have hpointed : h.params.Matches (r.live.policy.pointedAt t.trimmed) := by
      obtain ⟨_, -, -, hpolicy⟩ := openDuring_ok .refl hopened
      have hmatches := hagrees.toMatches
      rwa [hpolicy, ConnectParams.matches_withPlugin] at hmatches
    have hafter : after.IsOpenWith h opened.live.policy := hopen.call hsession
    have hagrees' : h.params.Agrees after.live.policy := hlive ▸ hagrees
    refine ⟨hanswer, hafter.state_eq, ⟨h, hafter.handle_eq, hpointed⟩, ?_⟩
    by_contra hasked
    exact (hafter.attempts_connect_iff hagrees (hlive ▸ Policy.tells_self _)).mp hasked hagrees'

/-- A server that lacks a database and fails nowhere else. -/
def lacking (database : String) : Server Script :=
  { Script.server with
    openPool := fun params script =>
      if params.database = database then (.error (.connection "Unknown database"), script)
      else Script.server.openPool params script }

/-- A switch to a database that the server lacks: the session goes on with the pool of before. -/
theorem switch_undone_of_lacking :
    ∃ t : Target, t.faults = [] ∧ t.database = "other" ∧
      (fresh .initial).live.policy.Reachable ∧
      ∃ (e : GatewayError) (after : Run Script) (h : Handle),
        (fresh .initial).switch (lacking "other") t = (.error e, after) ∧
        after.live.policy.host = "localhost" ∧ after.slot.state = .active ∧
        after.slot.handle = some h ∧ h.params.host = "localhost" ∧ h.params.database = "" := by
  let t : Target := ⟨"db2", 3307, "app", "secret", "other"⟩
  have hfaults : t.faults = [] := by decide +kernel
  let failed : Run Script :=
    (((fresh .initial).pointed t).openPool (lacking "other") maxAuthRetries .closed).2
  have hanswer : (((fresh .initial).pointed t).openPool (lacking "other") maxAuthRetries
      .closed).1 = .error (.connection "Unknown database") := by
    decide +kernel
  have hfailed : ((fresh .initial).pointed t).openPool (lacking "other") maxAuthRetries .closed =
      (.error (.connection "Unknown database"), failed) := by
    rw [← hanswer]
  have hactive : ((fresh .initial).switch (lacking "other") t).2.slot.state = .active := by
    decide +kernel
  obtain ⟨-, hundone, -⟩ := switch_undone (lacking "other") t (fresh .initial) .initial
  obtain ⟨hanswer, -, -, -, ⟨plugin, hpolicy⟩, -, -, hopened⟩ := hundone hfaults _ failed hfailed
  obtain ⟨h, hhandle, hmatches⟩ := hopened hactive
  refine ⟨t, hfaults, rfl, .initial, ?_⟩
  generalize (fresh .initial).switch (lacking "other") t = switched at *
  obtain ⟨answer, after⟩ := switched
  exact ⟨_, after, h, Prod.ext hanswer rfl, by rw [hpolicy]; rfl, hactive, hhandle,
    hmatches.host_eq, hmatches.database_eq⟩

end SqlGateway.Run
