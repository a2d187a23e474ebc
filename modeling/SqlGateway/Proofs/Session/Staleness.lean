import SqlGateway.Proofs.Policy.Fingerprint
import SqlGateway.Session.Pool
import SqlGateway.Server.Scripted

/-!
# How a Stale Pool Is Noticed

A pool is opened from a policy, and the policy goes on changing. `IsOpenWith h p` says that the
pool `h` is open, that its fingerprint is that of the policy `p`, and that a generation which
was already looked at stands for a policy with that fingerprint. An opening that succeeds
brings this about, and nothing but closing the pool ends it (`KeepsPool`): not a change of the
policy, not a look at the pool, not a statement that is run. So a look finds the pool stale
exactly if the policy has another fingerprint by then, however many changes and looks came in
between.

## Main results

* `openDuring_ok`: what an opening that succeeds leaves, whatever others do meanwhile.
* `IsOpenWith.keepsPool`: the invariant holds as long as the pool is kept.
* `isStale_iff`: what a look finds.
* `change_noticed`: which changes of the connection settings a look finds.
-/

namespace SqlGateway

/-! ### Changes of a policy -/

namespace LivePolicy

/-- What becomes of a policy when others are put in place, one after another. -/
inductive Follows (l : LivePolicy) : LivePolicy → Prop
  | refl : Follows l l
  | replace {l' : LivePolicy} (h : Follows l l') (p : Policy) : Follows l (l'.replace p)

variable {l l' : LivePolicy}

/-- An update puts a policy in place. -/
theorem follows_of_update {entries : List (String × String)} (h : l.update entries = .ok l') :
    l.Follows l' := by
  rw [update] at h
  cases hupdate : l.policy.update entries with
  | error e =>
      rw [hupdate] at h
      cases h
  | ok p =>
      rw [hupdate] at h
      cases h
      exact .replace .refl p

theorem follows_setAuthPlugin (l : LivePolicy) (plugin : Option AuthPlugin) :
    l.Follows (l.setAuthPlugin plugin) :=
  .replace .refl _

/-- Every change is counted. -/
theorem Follows.eq_or_lt (h : l.Follows l') : l' = l ∨ l.generation < l'.generation := by
  induction h with
  | refl => exact .inl rfl
  | replace h p ih =>
      refine .inr (Nat.lt_succ_of_le ?_)
      rcases ih with rfl | hlt
      · exact Nat.le_refl _
      · exact Nat.le_of_lt hlt

theorem Follows.generation_le (h : l.Follows l') : l.generation ≤ l'.generation := by
  rcases h.eq_or_lt with rfl | hlt
  · exact Nat.le_refl _
  · exact Nat.le_of_lt hlt

end LivePolicy

/-! ### Parameters -/

/-- Whether a pool with these parameters connects as a policy says, but for the plugin. -/
structure ConnectParams.Matches (c : ConnectParams) (p : Policy) : Prop where
  host_eq : c.host = p.host
  port_eq : c.port = p.port
  user_eq : c.user = p.user
  password_eq : c.password = p.password
  database_eq : c.database = p.database
  connectTimeout_eq : c.connectTimeout = .ofSeconds p.connectTimeout
  minConnections_eq : c.minConnections = p.poolMin
  maxConnections_eq : c.maxConnections = p.poolMax

theorem Policy.matches_connectParams (p : Policy) : p.connectParams.Matches p :=
  ⟨rfl, rfl, rfl, rfl, rfl, rfl, rfl, rfl⟩

/-- Parameters match a policy whatever plugin is put into them. -/
theorem ConnectParams.Matches.withPlugin {c : ConnectParams} {p : Policy} (h : c.Matches p)
    (plugin : Option AuthPlugin) : { c with authPlugin := plugin }.Matches p :=
  ⟨h.host_eq, h.port_eq, h.user_eq, h.password_eq, h.database_eq, h.connectTimeout_eq,
    h.minConnections_eq, h.maxConnections_eq⟩

namespace Run

variable {σ : Type} {s : Server σ} {r r' : Run σ}

/-! ### Openings -/

/-- A pool that the server opens has the parameters that were asked for. -/
theorem params_of_callOpen {params : ConnectParams} {h : Handle}
    (hok : (r.callOpen s params).1 = .ok h) : h.params = params := by
  rw [callOpen] at hok
  generalize s.openPool params r.server = answer at hok
  obtain ⟨_ | number, server⟩ := answer
  · cases hok
  · cases hok
    rfl

/-- Asking for a pool with one plugin after another leaves the session alone. -/
theorem toSession_tryPlugins (params : ConnectParams) (plugins : List (Option AuthPlugin))
    (last : String) (r : Run σ) :
    (r.tryPlugins s params plugins last).2.toSession = r.toSession := by
  induction plugins generalizing last r with
  | nil => rfl
  | cons plugin plugins ih =>
      have hopen : ((r.reportPool .info "Trying authentication plugin"
          [pluginField plugin]).callOpen s { params with authPlugin := plugin }).2.toSession =
          r.toSession := rfl
      rw [tryPlugins]
      split
      · rename_i heq
        rwa [heq] at hopen
      · rename_i heq
        rw [heq] at hopen
        exact (ih _ _).trans hopen

/-- A plugin that is accepted gives a pool with the parameters and that plugin. -/
theorem params_of_tryPlugins {params : ConnectParams} {plugins : List (Option AuthPlugin)}
    {last : String} {h : Handle} (hok : (r.tryPlugins s params plugins last).1 = .ok h) :
    ∃ plugin, h.params = { params with authPlugin := plugin } := by
  induction plugins generalizing last r with
  | nil => cases hok
  | cons plugin plugins ih =>
      rw [tryPlugins] at hok
      split at hok
      · rename_i heq
        cases hok
        exact ⟨plugin, params_of_callOpen (by rw [heq])⟩
      · exact ih hok

/-- Asking for a pool leaves the session alone. -/
theorem toSession_seekPool (retries : Nat) (params : ConnectParams) (r : Run σ) :
    (r.seekPool s retries params).2.toSession = r.toSession := by
  have hopen : (r.callOpen s params).2.toSession = r.toSession := rfl
  rw [seekPool]
  split
  · rename_i heq
    rwa [heq] at hopen
  · rename_i message r' heq
    rw [heq] at hopen
    split
    · exact hopen
    · have htry := toSession_tryPlugins (s := s) params (AuthPlugin.fallbackOrder.take retries)
        message (r'.reportPool .warn message [])
      split
      · rename_i heq'
        rw [heq'] at htry
        exact htry.trans hopen
      · rename_i heq'
        rw [heq'] at htry
        exact htry.trans hopen
  · rename_i heq
    rwa [heq] at hopen

/-- A pool that is found has the parameters, with some plugin. -/
theorem params_of_seekPool {retries : Nat} {params : ConnectParams} {h : Handle}
    (hok : (r.seekPool s retries params).1 = .ok h) :
    ∃ plugin, h.params = { params with authPlugin := plugin } := by
  rw [seekPool] at hok
  split at hok
  · rename_i heq
    cases hok
    exact ⟨params.authPlugin, params_of_callOpen (by rw [heq])⟩
  · split at hok
    · cases hok
    · split at hok
      · rename_i heq
        cases hok
        exact params_of_tryPlugins (by rw [heq])
      · cases hok
  · cases hok

theorem live_closeTo (next : PoolState) (r : Run σ) : (r.closeTo s next).live = r.live := by
  rw [closeTo]
  split <;> rfl

/-- An opening starts from the policy in place. -/
theorem startOpening_spec (meanwhile : PoolState) (r : Run σ) :
    (r.startOpening s meanwhile).1.generation = r.live.generation ∧
      (r.startOpening s meanwhile).1.params.Matches r.live.policy ∧
      (r.startOpening s meanwhile).2.live = r.live := by
  have hlive := live_closeTo (s := s) meanwhile r
  have hparams : (r.startOpening s meanwhile).1.params.Matches
      (r.closeTo s meanwhile).live.policy :=
    (Policy.matches_connectParams _).withPlugin _
  exact ⟨congrArg LivePolicy.generation hlive, hlive ▸ hparams, hlive⟩

/-- The pool `h` is open with the fingerprint of the policy `p`, and a generation that was
looked at stands for a policy with that fingerprint. -/
structure IsOpenWith (h : Handle) (p : Policy) (r : Run σ) : Prop where
  state_eq : r.slot.state = .active
  handle_eq : r.slot.handle = some h
  fingerprint_eq : r.slot.fingerprint = some p.fingerprint
  generation_le : r.slot.generation ≤ r.live.generation
  looked : r.slot.generation = r.live.generation →
    r.live.policy.fingerprint = p.fingerprint

/-- Putting a pool in place changes nothing of the policy but the plugin. -/
theorem activate_spec (h : Handle) (generation : Nat) (r : Run σ) :
    r.live.Follows (r.activate h generation).live ∧
      (r.activate h generation).live.policy =
        { r.live.policy with authPlugin := h.params.authPlugin } := by
  have hlive : (r.activate h generation).live =
      if r.live.policy.authPlugin = h.params.authPlugin then r.live
        else r.live.setAuthPlugin h.params.authPlugin := rfl
  rw [hlive]
  split
  · rename_i heq
    exact ⟨.refl, by rw [← heq]⟩
  · exact ⟨LivePolicy.follows_setAuthPlugin _ _, rfl⟩

/-- **What an opening that succeeds leaves.** The pool was opened as the policy said when the
opening began, but it has the fingerprint of the policy that is in place when it ends. -/
theorem openDuring_ok {interference : LivePolicy → LivePolicy} {retries : Nat}
    {meanwhile : PoolState} (hfollows : r.live.Follows (interference r.live))
    (hopen : r.openDuring s interference retries meanwhile = (.ok (), r')) :
    ∃ h : Handle, h.params.Matches r.live.policy ∧ r'.IsOpenWith h r'.live.policy ∧
      r'.live.policy =
        { (interference r.live).policy with authPlugin := h.params.authPlugin } := by
  obtain ⟨hgeneration, hparams, hlive⟩ := startOpening_spec (s := s) meanwhile r
  rw [openDuring] at hopen
  generalize r.startOpening s meanwhile = start at hopen hgeneration hparams hlive
  obtain ⟨o, r₁⟩ := start
  have hsession := toSession_seekPool (s := s) retries o.params r₁
  have hok : ∀ h, (r₁.seekPool s retries o.params).1 = .ok h →
      ∃ plugin, h.params = { o.params with authPlugin := plugin } :=
    fun h => params_of_seekPool
  dsimp only at hopen hgeneration hparams hlive
  generalize r₁.seekPool s retries o.params = sought at hopen hsession hok
  obtain ⟨e | h, r₂⟩ := sought
  · cases hopen
  · obtain ⟨accepted, haccepted⟩ := hok h rfl
    have hlive₂ : r₂.live = r.live := (congrArg Session.live hsession).trans hlive
    cases hopen
    dsimp only
    rw [hlive₂]
    obtain ⟨hkept, hpolicy⟩ := activate_spec h o.generation
      { r₂ with live := interference r.live }
    refine ⟨h, ?_, ⟨rfl, rfl, rfl, ?_, fun _ => rfl⟩, hpolicy⟩
    · rw [haccepted]
      exact hparams.withPlugin accepted
    · exact hgeneration ▸ Nat.le_trans hfollows.generation_le hkept.generation_le

/-! ### While the pool is kept -/

/-- What can happen to a run without its pool being opened or closed. -/
inductive KeepsPool (r : Run σ) : Run σ → Prop
  | refl : KeepsPool r r
  /-- Others change the policy. -/
  | change {r' : Run σ} {l : LivePolicy} (h : KeepsPool r r') (hfollows : r'.live.Follows l) :
      KeepsPool r { r' with live := l }
  /-- The settings are compared. -/
  | look {r' : Run σ} (h : KeepsPool r r') : KeepsPool r r'.isStale.2
  /-- The server is called and events are reported. -/
  | call {r' r'' : Run σ} (h : KeepsPool r r') (hsession : r''.toSession = r'.toSession) :
      KeepsPool r r''

variable {h : Handle} {p q : Policy}

/-- A look at the pool leaves the policy alone. -/
theorem live_isStale (r : Run σ) : r.isStale.2.live = r.live := by
  rw [isStale]
  split
  · rfl
  · split <;> rfl

/-- **What a look finds.** The pool is stale if the policy has another fingerprint. -/
theorem isStale_iff (hopen : r.IsOpenWith h p) :
    r.isStale.1 = true ↔ r.live.policy.fingerprint ≠ p.fingerprint := by
  rw [isStale, hopen.state_eq, hopen.fingerprint_eq]
  split
  · rename_i hlooked
    have heq := hopen.looked (hlooked.resolve_left (by simp)).symm
    simp [heq]
  · split
    · rename_i heq
      simp [Option.some.inj heq]
    · rename_i hne
      simpa [eq_comm] using hne

theorem IsOpenWith.change {l : LivePolicy} (hopen : r.IsOpenWith h p)
    (hfollows : r.live.Follows l) : IsOpenWith h p { r with live := l } where
  state_eq := hopen.state_eq
  handle_eq := hopen.handle_eq
  fingerprint_eq := hopen.fingerprint_eq
  generation_le := Nat.le_trans hopen.generation_le hfollows.generation_le
  looked := by
    intro heq
    rcases hfollows.eq_or_lt with rfl | hlt
    · exact hopen.looked heq
    · exact absurd (heq ▸ hopen.generation_le) (Nat.not_le_of_lt hlt)

theorem IsOpenWith.look (hopen : r.IsOpenWith h p) : r.isStale.2.IsOpenWith h p := by
  rw [isStale]
  split
  · exact hopen
  · split
    · rename_i heq
      exact
        { state_eq := hopen.state_eq
          handle_eq := hopen.handle_eq
          fingerprint_eq := hopen.fingerprint_eq
          generation_le := Nat.le_refl _
          looked := fun _ => Option.some.inj (heq.symm.trans hopen.fingerprint_eq) }
    · exact hopen

theorem IsOpenWith.call (hopen : r.IsOpenWith h p) (hsession : r'.toSession = r.toSession) :
    r'.IsOpenWith h p := by
  have hslot : r'.slot = r.slot := congrArg Session.slot hsession
  have hlive : r'.live = r.live := congrArg Session.live hsession
  exact
    { state_eq := by rw [hslot, hopen.state_eq]
      handle_eq := by rw [hslot, hopen.handle_eq]
      fingerprint_eq := by rw [hslot, hopen.fingerprint_eq]
      generation_le := by rw [hslot, hlive]; exact hopen.generation_le
      looked := by rw [hslot, hlive]; exact hopen.looked }

/-- **As long as the pool is kept**, it is known which policy has its fingerprint. -/
theorem IsOpenWith.keepsPool (hopen : r.IsOpenWith h p) (hkeeps : r.KeepsPool r') :
    r'.IsOpenWith h p := by
  induction hkeeps with
  | refl => exact hopen
  | change _ hfollows ih => exact ih.change hfollows
  | look _ ih => exact ih.look
  | call _ hsession ih => exact ih.call hsession

/-! ### Changes -/

/-- **Which changes a look finds.** Equal fingerprints mean equal settings, plugin, timeout and
bounds without exception and the texts if they have as many bars; and so a look, whenever it
comes, finds every change of the connection settings under the same condition. -/
theorem change_noticed (hdistinguished : p.Distinguished q) :
    (p.ConnectsAlike q ↔ p.fingerprint = q.fingerprint ∧ p.BarsAlike q) ∧
    (p.fingerprint = q.fingerprint → p.authPlugin = q.authPlugin ∧
      p.connectTimeout = q.connectTimeout ∧ p.poolMin = q.poolMin ∧ p.poolMax = q.poolMax) ∧
    ∀ {σ : Type} (s : Server σ) {r opened later : Run σ} {retries : Nat} {meanwhile : PoolState},
      r.openPool s retries meanwhile = (.ok (), opened) → opened.KeepsPool later →
      opened.live.policy = p → later.live.policy = q →
        (later.isStale.1 = true ↔ p.fingerprint ≠ q.fingerprint) ∧
        (p.BarsAlike q → (later.isStale.1 = true ↔ ¬p.ConnectsAlike q)) := by
  refine ⟨Policy.connectsAlike_iff_fingerprint hdistinguished, fun h =>
    Policy.eq_of_connectionText (hdistinguished h), ?_⟩
  rintro σ s r opened later retries meanwhile hok hkeeps rfl rfl
  obtain ⟨h, -, hopen, -⟩ := openDuring_ok .refl hok
  have hstale := isStale_iff (hopen.keepsPool hkeeps)
  refine ⟨hstale.trans ne_comm, fun hbars => ?_⟩
  rw [hstale, Policy.connectsAlike_iff_fingerprint hdistinguished, eq_comm]
  simp [hbars]

/-- A session that has done nothing yet, at a server that fails nowhere. -/
def fresh (p : Policy) : Run Script :=
  ⟨.new "s" p, ⟨.initial, [], []⟩⟩

/-- Another database is noticed, also if a look came in between that found nothing. -/
theorem change_noticed_of_database :
    ∃ opened : Run Script,
      (fresh .initial).openPool Script.server maxAuthRetries .closed = (.ok (), opened) ∧
      ∃ l : LivePolicy, opened.isStale.2.live.update [("MYSQL_DATABASE", "appdb")] = .ok l ∧
        ({ opened.isStale.2 with live := l } : Run Script).isStale.1 = true := by
  have hdistinguished : Policy.initial.Distinguished
      { Policy.initial with database := "appdb" } := by
    intro heq
    exact absurd heq (by decide +kernel)
  let opened := ((fresh .initial).openPool Script.server maxAuthRetries .closed).2
  have hopen : (fresh .initial).openPool Script.server maxAuthRetries .closed =
      (.ok (), opened) := rfl
  have hupdate : opened.isStale.2.live.update [("MYSQL_DATABASE", "appdb")] =
      .ok ⟨{ Policy.initial with database := "appdb" }, 1⟩ := by
    decide +kernel
  have hnoticed := (change_noticed hdistinguished).2.2 Script.server hopen
    (.change (.look .refl) (LivePolicy.follows_of_update hupdate)) rfl rfl
  exact ⟨opened, hopen, _, hupdate, hnoticed.1.mpr (by decide +kernel)⟩

/-- A bar that moves from the user's name to the password is not noticed. -/
theorem change_unnoticed_of_bar :
    ∃ p q : Policy,
      Policy.ofEntries [("MYSQL_USER", "a|b"), ("MYSQL_PASSWORD", "c")] = .ok p ∧
      p.update [("MYSQL_USER", "a"), ("MYSQL_PASSWORD", "b|c")] = .ok q ∧
      p.connectionText = q.connectionText ∧ p.fingerprint = q.fingerprint ∧
      p.user ≠ q.user ∧ p.password ≠ q.password ∧
      ∃ opened : Run Script,
        (fresh p).openPool Script.server maxAuthRetries .closed = (.ok (), opened) ∧
        ({ opened with live := opened.live.replace q } : Run Script).isStale.1 = false := by
  refine ⟨{ Policy.initial with user := "a|b", password := "c" },
    { Policy.initial with user := "a", password := "b|c" }, by decide +kernel, by decide +kernel,
    by decide +kernel, by decide +kernel, by decide, by decide, _, rfl, by decide +kernel⟩

end Run

end SqlGateway
