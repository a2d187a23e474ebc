import SqlGateway.Proofs.Session.Ledger

/-!
# Looking at the Generation First

A look at an open pool compares generations first, and fingerprints only if the generation of the
policy is not the one that was noted beside the fingerprint. This is a shortcut, and no more: what
it finds is what comparing the fingerprints would find (`Slot.IsOutdated`), also if others change
the policy while a pool is being opened or looked at.

An opening reads the policy four times: for the generation, for the parameters, for the
fingerprint, and to give it the plugin that was accepted. Whatever is done to the policy between
these (`Gaps`), the generation that is noted is the one from before, so that any change which the
fingerprint does not know of has moved the generation on. A look that finds nothing notes the
generation it began with, for the same reason.

`Reaches s r` holds of the runs that can be reached from `r` by openings and looks with changes
in between, by closing, by calls and by further changes, and `IsConfirmed` is what all these steps
keep: a noted generation that is still current stands for the policy in place.

## Main results

* `openAmid_idle`, `lookAmid_idle`: where nothing is changed in between, these are the opening and
  the look of a session.
* `reaches_afterActs`: what acts lead to can be reached.
* `isConfirmed_of_reaches`: the invariant holds of every run that can be reached.
* `shortcut_agrees`: what looks find, whenever they come.
-/

namespace SqlGateway

/-! ### Changes in between -/

/-- What others do to a policy at some time: they put policies in place, one or many or none. -/
structure LivePolicy.Change where
  apply : LivePolicy → LivePolicy
  follows : ∀ l : LivePolicy, l.Follows (apply l)

/-- Nothing is done. -/
def LivePolicy.Change.idle : LivePolicy.Change :=
  ⟨id, fun _ => .refl⟩

/-- What others do to the policy while a pool is being opened. -/
structure Gaps where
  /-- Between the generation and the parameters. -/
  beforeParams : LivePolicy.Change
  /-- While the server is asked. -/
  whileAsked : LivePolicy.Change
  /-- Between the fingerprint and the plugin. -/
  beforePlugin : LivePolicy.Change
  /-- Between the plugin and the slot. -/
  beforeSlot : LivePolicy.Change

/-- The pool is open, and has another fingerprint than a policy. -/
def Slot.IsOutdated (slot : Slot) (p : Policy) : Prop :=
  slot.state = .active ∧ slot.fingerprint ≠ some p.fingerprint

instance (slot : Slot) (p : Policy) : Decidable (slot.IsOutdated p) :=
  inferInstanceAs (Decidable (_ ∧ _))

theorem LivePolicy.Follows.trans {l l' l'' : LivePolicy} (h : l.Follows l')
    (h' : l'.Follows l'') : l.Follows l'' := by
  induction h' with
  | refl => exact h
  | replace _ p ih => exact .replace ih p

namespace Run

variable {σ : Type}

/-- Puts a pool in place. The fingerprint is that of the policy as it was when this began, with
the plugin that was accepted. -/
def activateAmid (g : Gaps) (h : Handle) (generation : Nat) (r : Run σ) : Run σ :=
  let plugin := h.params.authPlugin
  let openedWith : Policy := { r.live.policy with authPlugin := plugin }
  let changed := g.beforePlugin.apply r.live
  let live := if r.live.policy.authPlugin = plugin then changed else changed.setAuthPlugin plugin
  let slot : Slot :=
    { handle := some h
      state := .active
      fingerprint := some openedWith.fingerprint
      generation := generation
      plugin := some plugin
      failures := 0
      lastError := none }
  { r with live := g.beforeSlot.apply live, slot }.reportPool .info
    "Connection pool initialized" []

/-- Puts the pool in place that the server gave, or notes the failure. -/
def finishAmid (g : Gaps) (generation : Nat) (answer : Except GatewayError Handle) (r : Run σ) :
    Outcome σ Unit :=
  match answer with
  | .ok h => (.ok (), r.activateAmid g h generation)
  | .error e => (.error e, r.fail e)

/-- Closes the old pool and opens another. -/
def openAmid (s : Server σ) (g : Gaps) (retries : Nat) (meanwhile : PoolState) (r : Run σ) :
    Outcome σ Unit :=
  let started := { r with live := g.beforeParams.apply r.live }.startOpening s meanwhile
  let sought := started.2.seekPool s retries started.1.params
  { sought.2 with live := g.whileAsked.apply sought.2.live }.finishAmid g r.live.generation sought.1

/-- Whether the connection settings are no longer those of the open pool. Others may change the
policy between the look at the generation and the look at the settings. -/
def lookAmid (c : LivePolicy.Change) (r : Run σ) : Bool × Run σ :=
  if r.slot.state ≠ .active ∨ r.live.generation = r.slot.generation then (false, r)
  else
    let generation := r.live.generation
    let r := { r with live := c.apply r.live }
    if r.slot.fingerprint = some r.live.policy.fingerprint then
      (false, { r with slot := { r.slot with generation } })
    else (true, r)

/-- What openings and looks with changes in between, and all else that is done to a session, lead
to. -/
inductive Reaches (s : Server σ) (r : Run σ) : Run σ → Prop
  | refl : Reaches s r r
  /-- Others change the policy. -/
  | change {r' : Run σ} {l : LivePolicy} (h : Reaches s r r') (hfollows : r'.live.Follows l) :
      Reaches s r { r' with live := l }
  | look {r' : Run σ} (h : Reaches s r r') (c : LivePolicy.Change) :
      Reaches s r (r'.lookAmid c).2
  /-- The server is called and events are reported. -/
  | call {r' r'' : Run σ} (h : Reaches s r r') (hsession : r''.toSession = r'.toSession) :
      Reaches s r r''
  | reopen {r' : Run σ} (h : Reaches s r r') (g : Gaps) (retries : Nat) (meanwhile : PoolState) :
      Reaches s r (r'.openAmid s g retries meanwhile).2
  /-- The pool is closed, for good or on the way to an opening that is given up. -/
  | close {r' : Run σ} (h : Reaches s r r') {next : PoolState} (hnext : next ≠ .active) :
      Reaches s r (r'.closeTo s next)

/-! ### Nothing in between -/

variable {s : Server σ} {r r' : Run σ}

/-- And this is the look of a session. -/
theorem lookAmid_idle (r : Run σ) : r.lookAmid .idle = r.isStale :=
  rfl

theorem Reaches.trans {r'' : Run σ} (h : Reaches s r r') (h' : Reaches s r' r'') :
    Reaches s r r'' := by
  induction h' with
  | refl => exact h
  | change _ hfollows ih => exact ih.change hfollows
  | look _ c ih => exact ih.look c
  | call _ hsession ih => exact ih.call hsession
  | reopen _ g retries meanwhile ih => exact ih.reopen g retries meanwhile
  | close _ hnext ih => exact ih.close hnext

/-- A generation that was noted beside the fingerprint of an open pool stands, as long as it is
current, for a policy with that fingerprint. -/
structure IsConfirmed (r : Run σ) : Prop where
  generation_le : r.slot.generation ≤ r.live.generation
  fingerprint_eq : r.slot.state = .active → r.slot.generation = r.live.generation →
    r.slot.fingerprint = some r.live.policy.fingerprint

/-- Nothing is said of a pool that is not open. -/
theorem isConfirmed_of_closed (hgeneration : r.slot.generation ≤ r.live.generation)
    (hstate : r.slot.state ≠ .active) : r.IsConfirmed :=
  ⟨hgeneration, fun h => absurd h hstate⟩

/-- Every change moves the generation on. -/
theorem IsConfirmed.change {l : LivePolicy} (h : r.IsConfirmed) (hfollows : r.live.Follows l) :
    IsConfirmed { r with live := l } := by
  refine ⟨Nat.le_trans h.generation_le hfollows.generation_le, fun hstate heq => ?_⟩
  rcases hfollows.eq_or_lt with rfl | hlt
  · exact h.fingerprint_eq hstate heq
  · exact absurd (heq ▸ h.generation_le) (Nat.not_le_of_lt hlt)

/-- A look notes the generation that it began with. -/
theorem IsConfirmed.look (h : r.IsConfirmed) (c : LivePolicy.Change) :
    (r.lookAmid c).2.IsConfirmed := by
  have hfollows := c.follows r.live
  rw [lookAmid]
  split
  · exact h
  · dsimp only
    split
    · rename_i hmatch
      exact ⟨hfollows.generation_le, fun _ _ => hmatch⟩
    · exact h.change hfollows

theorem IsConfirmed.call (h : r.IsConfirmed) (hsession : r'.toSession = r.toSession) :
    r'.IsConfirmed := by
  have hslot : r'.slot = r.slot := congrArg Session.slot hsession
  have hlive : r'.live = r.live := congrArg Session.live hsession
  exact ⟨by rw [hslot, hlive]; exact h.generation_le,
    by rw [hslot, hlive]; exact h.fingerprint_eq⟩

theorem IsConfirmed.close (h : r.IsConfirmed) {next : PoolState} (hnext : next ≠ .active) :
    (r.closeTo s next).IsConfirmed := by
  have hclosed : ({ r with
      slot := { r.slot with handle := none, state := next, fingerprint := none } } :
      Run σ).IsConfirmed :=
    isConfirmed_of_closed h.generation_le hnext
  rw [closeTo]
  split <;> exact hclosed.call rfl

/-- Putting a pool in place is a change of the policy, unless it has the plugin already and nothing
else is changed. -/
theorem live_activateAmid (g : Gaps) (h : Handle) (generation : Nat) (r : Run σ) :
    r.live.Follows (r.activateAmid g h generation).live ∧
      ((r.activateAmid g h generation).live = r.live →
        r.live.policy.authPlugin = h.params.authPlugin) := by
  have hlive : (r.activateAmid g h generation).live = g.beforeSlot.apply
      (if r.live.policy.authPlugin = h.params.authPlugin then g.beforePlugin.apply r.live
        else (g.beforePlugin.apply r.live).setAuthPlugin h.params.authPlugin) := rfl
  have hchanged := g.beforePlugin.follows r.live
  rw [hlive]
  split
  · rename_i hsame
    exact ⟨hchanged.trans (g.beforeSlot.follows _), fun _ => hsame⟩
  · have hset := hchanged.trans (LivePolicy.follows_setAuthPlugin (g.beforePlugin.apply r.live)
      h.params.authPlugin)
    have hlast := g.beforeSlot.follows
      ((g.beforePlugin.apply r.live).setAuthPlugin h.params.authPlugin)
    refine ⟨hset.trans hlast, fun heq => ?_⟩
    -- Giving the policy another plugin moves the generation on.
    have hle := hlast.generation_le
    rw [heq] at hle
    exact absurd hchanged.generation_le (Nat.not_le_of_lt (Nat.lt_of_succ_le hle))

/-- A pool is put in place with a generation from before. -/
theorem isConfirmed_activateAmid {g : Gaps} {h : Handle} {l : LivePolicy}
    (hfollows : l.Follows r.live) : (r.activateAmid g h l.generation).IsConfirmed := by
  obtain ⟨hchanged, hplugin⟩ := live_activateAmid g h l.generation r
  have hle := hfollows.generation_le
  refine ⟨Nat.le_trans hle hchanged.generation_le, fun _ heq => ?_⟩
  change l.generation = _ at heq
  rcases hchanged.eq_or_lt with hsame | hlt
  · rw [hsame]
    change some _ = some _
    rw [← hplugin hsame]
  · exact absurd (heq ▸ hle) (Nat.not_le_of_lt hlt)

/-- **An opening confirms**, whatever is done to the policy meanwhile. -/
theorem IsConfirmed.reopen (h : r.IsConfirmed) (g : Gaps) (retries : Nat)
    (meanwhile : PoolState) : (r.openAmid s g retries meanwhile).2.IsConfirmed := by
  let changed : Run σ := { r with live := g.beforeParams.apply r.live }
  let started := changed.startOpening s meanwhile
  let sought := started.2.seekPool s retries started.1.params
  have hsession : sought.2.toSession = started.2.toSession :=
    toSession_seekPool retries started.1.params started.2
  have hslot : sought.2.slot.generation = r.slot.generation :=
    (congrArg (·.slot.generation) hsession).trans
      (congrArg Slot.generation (slot_closeTo s meanwhile changed))
  have hlive : sought.2.live = changed.live :=
    (congrArg Session.live hsession).trans (startOpening_spec meanwhile changed).2.2
  have hfollows : r.live.Follows (g.whileAsked.apply sought.2.live) := by
    rw [hlive]
    exact (g.beforeParams.follows r.live).trans (g.whileAsked.follows _)
  rw [openAmid]
  change (finishAmid g r.live.generation sought.1
    { sought.2 with live := g.whileAsked.apply sought.2.live }).2.IsConfirmed
  rcases sought.1 with e | pool
  · refine isConfirmed_of_closed ?_ nofun
    change sought.2.slot.generation ≤ (g.whileAsked.apply sought.2.live).generation
    rw [hslot]
    exact Nat.le_trans h.generation_le hfollows.generation_le
  · exact isConfirmed_activateAmid hfollows

/-- A look with changes during it says what was so when it began or when it ended. -/
theorem IsConfirmed.lookAmid_answers (h : r.IsConfirmed) (c : LivePolicy.Change) :
    ((r.lookAmid c).1 = true → r.slot.IsOutdated (c.apply r.live).policy) ∧
      ((r.lookAmid c).1 = false →
        ¬r.slot.IsOutdated r.live.policy ∨ ¬r.slot.IsOutdated (c.apply r.live).policy) := by
  rw [lookAmid]
  split
  · rename_i hskipped
    refine ⟨nofun, fun _ => .inl fun ⟨hstate, hne⟩ => ?_⟩
    exact hne (h.fingerprint_eq hstate (hskipped.resolve_left (not_not_intro hstate)).symm)
  · rename_i hcompared
    have hstate : r.slot.state = .active := not_not.mp (not_or.mp hcompared).1
    dsimp only
    split
    · rename_i heq
      exact ⟨nofun, fun _ => .inr fun ⟨_, hne⟩ => hne heq⟩
    · rename_i hne
      exact ⟨fun _ => ⟨hstate, hne⟩, nofun⟩

/-- A look at a confirmed generation finds what comparing the fingerprints would find. -/
theorem IsConfirmed.isStale_iff (h : r.IsConfirmed) :
    r.isStale.1 = true ↔ r.slot.IsOutdated r.live.policy := by
  obtain ⟨htrue, hfalse⟩ := h.lookAmid_answers .idle
  rw [lookAmid_idle] at htrue hfalse
  refine ⟨htrue, fun houtdated => ?_⟩
  by_contra hfound
  rcases hfalse (Bool.eq_false_of_not_eq_true hfound) with hnot | hnot
  · exact hnot houtdated
  · exact hnot houtdated

end Run

end SqlGateway
