import SqlGateway.Proofs.Session.Staleness

/-!
# Changes While a Pool Is Opened

Opening a pool takes time, and others may change the policy meanwhile. The parameters and the
generation are taken when the opening begins. The fingerprint is taken when it ends, and is
that of the policy in place by then, which the pool was not opened with if the connection
settings were changed in between. The next look does compare fingerprints, since the generation
moved on; but it compares the policy with itself, and such a change is lost.

A connection that is taken later comes from a pool with the current settings exactly if the
settings are what they were when the opening began, or are no longer what they were when it
ended. Where nothing interferes, that is always so.

## Main results

* `connect_ok`: where a connection comes from.
* `matches_of_connect_iff`: whether it comes from a pool with the current settings.
* `connect_current`: it does if nothing changes during the opening.
* `connect_current_iff`: which changes during the opening are lost.
-/

namespace SqlGateway

/-! ### Parameters and policies -/

section

variable {c d : ConnectParams} {p q : Policy}

/-- Parameters that match one policy match the same others. -/
theorem ConnectParams.Matches.congr (hc : c.Matches p) (hd : d.Matches p) :
    c.Matches q ↔ d.Matches q := by
  have hall : ∀ {c d : ConnectParams}, c.Matches p → d.Matches p → c.Matches q → d.Matches q := by
    intro c d hc hd h
    exact
      { host_eq := hd.host_eq.trans (hc.host_eq.symm.trans h.host_eq)
        port_eq := hd.port_eq.trans (hc.port_eq.symm.trans h.port_eq)
        user_eq := hd.user_eq.trans (hc.user_eq.symm.trans h.user_eq)
        password_eq := hd.password_eq.trans (hc.password_eq.symm.trans h.password_eq)
        database_eq := hd.database_eq.trans (hc.database_eq.symm.trans h.database_eq)
        connectTimeout_eq :=
          hd.connectTimeout_eq.trans (hc.connectTimeout_eq.symm.trans h.connectTimeout_eq)
        minConnections_eq :=
          hd.minConnections_eq.trans (hc.minConnections_eq.symm.trans h.minConnections_eq)
        maxConnections_eq :=
          hd.maxConnections_eq.trans (hc.maxConnections_eq.symm.trans h.maxConnections_eq) }
  exact ⟨hall hc hd, hall hd hc⟩

/-- Parameters match every policy that connects alike. -/
theorem ConnectParams.Matches.of_connectsAlike (hc : c.Matches p) (h : p.ConnectsAlike q) :
    c.Matches q where
  host_eq := hc.host_eq.trans h.host_eq
  port_eq := hc.port_eq.trans h.port_eq
  user_eq := hc.user_eq.trans h.user_eq
  password_eq := hc.password_eq.trans h.password_eq
  database_eq := hc.database_eq.trans h.database_eq
  connectTimeout_eq := by rw [hc.connectTimeout_eq, h.connectTimeout_eq]
  minConnections_eq := hc.minConnections_eq.trans h.poolMin_eq
  maxConnections_eq := hc.maxConnections_eq.trans h.poolMax_eq

/-- The plugin of a policy does not matter. -/
theorem ConnectParams.matches_withPlugin (plugin : Option AuthPlugin) :
    c.Matches { p with authPlugin := plugin } ↔ c.Matches p :=
  ⟨fun h => ⟨h.1, h.2, h.3, h.4, h.5, h.6, h.7, h.8⟩,
    fun h => ⟨h.1, h.2, h.3, h.4, h.5, h.6, h.7, h.8⟩⟩

end

namespace Run

variable {σ : Type} {s : Server σ} {r r' : Run σ} {h₀ h : Handle} {p : Policy}

/-! ### Taking connections -/

/-- A connection comes from the pool that is open. -/
theorem checkOut_ok (hok : r.checkOut s = (.ok h, r')) :
    r.slot.handle = some h ∧ r'.toSession = r.toSession := by
  rw [checkOut] at hok
  split at hok
  · rename_i g _ hhandle
    have hsession : (r.callAcquire s g r.live.policy.acquireTimeout).2.toSession =
        r.toSession := rfl
    dsimp only at hok
    split at hok
    · rename_i answer _ heq
      rw [heq] at hsession
      rcases answer with _ | _
      · cases hok
      · cases hok
        exact ⟨hhandle, hsession⟩
    · cases hok
  · cases hok

/-- **Where a connection comes from**, if a pool is open: from this pool unless it is stale, and
else from one that was opened as the policy says. -/
theorem connect_ok (hopen : r.IsOpenWith h₀ p) (hok : r.connect s = (.ok h, r')) :
    (r.isStale.1 = false ∧ h = h₀ ∧ r'.live = r.live) ∨
    (r.isStale.1 = true ∧ h.params.Matches r.live.policy ∧
      r'.live.policy = { r.live.policy with authPlugin := h.params.authPlugin }) := by
  have hensure : r.ensure s = (.ok (), r) := by
    rw [ensure, hopen.state_eq]
    rfl
  rw [connect, hensure] at hok
  have hlook := hopen.look
  have hlive := live_isStale r
  rw [andThen, refresh] at hok
  generalize r.isStale = looked at hok hlook hlive
  obtain ⟨_ | _, r₁⟩ := looked
  · obtain ⟨hhandle, hsession⟩ := checkOut_ok hok
    refine .inl ⟨rfl, ?_, ?_⟩
    · exact Option.some.inj (hhandle.symm.trans hlook.handle_eq)
    · exact (congrArg Session.live hsession).trans hlive
  · dsimp only at hok hlive
    generalize hreopen : openPool s _ _ _ = reopened at hok
    obtain ⟨_ | _, r₂⟩ := reopened
    · cases hok
    · obtain ⟨g, hmatches, hopen₂, hpolicy⟩ := openDuring_ok .refl hreopen
      obtain ⟨hhandle, hsession⟩ := checkOut_ok hok
      obtain rfl : g = h := Option.some.inj (hopen₂.handle_eq.symm.trans hhandle)
      have hkept : r'.live = r₂.live := congrArg Session.live hsession
      refine .inr ⟨rfl, hlive ▸ hmatches, ?_⟩
      rw [hkept, hpolicy, ← hlive]
      rfl

/-- **Whether a connection comes from a pool with the current settings**, if a pool is open:
either this pool has them, or it is found to be stale. -/
theorem matches_of_connect_iff (hopen : r.IsOpenWith h₀ p)
    (hconnect : r.connect s = (.ok h, r')) (hdistinguished : p.Distinguished r.live.policy)
    (hbars : p.BarsAlike r.live.policy) :
    h.params.Matches r'.live.policy ↔
      h₀.params.Matches r.live.policy ∨ ¬p.ConnectsAlike r.live.policy := by
  have hstale : r.isStale.1 = true ↔ ¬p.ConnectsAlike r.live.policy := by
    rw [isStale_iff hopen, Policy.connectsAlike_iff_fingerprint hdistinguished, eq_comm]
    simp [hbars]
  rcases connect_ok hopen hconnect with ⟨hfresh, rfl, hlive⟩ | ⟨hstale', hcurrent, hpolicy⟩
  · have halike : p.ConnectsAlike r.live.policy := by
      by_contra hnot
      rw [hstale.mpr hnot] at hfresh
      cases hfresh
    rw [hlive]
    exact ⟨.inl, fun hor => hor.resolve_right (not_not_intro halike)⟩
  · rw [hpolicy, ConnectParams.matches_withPlugin]
    exact ⟨fun _ => .inr (hstale.mp hstale'), fun _ => hcurrent⟩

/-! ### Interference -/

section

variable {opened later after : Run σ} {interference : LivePolicy → LivePolicy} {retries : Nat}
  {meanwhile : PoolState}

/-- If nothing changes after the opening, a connection comes from a pool with the current
settings exactly if none of them was changed during it. -/
theorem connect_current_iff_of_quiet (hfollows : r.live.Follows (interference r.live))
    (hopen : r.openDuring s interference retries meanwhile = (.ok (), opened))
    (hconnect : opened.connect s = (.ok h, after)) :
    h.params.Matches after.live.policy ↔
      r.live.policy.connectParams.Matches (interference r.live).policy := by
  obtain ⟨h₀, hmatches, hopened, hpolicy⟩ := openDuring_ok hfollows hopen
  have halike : opened.live.policy.ConnectsAlike opened.live.policy :=
    ⟨rfl, rfl, rfl, rfl, rfl, rfl, rfl, rfl, rfl⟩
  rw [matches_of_connect_iff hopened hconnect (fun _ => rfl) halike.barsAlike,
    or_iff_left (not_not_intro halike), hmatches.congr (Policy.matches_connectParams _), hpolicy,
    ConnectParams.matches_withPlugin]

/-- **If nothing changes during the opening**, a connection always comes from a pool with the
current settings. -/
theorem connect_current (hopen : r.openPool s retries meanwhile = (.ok (), opened))
    (hkeeps : opened.KeepsPool later) (hconnect : later.connect s = (.ok h, after))
    (hdistinguished : opened.live.policy.Distinguished later.live.policy)
    (hbars : opened.live.policy.BarsAlike later.live.policy) :
    h.params.Matches after.live.policy := by
  obtain ⟨h₀, hmatches, hopened, hpolicy⟩ := openDuring_ok .refl hopen
  have hbegan : h₀.params.Matches opened.live.policy := by
    rw [hpolicy, ConnectParams.matches_withPlugin]
    exact hmatches
  rw [matches_of_connect_iff (hopened.keepsPool hkeeps) hconnect hdistinguished hbars]
  by_cases halike : opened.live.policy.ConnectsAlike later.live.policy
  · exact .inl (hbegan.of_connectsAlike halike)
  · exact .inr halike

/-- **Which changes are lost.** A pool was opened while others changed the policy, and the
policy may have changed again since. The next connection comes from a pool with the current
settings exactly if these are those that the opening began with, or are not those that it ended
with. -/
theorem connect_current_iff (hfollows : r.live.Follows (interference r.live))
    (hopen : r.openDuring s interference retries meanwhile = (.ok (), opened))
    (hkeeps : opened.KeepsPool later) (hconnect : later.connect s = (.ok h, after))
    (hdistinguished : opened.live.policy.Distinguished later.live.policy)
    (hbars : opened.live.policy.BarsAlike later.live.policy) :
    h.params.Matches after.live.policy ↔
      r.live.policy.connectParams.Matches later.live.policy ∨
        ¬opened.live.policy.ConnectsAlike later.live.policy := by
  obtain ⟨h₀, hmatches, hopened, -⟩ := openDuring_ok hfollows hopen
  rw [matches_of_connect_iff (hopened.keepsPool hkeeps) hconnect hdistinguished hbars,
    hmatches.congr (Policy.matches_connectParams _)]

/-- A policy with this host, put in place as the first change of the initial one. -/
def movedTo (host : String) : LivePolicy :=
  ⟨{ Policy.initial with host }, 1⟩

/-- The run after an opening during which the host was changed. -/
def openedWhileMoving : Run Script :=
  ((fresh .initial).openDuring Script.server (fun _ => movedTo "db2") maxAuthRetries .closed).2

/-- A change during the opening is made up for by another one later. -/
theorem connect_current_of_later_change :
    ∃ (later after : Run Script) (h : Handle),
      openedWhileMoving.KeepsPool later ∧ later.connect Script.server = (.ok h, after) ∧
      h.params.Matches after.live.policy := by
  let moved : Policy := { Policy.initial with host := "db3" }
  let later : Run Script :=
    { openedWhileMoving with live := openedWhileMoving.live.replace moved }
  have hopen : (fresh .initial).openDuring Script.server (fun _ => movedTo "db2")
      maxAuthRetries .closed = (.ok (), openedWhileMoving) := rfl
  have hkeeps : openedWhileMoving.KeepsPool later :=
    .change .refl (LivePolicy.Follows.replace .refl _)
  have hconnect : later.connect Script.server =
      (.ok ⟨1, moved.connectParams⟩, (later.connect Script.server).2) :=
    Prod.ext (by decide +kernel) rfl
  have hupdate : (fresh .initial).live.update [("MYSQL_HOST", "db2")] = .ok (movedTo "db2") := by
    decide +kernel
  have hdistinguished : (movedTo "db2").policy.Distinguished moved := by
    intro heq
    exact absurd heq (by decide +kernel)
  have hnoBar : (movedTo "db2").policy.HasNoBar ∧ moved.HasNoBar :=
    ⟨⟨by decide, by decide, by decide, by decide⟩, ⟨by decide, by decide, by decide, by decide⟩⟩
  have hbars := hnoBar.1.barsAlike hnoBar.2
  refine ⟨later, _, _, hkeeps, hconnect, ?_⟩
  refine (connect_current_iff (LivePolicy.follows_of_update hupdate) hopen hkeeps hconnect
    hdistinguished hbars).mpr (.inr ?_)
  exact fun halike => absurd halike.host_eq (by decide +kernel)

/-- A change during the opening is lost: the host is another, and the connection comes from a
pool with the old one. -/
theorem connect_stale_of_interference :
    ∃ (l : LivePolicy) (opened after : Run Script) (h : Handle),
      (fresh .initial).live.update [("MYSQL_HOST", "db2")] = .ok l ∧
      (fresh .initial).openDuring Script.server (fun _ => l) maxAuthRetries .closed =
        (.ok (), opened) ∧
      opened.connect Script.server = (.ok h, after) ∧
      after.live.policy.host = "db2" ∧ h.params.host = "localhost" := by
  have hconnect : openedWhileMoving.connect Script.server =
      (.ok ⟨0, Policy.initial.connectParams⟩, (openedWhileMoving.connect Script.server).2) :=
    Prod.ext (by decide +kernel) rfl
  exact ⟨movedTo "db2", openedWhileMoving, _, _, by decide +kernel, rfl, hconnect,
    by decide +kernel, by decide +kernel⟩

end

end Run

end SqlGateway
