import SqlGateway.Proofs.Gate.Refusal
import SqlGateway.Proofs.Policy.Update
import SqlGateway.Proofs.Text.Case

/-!
# Histories of Updates

A policy changes by calls, each of which makes any number of settings. A call makes all of them
or, if one is not valid, none (`Policy.attempt`); `Policy.after` is what a history of calls
leaves of the initial policy, whichever of them failed.

Such a policy is reachable, so it keeps what every update restores. Two things about it are
not restored but carried along from setting to setting. The blocked patterns are always those that
some value of their setting names (`Policy.PatternsAreRead`), so there are some and none is blank
(`Policy.HasPatterns`), since upper case does not make a pattern blank; and the policy remembers
whether the level of access was set by hand, which happened exactly if a call that succeeded named
that setting (`Policy.SetByHand`).

In production that leaves no history by which the gate could be opened: what it allows has
no high risk and stays inside its databases.

## Main results

* `patternsAreRead_setKnown`, `accessLevelSet_setKnown`: what one setting carries along.
* `Reachable.patternsAreRead`: where the blocked patterns of a policy come from.
* `accessLevelSet_after_iff`: when the level of access counts as set by hand.
* `allowed_of_production`: what the gate allows in production.
* `invariants_after_updates`: all promises after a history of calls.
-/

namespace SqlGateway

open Text

namespace Policy

variable {p q : Policy} {entries : List (String × String)}

/-! ### Calls -/

/-- What a call to make settings leaves: its error, if there is one, and the policy. -/
def attempt (p : Policy) (entries : List (String × String)) : Option SettingError × Policy :=
  match p.update entries with
  | .ok q => (none, q)
  | .error e => (some e, p)

/-- The policy that a history of calls leaves of the initial one. -/
def after (history : List (List (String × String))) : Policy :=
  history.foldl (fun p entries => (p.attempt entries).2) .initial

theorem after_concat (history : List (List (String × String)))
    (entries : List (String × String)) :
    after (history ++ [entries]) = ((after history).attempt entries).2 := by
  rw [after, after, List.foldl_concat]

theorem attempt_of_update (h : p.update entries = .ok q) : p.attempt entries = (none, q) := by
  rw [attempt, h]

/-- A call that fails leaves the policy as it was. -/
theorem attempt_of_failed (h : (p.attempt entries).1 ≠ none) : (p.attempt entries).2 = p := by
  rw [attempt] at h ⊢
  split at h
  · exact absurd rfl h
  · rfl

/-- A session's policy changes by such calls. -/
theorem policy_update {σ : Type} (r : Run σ) (entries : List (String × String)) :
    (r.update entries).2.live.policy = (r.live.policy.attempt entries).2 := by
  rw [Run.update, LivePolicy.update, attempt]
  rcases r.live.policy.update entries with e | q <;> rfl

theorem reachable_after (history : List (List (String × String))) : (after history).Reachable := by
  induction history using List.reverseRecOn with
  | nil => exact .initial
  | append_singleton history entries ih =>
      rw [after_concat, attempt]
      split
      · rename_i hupdate
        exact ih.update entries hupdate
      · exact ih

/-! ### Blocked patterns -/

/-- There are blocked patterns, and none of them is blank. -/
def HasPatterns (p : Policy) : Prop :=
  p.blockedPatterns ≠ [] ∧ ∀ pattern ∈ p.blockedPatterns, trim pattern.toList ≠ []

instance (p : Policy) : Decidable p.HasPatterns :=
  inferInstanceAs (Decidable (_ ∧ _))

/-- An item that is not empty after trimming is not blank in upper case. -/
theorem trim_of_mem_readPatterns {value pattern : String} (h : pattern ∈ readPatterns value) :
    trim pattern.toList ≠ [] := by
  simp only [readPatterns] at h
  split at h
  · exact (by decide : ∀ pattern ∈ defaultPatterns, trim pattern.toList ≠ []) pattern h
  · obtain ⟨hmem, hne⟩ := List.mem_filter.mp h
    obtain ⟨item, -, rfl⟩ := List.mem_map.mp hmem
    have hitem : trim item.toList ≠ [] := by
      intro hnil
      rw [upperString, trimString, String.toList_ofList, hnil] at hne
      cases hne
    rw [upperString, trimString, String.toList_ofList, String.toList_ofList]
    exact trim_upper_ne_nil (by rwa [trim_trim])

/-- **Patterns are trimmed and in upper case.** -/
theorem trim_upper_of_mem_readPatterns {value pattern : String} (h : pattern ∈ readPatterns value) :
    trim pattern.toList = pattern.toList ∧ upper pattern.toList = pattern.toList := by
  simp only [readPatterns] at h
  split at h
  · exact (by decide : ∀ pattern ∈ defaultPatterns,
      trim pattern.toList = pattern.toList ∧ upper pattern.toList = pattern.toList) pattern h
  · obtain ⟨item, -, rfl⟩ := List.mem_map.mp (List.mem_filter.mp h).1
    rw [upperString, trimString, String.toList_ofList, String.toList_ofList]
    exact ⟨by rw [trim_upper, trim_trim], upper_upper _⟩

/-- Patterns have no small letters in ASCII. -/
theorem isLower_of_mem_readPatterns {value pattern : String} (h : pattern ∈ readPatterns value) :
    ∀ c ∈ pattern.toList, c.isLower = false := by
  rw [← (trim_upper_of_mem_readPatterns h).2]
  exact fun c hc => isLower_of_mem_upper hc

theorem readPatterns_ne_nil (value : String) : readPatterns value ≠ [] := by
  simp only [readPatterns]
  split
  · decide
  · rename_i hempty
    simpa using hempty

/-- The blocked patterns are those that some value of their setting names. -/
def PatternsAreRead (p : Policy) : Prop :=
  ∃ value, p.blockedPatterns = readPatterns value

theorem patternsAreRead_initial : initial.PatternsAreRead :=
  ⟨"", by decide +kernel⟩

/-- Such patterns are there, and none is blank. -/
theorem PatternsAreRead.hasPatterns (h : p.PatternsAreRead) : p.HasPatterns := by
  obtain ⟨value, hvalue⟩ := h
  rw [HasPatterns, hvalue]
  exact ⟨readPatterns_ne_nil value, fun _ => trim_of_mem_readPatterns⟩

/-- A setting leaves such patterns. -/
theorem patternsAreRead_setKnown {s : Setting} {value : String} (h : p.PatternsAreRead)
    (hset : p.setKnown s value = .ok q) : q.PatternsAreRead := by
  obtain ⟨value₀, hvalue⟩ := h
  cases s with
  | blockedPatterns =>
      rw [setKnown] at hset
      rw [← Except.ok.inj hset]
      exact ⟨value, rfl⟩
  | port =>
      rw [setKnown] at hset
      obtain ⟨n, -, hport⟩ := exists_of_bind hset
      split at hport
      · cases hport
      · cases hport
        exact ⟨value₀, hvalue⟩
  | host | user | password | database | allowedRisks | accessLevel =>
      rw [setKnown] at hset
      rw [← Except.ok.inj hset]
      exact ⟨value₀, hvalue⟩
  | authPlugin | connectTimeout | poolMin | poolMax | poolRecycle | poolLifetime | acquireTimeout
  | queryCheck | maxLength | isolation | environment =>
      rw [setKnown] at hset
      refine holds_of_map PatternsAreRead ?_ hset
      exact fun _ => ⟨value₀, hvalue⟩

/-! ### The level of access -/

/-- Whether a setting is that of the level of access. -/
def namesAccess (entry : String × String) : Bool :=
  Setting.ofKey? (normalKey entry.1) == some .accessLevel

/-- Only the setting of the level itself sets it by hand. -/
theorem accessLevelSet_setKnown {s : Setting} {value : String}
    (hset : p.setKnown s value = .ok q) :
    q.accessLevelSet = (p.accessLevelSet || s == .accessLevel) := by
  cases s with
  | accessLevel =>
      cases hset
      exact (Bool.or_true _).symm
  | port =>
      rw [setKnown] at hset
      obtain ⟨n, -, hport⟩ := exists_of_bind hset
      split at hport
      · cases hport
      · cases hport
        exact (Bool.or_false _).symm
  | host | user | password | database | allowedRisks | blockedPatterns =>
      cases hset
      exact (Bool.or_false _).symm
  | authPlugin | connectTimeout | poolMin | poolMax | poolRecycle | poolLifetime | acquireTimeout
  | queryCheck | maxLength | isolation | environment =>
      rw [setKnown] at hset
      refine holds_of_map (fun q => q.accessLevelSet = (p.accessLevelSet || false)) ?_ hset
      exact fun _ => (Bool.or_false _).symm

/-! ### One call -/

/-- What one pair of key and value carries along. -/
theorem carried_set {key value : String} (hset : p.set key value = .ok q) :
    (p.PatternsAreRead → q.PatternsAreRead) ∧
      q.accessLevelSet = (p.accessLevelSet || namesAccess (key, value)) := by
  simp only [set] at hset
  rw [namesAccess]
  split at hset
  · rename_i s hkey
    rw [hkey]
    exact ⟨fun h => patternsAreRead_setKnown h hset, accessLevelSet_setKnown hset⟩
  · rename_i hkey
    cases hset
    rw [hkey]
    exact ⟨id, (Bool.or_false _).symm⟩

/-- What the pairs of a call carry along, by induction on the pairs. -/
theorem carried_setAll (hset : p.setAll entries = .ok q) :
    (p.PatternsAreRead → q.PatternsAreRead) ∧
      q.accessLevelSet = (p.accessLevelSet || entries.any namesAccess) := by
  induction entries generalizing p with
  | nil =>
      cases hset
      exact ⟨id, (Bool.or_false _).symm⟩
  | cons entry rest ih =>
      obtain ⟨key, value⟩ := entry
      obtain ⟨p', hfirst, hrest⟩ := exists_of_bind hset
      obtain ⟨hpatterns, hlevel⟩ := carried_set hfirst
      obtain ⟨hpatterns', hlevel'⟩ := ih hrest
      refine ⟨hpatterns' ∘ hpatterns, ?_⟩
      rw [hlevel', hlevel, List.any_cons, Bool.or_assoc]

/-- What is restored at the end of a call has nothing to do with what is carried along. -/
theorem carried_normalize (p : Policy) :
    p.normalize.blockedPatterns = p.blockedPatterns ∧
      p.normalize.accessLevelSet = p.accessLevelSet := by
  have hguard : p.guard.blockedPatterns = p.blockedPatterns ∧
      p.guard.accessLevelSet = p.accessLevelSet := by
    rw [guard]
    split <;> exact ⟨rfl, rfl⟩
  have hrisk : p.guard.allowRisk.blockedPatterns = p.guard.blockedPatterns ∧
      p.guard.allowRisk.accessLevelSet = p.guard.accessLevelSet := by
    rw [allowRisk]
    split <;> exact ⟨rfl, rfl⟩
  rw [normalize_eq_steps, orderBounds, ← hguard.1, ← hguard.2, ← hrisk.1, ← hrisk.2]
  split <;> exact ⟨rfl, rfl⟩

/-- **What one call carries along**, if it succeeds. -/
theorem carried_update (hupdate : p.update entries = .ok q) :
    (p.PatternsAreRead → q.PatternsAreRead) ∧
      q.accessLevelSet = (p.accessLevelSet || entries.any namesAccess) := by
  obtain ⟨p', hset, rfl⟩ := exists_of_update hupdate
  obtain ⟨hpatterns, hlevel⟩ := carried_setAll hset
  obtain ⟨hpatterns', hlevel'⟩ := carried_normalize p'
  refine ⟨fun h => ?_, hlevel'.trans hlevel⟩
  rw [PatternsAreRead, hpatterns']
  exact hpatterns h

/-- **The blocked patterns of a policy** are always read from some value of their setting. -/
theorem Reachable.patternsAreRead (h : p.Reachable) : p.PatternsAreRead := by
  induction h with
  | initial => exact patternsAreRead_initial
  | update _ entries hupdate ih => exact (carried_update hupdate).1 ih
  | plugin _ _ ih => exact ih

/-! ### Histories -/

/-- Whether a call of the history that succeeded set the level of access. -/
def SetByHand (history : List (List (String × String))) : Prop :=
  ∃ earlier entries later, history = earlier ++ entries :: later ∧
    ((after earlier).attempt entries).1 = none ∧ entries.any namesAccess = true

/-- The last call sets the level by hand, or one before it has. -/
theorem setByHand_concat_iff {history : List (List (String × String))}
    {entries : List (String × String)} :
    SetByHand (history ++ [entries]) ↔ SetByHand history ∨
      ((after history).attempt entries).1 = none ∧ entries.any namesAccess = true := by
  constructor
  · rintro ⟨earlier, call, later, hsplit, hcall⟩
    rcases List.eq_nil_or_concat later with rfl | ⟨later, last, rfl⟩
    · obtain ⟨rfl, hlast⟩ := List.append_inj' hsplit rfl
      obtain rfl : entries = call := List.cons.inj hlast |>.1
      exact .inr hcall
    · rw [List.concat_eq_append, ← List.cons_append, ← List.append_assoc] at hsplit
      obtain ⟨rfl, -⟩ := List.append_inj' hsplit rfl
      exact .inl ⟨earlier, call, later, rfl, hcall⟩
  · rintro (⟨earlier, call, later, rfl, hcall⟩ | hlast)
    · exact ⟨earlier, call, later ++ [entries], by simp, hcall⟩
    · exact ⟨history, entries, [], rfl, hlast⟩

/-- **The level of access counts as set by hand** exactly if a call that succeeded set it. -/
theorem accessLevelSet_after_iff (history : List (List (String × String))) :
    (after history).accessLevelSet = true ↔ SetByHand history := by
  induction history using List.reverseRecOn with
  | nil =>
      refine iff_of_false Bool.false_ne_true ?_
      rintro ⟨earlier, entries, later, hnil, -⟩
      simp at hnil
  | append_singleton history entries ih =>
      rw [setByHand_concat_iff, ← ih, after_concat]
      cases hupdate : (after history).update entries with
      | ok q =>
          rw [attempt_of_update hupdate, (carried_update hupdate).2, Bool.or_eq_true]
          exact or_congr_right (and_iff_right rfl).symm
      | error e => simp [attempt, hupdate]

/-! ### The gate in production -/

/-- What an allowed text with the query check is: its risk is one that the policy allows. -/
theorem contains_risk_of_allowed {sql : String} (hcheck : p.queryCheck = true)
    (hallowed : (Gate.check sql p).allowed = true) :
    p.allowedRisks.contains (Statement.parse sql).risk = true := by
  obtain ⟨-, hnone⟩ := Gate.allowed_check_iff.mp hallowed
  simp only [Gate.violationsOf, List.append_eq_nil_iff] at hnone
  obtain ⟨⟨-, hrisk⟩, -⟩ := hnone
  rw [Gate.riskViolations, if_pos hcheck, List.map_eq_nil_iff, Option.toList_eq_nil_iff,
    RiskSet.refusal?] at hrisk
  split at hrisk
  · assumption
  · cases hrisk

/-- **What the gate allows in production**: statements of low or medium risk, and none that
leaves the databases of its session. -/
theorem allowed_of_production (hnormal : p.IsNormal) (hproduction : p.environment = .production)
    {sql : String} (hallowed : (Gate.check sql p).allowed = true) :
    (∃ risk, (Gate.check sql p).risk = some risk ∧ risk.isDangerous = false) ∧
      (∀ s ∈ Statement.statements sql, s.risk.isDangerous = false) ∧
      Scope.check sql p = [] := by
  obtain ⟨-, hcheck, -, hhigh, hcritical⟩ := hnormal.guarded hproduction
  have hcontains := contains_risk_of_allowed hcheck hallowed
  have hwhole : (Statement.parse sql).risk.isDangerous = false := by
    cases hrisk : (Statement.parse sql).risk with
    | low => rfl
    | medium => rfl
    | high =>
        rw [hrisk, RiskSet.contains, hhigh] at hcontains
        cases hcontains
    | critical =>
        rw [hrisk, RiskSet.contains, hcritical] at hcontains
        cases hcontains
  obtain ⟨hread, hnone⟩ := Gate.allowed_check_iff.mp hallowed
  refine ⟨⟨_, by rw [Gate.check, hread]; rfl, hwhole⟩, fun s hs => ?_, ?_⟩
  · obtain ⟨fallback, hparse⟩ := Statement.parse_eq_combine sql
    have hle := Statement.rank_le_risk_combine (Statement.statements sql) sql fallback hs
    rw [← hparse] at hle
    rw [RiskLevel.isDangerous, decide_eq_false_iff_not, Nat.not_le] at hwhole ⊢
    exact hle.trans_lt hwhole
  · simp only [Gate.violationsOf, List.append_eq_nil_iff, List.map_eq_nil_iff] at hnone
    exact hnone.1.1.2

/-- **A policy keeps its promises after every history of calls**, and production cannot be
loosened: a call that fails changes nothing; some risk is allowed, the pool's bounds are in order,
there is a port and there are patterns, none of them blank; and in production isolation and the
query check are on, no high risk is allowed, access is restricted unless it was set by hand, and
the gate lets nothing of high risk and nothing that leaves its databases through. -/
theorem invariants_after_updates (history : List (List (String × String))) :
    (∀ entries, ((after history).attempt entries).1 ≠ none →
        after (history ++ [entries]) = after history) ∧
      (after history).allowedRisks.isEmpty = false ∧
      (after history).poolMin ≤ (after history).poolMax ∧
      1 ≤ (after history).port ∧
      (after history).HasPatterns ∧
      ((after history).environment = .production →
        (after history).isolation = true ∧
        (after history).queryCheck = true ∧
        (after history).allowedRisks.contains .high = false ∧
        (after history).allowedRisks.contains .critical = false ∧
        (¬SetByHand history → (after history).accessLevel = .restricted) ∧
        ∀ sql, (Gate.check sql (after history)).allowed = true →
          (∃ risk, (Gate.check sql (after history)).risk = some risk ∧
            risk.isDangerous = false) ∧
          (∀ s ∈ Statement.statements sql, s.risk.isDangerous = false) ∧
          Scope.check sql (after history) = []) := by
  have hreachable := reachable_after history
  have hnormal := hreachable.isNormal
  refine ⟨fun entries hfailed => ?_, hnormal.risks, hnormal.bounds,
    hreachable.isTidy_target.port_pos, hreachable.patternsAreRead.hasPatterns,
    fun hproduction => ?_⟩
  · rw [after_concat, attempt_of_failed hfailed]
  · obtain ⟨hisolation, hcheck, hlevel, hhigh, hcritical⟩ := hnormal.guarded hproduction
    refine ⟨hisolation, hcheck, hhigh, hcritical, fun hnot => hlevel ?_,
      fun sql => allowed_of_production hnormal hproduction⟩
    rwa [← accessLevelSet_after_iff, Bool.not_eq_true] at hnot

/-- Calls that put a session into production and then try to loosen it; the second names a port
that is none and fails, although it sets the level of access first. -/
def looseningHistory : List (List (String × String)) :=
  [[("ENV_TYPE", "prod"), ("MYSQL_DATABASE", "appdb")],
    [("MYSQL_DATABASE_ACCESS_LEVEL", "permissive"), ("MYSQL_PORT", "0")],
    [("MYSQL_ALLOWED_RISK_LEVELS", "HIGH,CRITICAL"), ("MYSQL_ENABLE_DATABASE_ISOLATION", "false"),
      ("MYSQL_ENABLE_QUERY_CHECK", "no"), ("MYSQL_BLOCKED_PATTERNS", " , ")]]

/-- They do not: no write without a condition is allowed afterwards. -/
theorem invariants_after_loosening :
    (after looseningHistory).environment = .production ∧
      (after looseningHistory).isolation = true ∧
      (after looseningHistory).accessLevel = .restricted ∧
      (Gate.check "UPDATE t SET a = 1" (after looseningHistory)).allowed = false := by
  have hproduction : (after looseningHistory).environment = .production := by decide +kernel
  obtain ⟨-, -, -, -, -, hkept⟩ := invariants_after_updates looseningHistory
  obtain ⟨hisolation, -, -, -, hlevel, hgate⟩ := hkept hproduction
  refine ⟨hproduction, hisolation, hlevel ?_, ?_⟩
  · rw [← accessLevelSet_after_iff]
    decide +kernel
  · by_contra hallowed
    obtain ⟨⟨risk, hrisk, hsafe⟩, -⟩ := hgate _ (Bool.not_eq_false _ ▸ hallowed)
    have hhigh : (Gate.check "UPDATE t SET a = 1" (after looseningHistory)).risk = some .high := by
      decide +kernel
    rw [hhigh] at hrisk
    rw [← Option.some.inj hrisk] at hsafe
    cases hsafe

end Policy

end SqlGateway
