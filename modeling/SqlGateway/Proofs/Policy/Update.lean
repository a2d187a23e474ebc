import SqlGateway.Policy.Sources
import SqlGateway.Proofs.Decimal.Digits
import SqlGateway.Proofs.Text.Word
import SqlGateway.Session.Switch

/-!
# What an Update Leaves

An update makes settings and then restores what every policy promises (`Policy.IsNormal`). A
policy that updates led to from the initial one (`Policy.Reachable`) therefore keeps these
promises, and it says where to connect in the form in which settings are made: the texts are
trimmed, there is a host, and the port fits sixteen bits (`Target.IsTidy`).

Where a policy connects is a part of it that can be taken out (`Policy.target`) and put in
(`Policy.pointedAt`), and normalization leaves this part alone. So the settings that a target
makes change nothing else; and if a reachable policy writes its target down and the target is
made again later, the policy is what it was.

## Main results

* `normalize_normalize`: an update restores nothing that was restored before.
* `Reachable.isNormal`, `Reachable.isTidy_target`: what holds of a policy after updates.
* `update_entries`: what the settings of a target make of a policy.
* `Reachable.update_connectionEntries`: the settings that were written down lead back.
* `reachable_ofSources`: every policy that the gateway is started with is reachable.
-/

namespace SqlGateway

open Text

/-! ### Targets -/

namespace Target

/-- A target in the form in which its settings are made. -/
structure IsTidy (t : Target) : Prop where
  host_ne : t.host ≠ ""
  host_eq : trimString t.host = t.host
  port_pos : 1 ≤ t.port
  port_le : t.port ≤ 65535
  user_eq : trimString t.user = t.user
  password_eq : trimString t.password = t.password
  database_eq : trimString t.database = t.database

/-- A target without the blanks around its texts. -/
def trimmed (t : Target) : Target :=
  ⟨trimString t.host, t.port, trimString t.user, trimString t.password, trimString t.database⟩

theorem IsTidy.trimmed_eq {t : Target} (h : t.IsTidy) : t.trimmed = t := by
  obtain ⟨host, port, user, password, database⟩ := t
  rw [trimmed, h.host_eq, h.user_eq, h.password_eq, h.database_eq]

/-- A text without a fault is not blank. -/
theorem ne_of_fault?_eq_none {name value : String} {limit : Nat}
    (h : fault? name value limit = none) : trimString value ≠ "" := by
  intro heq
  have hblank : (trim value.toList).isEmpty = true := by
    rw [List.isEmpty_iff, ← String.ofList_eq_empty_iff]
    exact heq
  rw [fault?, if_pos hblank] at h
  cases h

/-- A target without faults makes tidy settings. -/
theorem isTidy_trimmed {t : Target} (h : t.faults = []) : t.trimmed.IsTidy := by
  simp only [faults, List.append_eq_nil_iff, Option.toList_eq_nil_iff] at h
  obtain ⟨⟨⟨⟨hhost, hport⟩, -⟩, -⟩, -⟩ := h
  have hrange : 1 ≤ t.port ∧ t.port ≤ 65535 := by
    by_contra hnot
    rw [if_neg hnot] at hport
    cases hport
  exact
    { host_ne := ne_of_fault?_eq_none hhost
      host_eq := trimString_trimString t.host
      port_pos := hrange.1
      port_le := hrange.2
      user_eq := trimString_trimString t.user
      password_eq := trimString_trimString t.password
      database_eq := trimString_trimString t.database }

end Target

namespace Policy

variable {p q : Policy} {t u : Target}

/-- Where a policy connects. -/
def target (p : Policy) : Target :=
  ⟨p.host, p.port, p.user, p.password, p.database⟩

/-- The policy that connects elsewhere and is otherwise the same. -/
def pointedAt (p : Policy) (t : Target) : Policy :=
  { p with host := t.host, port := t.port, user := t.user, password := t.password,
           database := t.database }

theorem target_pointedAt (p : Policy) (t : Target) : (p.pointedAt t).target = t := rfl

theorem pointedAt_target (p : Policy) : p.pointedAt p.target = p := rfl

theorem pointedAt_pointedAt (p : Policy) (t u : Target) :
    (p.pointedAt t).pointedAt u = p.pointedAt u := rfl

/-- What a policy writes down are the settings of its target. -/
theorem connectionEntries_eq (p : Policy) : p.connectionEntries = p.target.entries := rfl

/-! ### Normalization -/

/-- What production demands: isolation and the query check, no high risks, and restricted access
unless the level was set by hand. -/
def IsGuarded (p : Policy) : Prop :=
  p.environment = .production →
    p.isolation = true ∧ p.queryCheck = true ∧
      (p.accessLevelSet = false → p.accessLevel = .restricted) ∧
      p.allowedRisks.high = false ∧ p.allowedRisks.critical = false

/-- What every policy promises after an update. -/
structure IsNormal (p : Policy) : Prop where
  guarded : p.IsGuarded
  risks : p.allowedRisks.isEmpty = false
  bounds : p.poolMin ≤ p.poolMax

/-- The first step of normalization restores what production demands. -/
def guard (p : Policy) : Policy :=
  if p.environment = .production then
    { p with
      isolation := true
      queryCheck := true
      accessLevel := if p.accessLevelSet then p.accessLevel else .restricted
      allowedRisks := { p.allowedRisks with high := false, critical := false } }
  else p

/-- The second step allows some risk. -/
def allowRisk (p : Policy) : Policy :=
  if p.allowedRisks.isEmpty then { p with allowedRisks := .ofList [.low] } else p

/-- The third step puts the bounds of the pool in order. -/
def orderBounds (p : Policy) : Policy :=
  if p.poolMax < p.poolMin then { p with poolMin := p.poolMax } else p

theorem normalize_eq_steps (p : Policy) : p.normalize = p.guard.allowRisk.orderBounds := rfl

theorem isGuarded_guard (p : Policy) : p.guard.IsGuarded := by
  rw [guard]
  split
  · intro _
    refine ⟨rfl, rfl, fun hset => ?_, rfl, rfl⟩
    exact if_neg (Bool.eq_false_iff.mp hset)
  · rename_i hnot
    exact fun hproduction => absurd hproduction hnot

theorem IsGuarded.guard_eq (h : p.IsGuarded) : p.guard = p := by
  rw [guard]
  split
  · rename_i hproduction
    obtain ⟨hisolation, hcheck, hlevel, hhigh, hcritical⟩ := h hproduction
    have hlevel' : (if p.accessLevelSet then p.accessLevel else .restricted) = p.accessLevel := by
      split
      · rfl
      · rename_i hset
        exact (hlevel (Bool.eq_false_iff.mpr hset)).symm
    have hrisks : { p.allowedRisks with high := false, critical := false } = p.allowedRisks := by
      cases hallowed : p.allowedRisks
      simp_all
    obtain ⟨⟩ := p
    simp_all
  · rfl

/-- Allowing a low risk breaks nothing that production demands. -/
theorem IsGuarded.allowRisk (h : p.IsGuarded) : p.allowRisk.IsGuarded := by
  rw [Policy.allowRisk]
  split
  · intro hproduction
    obtain ⟨hisolation, hcheck, hlevel, -, -⟩ := h hproduction
    exact ⟨hisolation, hcheck, hlevel, rfl, rfl⟩
  · exact h

theorem isEmpty_allowRisk (p : Policy) : p.allowRisk.allowedRisks.isEmpty = false := by
  rw [allowRisk]
  split
  · rfl
  · rename_i hrisks
    exact Bool.eq_false_iff.mpr hrisks

/-- **An update leaves a policy that keeps all promises.** -/
theorem isNormal_normalize (p : Policy) : p.normalize.IsNormal := by
  have hguarded : p.guard.allowRisk.IsGuarded := (isGuarded_guard p).allowRisk
  have hrisks := isEmpty_allowRisk p.guard
  rw [normalize_eq_steps, orderBounds]
  split
  · exact ⟨hguarded, hrisks, Nat.le_refl _⟩
  · rename_i hbounds
    exact ⟨hguarded, hrisks, Nat.not_lt.mp hbounds⟩

/-- Nothing is restored of a policy that keeps all promises. -/
theorem IsNormal.normalize_eq (h : p.IsNormal) : p.normalize = p := by
  rw [normalize_eq_steps, h.guarded.guard_eq, allowRisk, if_neg (Bool.eq_false_iff.mp h.risks),
    orderBounds, if_neg (Nat.not_lt.mpr h.bounds)]

/-- **An update restores nothing that was restored before.** -/
theorem normalize_normalize (p : Policy) : p.normalize.normalize = p.normalize :=
  (isNormal_normalize p).normalize_eq

/-- Normalization does not depend on where the policy connects, and leaves it alone. -/
theorem normalize_pointedAt (p : Policy) (t : Target) :
    (p.pointedAt t).normalize = p.normalize.pointedAt t := by
  have hguard : ∀ p : Policy, (p.pointedAt t).guard = p.guard.pointedAt t := by
    intro p
    rw [guard, guard, apply_ite (pointedAt · t)]
    rfl
  have hrisk : ∀ p : Policy, (p.pointedAt t).allowRisk = p.allowRisk.pointedAt t := by
    intro p
    rw [allowRisk, allowRisk, apply_ite (pointedAt · t)]
    rfl
  have hbounds : ∀ p : Policy, (p.pointedAt t).orderBounds = p.orderBounds.pointedAt t := by
    intro p
    rw [orderBounds, orderBounds, apply_ite (pointedAt · t)]
    rfl
  rw [normalize_eq_steps, normalize_eq_steps, hguard, hrisk, hbounds]

theorem target_normalize (p : Policy) : p.normalize.target = p.target := by
  have h := normalize_pointedAt p p.target
  rw [pointedAt_target] at h
  rw [h, target_pointedAt]

/-! ### Settings -/

/-- Every setting has a key of its own, in the form that is compared. -/
theorem ofKey?_normalKey (s : Setting) : Setting.ofKey? (normalKey s.key) = some s := by
  cases s <;> decide +kernel

theorem set_key (p : Policy) (s : Setting) (value : String) :
    p.set s.key value = p.setKnown s (trimString value) := by
  simp only [set, ofKey?_normalKey]

/-- A port in range is set. -/
theorem setKnown_port {n : Nat} (hpos : 1 ≤ n) (hle : n ≤ 65535) (p : Policy) :
    p.setKnown .port (Decimal.digitsText n) = .ok { p with port := n } := by
  have hread : readCount Setting.port.key UInt16.size (Decimal.digitsText n) = .ok n := by
    rw [readCount, Decimal.readBelow?_digitsText (Nat.lt_succ_of_le hle)]
  simp only [setKnown, hread]
  exact if_neg (Nat.ne_of_gt hpos)

/-- What the settings of a target but for the database make of a policy. -/
theorem setAll_login (p : Policy) (ht : t.trimmed.IsTidy) (rest : List (String × String)) :
    p.setAll ((Setting.host.key, t.host) :: (Setting.port.key, Decimal.digitsText t.port) ::
        (Setting.user.key, t.user) :: (Setting.password.key, t.password) :: rest) =
      (p.pointedAt { t.trimmed with database := p.database }).setAll rest := by
  have hhost : ∀ p : Policy, p.setKnown .host (trimString t.host) =
      .ok { p with host := trimString t.host } := fun p => by
    have hne : trimString t.host ≠ "" := ht.host_ne
    rw [setKnown, if_neg hne]
  have hport : ∀ p : Policy, p.setKnown .port (trimString (Decimal.digitsText t.port)) =
      .ok { p with port := t.port } := fun p => by
    rw [Decimal.trimString_digitsText]
    exact setKnown_port ht.port_pos ht.port_le p
  simp only [setAll, set_key, hhost, hport]
  rfl

/-- **What the settings of a target make of a policy.** -/
theorem update_entries (p : Policy) (ht : t.trimmed.IsTidy) :
    p.update t.entries = .ok (p.pointedAt t.trimmed).normalize := by
  have hall : p.setAll t.entries = .ok (p.pointedAt t.trimmed) := by
    rw [Target.entries, setAll_login p ht]
    simp only [setAll, set_key]
    rfl
  rw [update, hall]
  rfl

/-- What is made from a value that is read has what every policy made from a value has. -/
theorem holds_of_map {α : Type} (holds : Policy → Prop) {x : Except SettingError α}
    {f : α → Policy} (hf : ∀ a, holds (f a)) (hmap : x.map f = .ok q) : holds q := by
  cases x with
  | error e => cases hmap
  | ok a =>
      cases hmap
      exact hf a

/-- A number that is read is below the bound. -/
theorem lt_of_readCount {key value : String} {bound n : Nat}
    (h : readCount key bound value = .ok n) : n < bound := by
  rw [readCount] at h
  split at h
  · rename_i m hread
    cases h
    exact Decimal.lt_of_readBelow? hread
  · cases h

/-- A setting leaves the target tidy. -/
theorem isTidy_setKnown {s : Setting} {value : String} (h : p.target.IsTidy)
    (htrim : trimString value = value) (hset : p.setKnown s value = .ok q) :
    q.target.IsTidy := by
  cases s with
  | host =>
      cases hset
      by_cases hempty : value = ""
      · exact { h with
          host_ne := by simp [target, hempty]
          host_eq := by simp only [target, if_pos hempty]; decide }
      · exact { h with
          host_ne := by simp [target, hempty]
          host_eq := by simpa only [target, if_neg hempty] using htrim }
  | port =>
      rw [setKnown] at hset
      cases hread : readCount Setting.port.key UInt16.size value with
      | error e =>
          rw [hread] at hset
          cases hset
      | ok n =>
          rw [hread] at hset
          by_cases hzero : n = 0
          · rw [hzero] at hset
            cases hset
          · obtain rfl : { p with port := n } = q := Except.ok.inj ((if_neg hzero).symm.trans hset)
            exact { h with
              port_pos := Nat.one_le_iff_ne_zero.mpr hzero
              port_le := Nat.le_of_lt_succ (lt_of_readCount hread) }
  | user =>
      cases hset
      exact { h with user_eq := htrim }
  | password =>
      cases hset
      exact { h with password_eq := htrim }
  | database =>
      cases hset
      exact { h with database_eq := htrim }
  | authPlugin | connectTimeout | poolMin | poolMax | poolRecycle | poolLifetime | acquireTimeout
  | queryCheck | maxLength | isolation | environment =>
      -- The value is read, and what is set has nothing to do with the target.
      rw [setKnown] at hset
      refine holds_of_map (fun q => q.target.IsTidy) ?_ hset
      exact fun _ => h
  | allowedRisks | blockedPatterns | accessLevel =>
      rw [setKnown] at hset
      rw [← Except.ok.inj hset]
      simpa only [target] using h

theorem isTidy_set {key value : String} (h : p.target.IsTidy) (hset : p.set key value = .ok q) :
    q.target.IsTidy := by
  simp only [set] at hset
  split at hset
  · exact isTidy_setKnown h (trimString_trimString value) hset
  · cases hset
    exact h

theorem isTidy_setAll {entries : List (String × String)} (h : p.target.IsTidy)
    (hset : p.setAll entries = .ok q) : q.target.IsTidy := by
  induction entries generalizing p with
  | nil =>
      cases hset
      exact h
  | cons entry rest ih =>
      obtain ⟨key, value⟩ := entry
      rw [setAll] at hset
      cases hfirst : p.set key value with
      | error e =>
          rw [hfirst] at hset
          cases hset
      | ok p' =>
          rw [hfirst] at hset
          exact ih (isTidy_set h hfirst) hset

/-- An update normalizes what its settings make. -/
theorem exists_of_update {entries : List (String × String)} (h : p.update entries = .ok q) :
    ∃ p', p.setAll entries = .ok p' ∧ p'.normalize = q := by
  rw [update] at h
  cases hset : p.setAll entries with
  | error e =>
      rw [hset] at h
      cases h
  | ok p' =>
      rw [hset] at h
      exact ⟨p', rfl, Except.ok.inj h⟩

/-! ### Reachable policies -/

/-- A policy that updates lead to from the initial one. A pool may put another plugin in place
meanwhile. -/
inductive Reachable : Policy → Prop
  | initial : Reachable .initial
  | update {p q : Policy} (h : Reachable p) (entries : List (String × String))
      (hupdate : p.update entries = .ok q) : Reachable q
  | plugin {p : Policy} (h : Reachable p) (plugin : Option AuthPlugin) :
      Reachable { p with authPlugin := plugin }

namespace Reachable

/-- **After updates a policy keeps all promises.** -/
theorem isNormal (h : p.Reachable) : p.IsNormal := by
  induction h with
  | initial => exact ⟨nofun, rfl, by decide⟩
  | update _ entries hupdate =>
      obtain ⟨p', -, rfl⟩ := exists_of_update hupdate
      exact isNormal_normalize p'
  | plugin _ _ ih => exact ⟨ih.guarded, ih.risks, ih.bounds⟩

/-- **After updates a policy says where to connect** in the form in which settings are made. -/
theorem isTidy_target (h : p.Reachable) : p.target.IsTidy := by
  induction h with
  | initial => exact ⟨by decide, by decide, by decide, by decide, by decide, by decide, by decide⟩
  | update _ entries hupdate ih =>
      obtain ⟨p', hset, rfl⟩ := exists_of_update hupdate
      rw [target_normalize]
      exact isTidy_setAll ih hset
  | plugin _ _ ih => exact ih

/-- Valid settings of a target change nothing else. -/
theorem update_entries_of_faults (h : p.Reachable) (ht : t.faults = []) :
    p.update t.entries = .ok (p.pointedAt t.trimmed) := by
  rw [update_entries p (Target.isTidy_trimmed ht), normalize_pointedAt, h.isNormal.normalize_eq]

/-- **The settings that were written down lead back**, from wherever the policy was pointed. -/
theorem update_connectionEntries (h : p.Reachable) (t : Target) :
    (p.pointedAt t).update p.connectionEntries = .ok p := by
  have htidy := h.isTidy_target
  have htrimmed : p.target.trimmed = p.target := htidy.trimmed_eq
  rw [connectionEntries_eq, update_entries _ (htrimmed.symm ▸ htidy), htrimmed,
    pointedAt_pointedAt, pointedAt_target, h.isNormal.normalize_eq]

end Reachable

/-! ### Sources -/

section

variable {ε δ α β : Type}

/-- What two steps give is given by the second for what the first gives. -/
theorem exists_of_bind {x : Except ε α} {f : α → Except ε β} {b : β} (h : x >>= f = .ok b) :
    ∃ a, x = .ok a ∧ f a = .ok b := by
  cases x with
  | error e => cases h
  | ok a => exact ⟨a, rfl, h⟩

theorem eq_ok_of_mapError {x : Except ε α} {f : ε → δ} {a : α} (h : x.mapError f = .ok a) :
    x = .ok a := by
  cases x with
  | error e => cases h
  | ok b =>
      cases h
      rfl

end

theorem reachable_ofFile {file : ConfigFile} (h : ofFile file = .ok p) : p.Reachable := by
  cases file with
  | missing =>
      cases h
      exact .initial
  | unreadable => cases h
  | text content =>
      rw [ofFile, ofToml] at h
      split at h
      · cases h
      · obtain ⟨settings, -, hsettings⟩ := exists_of_bind h
        exact .update .initial settings (eq_ok_of_mapError hsettings)

/-- **Every policy that sources describe is reachable.** -/
theorem reachable_ofSources {sources : Sources} (h : ofSources sources = .ok p) :
    p.Reachable := by
  obtain ⟨p₁, hfile, h⟩ := exists_of_bind h
  obtain ⟨p₂, hvariables, h⟩ := exists_of_bind h
  have h₂ : p₂.Reachable :=
    .update (reachable_ofFile (eq_ok_of_mapError hfile)) _ (eq_ok_of_mapError hvariables)
  have hpairs : ∀ p₃ : Policy, p₃.Reachable →
      p₃.updateOfPairs "--set" sources.overrides = .ok p → p.Reachable := by
    intro p₃ h₃ h
    obtain ⟨pairs, -, hupdate⟩ := exists_of_bind h
    exact .update h₃ pairs (eq_ok_of_mapError hupdate)
  dsimp only at h
  split at h
  · obtain ⟨p₃, hurl, h⟩ := exists_of_bind h
    obtain ⟨described, -, hupdate⟩ := exists_of_bind hurl
    exact hpairs p₃ (.update h₂ _ (eq_ok_of_mapError hupdate)) h
  · exact hpairs p₂ h₂ h

end Policy

end SqlGateway
