import Mathlib.Logic.Function.Basic
import SqlGateway.Proofs.Policy.History
import SqlGateway.Proofs.Text.NameMap

/-!
# Settings in Any Order

An update makes its settings one after another, yet their order does not matter as long as no key
is given twice. A policy is what it holds under each of its settings, together with the settings
that the gateway does not know (`Policy.held`, `Policy.ofHeld`). A setting is read without a look
at the policy (`Setting.read`) and then put in its own place (`Policy.put`), so making it is one
and the same edit of every policy (`Policy.edit`). Edits in different places commute, and an update
restores what every policy promises only when all of them are made.

## Main results

* `setKnown_eq_put`: a known setting is read and put in its place.
* `edit_comm`: settings with different keys commute.
* `setAll_perm`: the order of settings with different keys does not matter.
* `attempt_perm`: a call that makes the same settings in another order leaves the same policy.
-/

namespace SqlGateway

open Text

/-! ### Maps from names -/

namespace Text.NameMap

variable {α : Type} {m n : NameMap α}

theorem mem_entries_iff {name : String} {value : α} :
    (name, value) ∈ m.entries ↔ m.get? name = some value := by
  refine ⟨get?_of_mem, fun hget => ?_⟩
  obtain ⟨front, back, hentries, -⟩ := exists_of_get? hget
  simp [hentries]

/-- Two maps are equal if the same is found in both under every name. -/
theorem ext_get? (h : ∀ name, m.get? name = n.get? name) : m = n := by
  have hirrefl : Std.Irrefl (α := String × α) (fun a b => a.1 < b.1) :=
    ⟨fun a => String.lt_irrefl a.1⟩
  have hantisymm : Std.Antisymm (α := String × α) (fun a b => a.1 < b.1) :=
    ⟨fun a b hab hba => absurd (String.lt_trans hab hba) (String.lt_irrefl a.1)⟩
  have hentries : m.entries = n.entries :=
    m.ascending.eq_of_mem_iff n.ascending fun ⟨name, value⟩ => by
      rw [mem_entries_iff, mem_entries_iff, h]
  cases m
  cases n
  cases hentries
  rfl

/-- Entries with different names can be set in any order. -/
theorem insert_comm {name other : String} (hne : name ≠ other) (value value' : α) :
    (m.insert name value).insert other value' = (m.insert other value').insert name value := by
  refine ext_get? fun name' => ?_
  by_cases hother : name' = other
  · subst hother
    rw [get?_insert_self, get?_insert_of_ne hne.symm, get?_insert_self]
  · by_cases hname : name' = name
    · subst hname
      rw [get?_insert_of_ne hother, get?_insert_self, get?_insert_self]
    · rw [get?_insert_of_ne hother, get?_insert_of_ne hname, get?_insert_of_ne hname,
        get?_insert_of_ne hother]

end Text.NameMap

/-! ### What a policy holds -/

/-- What is held under a setting. The level of access goes with the mark that it was set by
hand. -/
abbrev Setting.Value : Setting → Type
  | .host | .user | .password | .database => String
  | .port | .connectTimeout | .poolMin | .poolMax | .poolRecycle | .maxLength => Nat
  | .authPlugin => Option AuthPlugin
  | .poolLifetime => Option Nat
  | .acquireTimeout => Duration
  | .allowedRisks => RiskSet
  | .queryCheck | .isolation => Bool
  | .blockedPatterns => List String
  | .accessLevel => AccessLevel × Bool
  | .environment => Environment

/-- Reads the trimmed value of a setting. -/
def Setting.read (s : Setting) (value : String) : Except SettingError s.Value :=
  match s with
  | .host => .ok (if value = "" then "localhost" else value)
  | .port => do
    let n ← readCount Setting.port.key UInt16.size value
    if n = 0 then .error (.portRange Setting.port.key) else .ok n
  | .user | .password | .database => .ok value
  | .authPlugin => AuthPlugin.read value
  | .connectTimeout => readCount Setting.connectTimeout.key UInt64.size value
  | .poolMin => readCount Setting.poolMin.key UInt32.size value
  | .poolMax => readCount Setting.poolMax.key UInt32.size value
  | .poolRecycle => readCount Setting.poolRecycle.key UInt64.size value
  | .poolLifetime =>
    (readCount Setting.poolLifetime.key UInt64.size value).map fun n =>
      if n = 0 then none else some n
  | .acquireTimeout => readSeconds Setting.acquireTimeout.key value
  | .allowedRisks => .ok (readRisks value)
  | .queryCheck => readSwitch Setting.queryCheck.key value
  | .maxLength => readCount Setting.maxLength.key UInt64.size value
  | .blockedPatterns => .ok (readPatterns value)
  | .isolation => readSwitch Setting.isolation.key value
  | .accessLevel => .ok (.read value, true)
  | .environment => Environment.read value

namespace Policy

variable {entries entries' : List (String × String)}

/-- What a policy holds under each setting. -/
def held (p : Policy) : (s : Setting) → s.Value
  | .host => p.host
  | .port => p.port
  | .user => p.user
  | .password => p.password
  | .database => p.database
  | .authPlugin => p.authPlugin
  | .connectTimeout => p.connectTimeout
  | .poolMin => p.poolMin
  | .poolMax => p.poolMax
  | .poolRecycle => p.poolRecycle
  | .poolLifetime => p.poolLifetime
  | .acquireTimeout => p.acquireTimeout
  | .allowedRisks => p.allowedRisks
  | .queryCheck => p.queryCheck
  | .maxLength => p.maxLength
  | .blockedPatterns => p.blockedPatterns
  | .isolation => p.isolation
  | .accessLevel => (p.accessLevel, p.accessLevelSet)
  | .environment => p.environment

/-- The policy that holds given values, and given settings that the gateway does not know. -/
def ofHeld (held : (s : Setting) → s.Value) (extras : NameMap String) : Policy where
  host := held .host
  port := held .port
  user := held .user
  password := held .password
  database := held .database
  authPlugin := held .authPlugin
  connectTimeout := held .connectTimeout
  poolMin := held .poolMin
  poolMax := held .poolMax
  poolRecycle := held .poolRecycle
  poolLifetime := held .poolLifetime
  acquireTimeout := held .acquireTimeout
  allowedRisks := held .allowedRisks
  queryCheck := held .queryCheck
  maxLength := held .maxLength
  blockedPatterns := held .blockedPatterns
  isolation := held .isolation
  accessLevel := (held .accessLevel).1
  accessLevelSet := (held .accessLevel).2
  environment := held .environment
  extras := extras

theorem held_ofHeld (held : (s : Setting) → s.Value) (extras : NameMap String) :
    (ofHeld held extras).held = held := by
  funext s
  cases s <;> rfl

/-- Puts a value in the place of a setting. -/
def put (p : Policy) (s : Setting) (v : s.Value) : Policy :=
  match s with
  | .host => { p with host := v }
  | .port => { p with port := v }
  | .user => { p with user := v }
  | .password => { p with password := v }
  | .database => { p with database := v }
  | .authPlugin => { p with authPlugin := v }
  | .connectTimeout => { p with connectTimeout := v }
  | .poolMin => { p with poolMin := v }
  | .poolMax => { p with poolMax := v }
  | .poolRecycle => { p with poolRecycle := v }
  | .poolLifetime => { p with poolLifetime := v }
  | .acquireTimeout => { p with acquireTimeout := v }
  | .allowedRisks => { p with allowedRisks := v }
  | .queryCheck => { p with queryCheck := v }
  | .maxLength => { p with maxLength := v }
  | .blockedPatterns => { p with blockedPatterns := v }
  | .isolation => { p with isolation := v }
  | .accessLevel => { p with accessLevel := v.1, accessLevelSet := v.2 }
  | .environment => { p with environment := v }

/-- A value is put in one place, and the others are left alone. -/
theorem put_eq_update (p : Policy) (s : Setting) (v : s.Value) :
    p.put s v = ofHeld (Function.update p.held s v) p.extras := by
  cases s <;> rfl

/-- Puts a setting that the gateway does not know under its name. -/
def putExtra (p : Policy) (name value : String) : Policy :=
  { p with extras := p.extras.insert name value }

/-- Values in different places can be put there in any order. -/
theorem put_comm {s t : Setting} (hne : s ≠ t) (v : s.Value) (w : t.Value) (p : Policy) :
    (p.put s v).put t w = (p.put t w).put s v := by
  simp only [put_eq_update, held_ofHeld]
  exact congrArg (ofHeld · _) (Function.update_comm hne v w p.held)

/-- A setting that the gateway does not know is put beside the others. -/
theorem put_putExtra (s : Setting) (v : s.Value) (name value : String) (p : Policy) :
    (p.putExtra name value).put s v = (p.put s v).putExtra name value := by
  cases s <;> rfl

theorem putExtra_comm {name other : String} (hne : name ≠ other) (value value' : String)
    (p : Policy) :
    (p.putExtra name value).putExtra other value' =
      (p.putExtra other value').putExtra name value :=
  congrArg (fun extras => { p with extras := extras }) (NameMap.insert_comm hne value value')

/-! ### What a setting does -/

/-- **A known setting is read and put in its place.** -/
theorem setKnown_eq_put (p : Policy) (s : Setting) (value : String) :
    p.setKnown s value = (s.read value).map (p.put s) := by
  cases s with
  | port =>
      simp only [setKnown, Setting.read]
      rcases readCount Setting.port.key UInt16.size value with e | n
      · rfl
      · change (if n = 0 then _ else _) = Except.map _ (if n = 0 then _ else _)
        split <;> rfl
  | poolLifetime =>
      simp only [setKnown, Setting.read]
      rcases readCount Setting.poolLifetime.key UInt64.size value <;> rfl
  | host | user | password | database | allowedRisks | blockedPatterns | accessLevel =>
      simp only [setKnown, Setting.read, Except.map, put]
  | authPlugin | connectTimeout | poolMin | poolMax | poolRecycle | acquireTimeout | queryCheck
  | maxLength | isolation | environment =>
      simp only [setKnown, Setting.read]
      rfl

/-- What a setting does to every policy, if its value is valid. -/
def edit (key value : String) : Except SettingError (Policy → Policy) :=
  match Setting.ofKey? (normalKey key) with
  | some s => (s.read (trimString value)).map fun v p => p.put s v
  | none => .ok fun p => p.putExtra (normalKey key) (trimString value)

/-- **A setting is one and the same edit of every policy.** -/
theorem set_eq_edit (p : Policy) (key value : String) :
    p.set key value = (edit key value).map fun f => f p := by
  rcases hkey : Setting.ofKey? (normalKey key) with _ | s
  · simp only [set, edit, hkey]
    rfl
  · simp only [set, edit, hkey, setKnown_eq_put]
    rcases s.read (trimString value) <;> rfl

theorem key_of_ofKey? {key : String} {s : Setting} (h : Setting.ofKey? key = some s) :
    s.key = key := by
  simpa using List.find?_some h

/-- What is made of a value that is read comes from a value. -/
theorem exists_of_map {α β : Type} {x : Except SettingError α} {f : α → β} {b : β}
    (h : x.map f = .ok b) : ∃ a, x = .ok a ∧ f a = b := by
  cases x with
  | error e => cases h
  | ok a => exact ⟨a, rfl, Except.ok.inj h⟩

/-- **Settings with different keys commute.** -/
theorem edit_comm {key key' value value' : String} {f g : Policy → Policy}
    (hne : normalKey key ≠ normalKey key') (hf : edit key value = .ok f)
    (hg : edit key' value' = .ok g) (p : Policy) : g (f p) = f (g p) := by
  rcases hkey : Setting.ofKey? (normalKey key) with _ | s <;>
    rcases hkey' : Setting.ofKey? (normalKey key') with _ | t <;>
    simp only [edit, hkey, hkey'] at hf hg
  · cases hf
    cases hg
    exact putExtra_comm hne _ _ p
  · obtain ⟨w, -, rfl⟩ := exists_of_map hg
    cases hf
    exact put_putExtra t w _ _ p
  · obtain ⟨v, -, rfl⟩ := exists_of_map hf
    cases hg
    exact (put_putExtra s v _ _ p).symm
  · obtain ⟨v, -, rfl⟩ := exists_of_map hf
    obtain ⟨w, -, rfl⟩ := exists_of_map hg
    refine put_comm ?_ v w p
    rintro rfl
    -- one setting would have both keys
    exact hne ((key_of_ofKey? hkey).symm.trans (key_of_ofKey? hkey'))

/-! ### Many settings -/

section

variable {entry : String × String}

theorem setAll_of_error {e : SettingError} (h : edit entry.1 entry.2 = .error e) (p : Policy)
    (rest : List (String × String)) : p.setAll (entry :: rest) = .error e := by
  rw [setAll, set_eq_edit, h]
  rfl

theorem setAll_of_ok {f : Policy → Policy} (h : edit entry.1 entry.2 = .ok f) (p : Policy)
    (rest : List (String × String)) : p.setAll (entry :: rest) = (f p).setAll rest := by
  rw [setAll, set_eq_edit, h]
  rfl

end

/-- **The order of settings with different keys does not matter.** -/
theorem setAll_perm (hperm : entries.Perm entries')
    (hkeys : entries.Pairwise fun a b => normalKey a.1 ≠ normalKey b.1) (p : Policy) :
    (p.setAll entries).toOption = (p.setAll entries').toOption := by
  induction hperm generalizing p with
  | nil => rfl
  | cons entry _ ih =>
      rcases hedit : edit entry.1 entry.2 with e | f
      · rw [setAll_of_error hedit, setAll_of_error hedit]
      · rw [setAll_of_ok hedit, setAll_of_ok hedit]
        exact ih (List.pairwise_cons.mp hkeys).2 (f p)
  | swap a b rest =>
      rcases ha : edit a.1 a.2 with e | f <;> rcases hb : edit b.1 b.2 with e' | g
      · rw [setAll_of_error ha, setAll_of_error hb, Except.toOption, Except.toOption]
      · rw [setAll_of_error ha, setAll_of_ok hb, setAll_of_error ha]
      · rw [setAll_of_ok ha, setAll_of_error hb, setAll_of_error hb]
      · have hne : normalKey b.1 ≠ normalKey a.1 :=
          (List.pairwise_cons.mp hkeys).1 a List.mem_cons_self
        rw [setAll_of_ok ha, setAll_of_ok hb, setAll_of_ok ha, setAll_of_ok hb,
          edit_comm hne hb ha]
  | trans hperm _ ih₁ ih₂ =>
      exact (ih₁ hkeys p).trans (ih₂ ((hperm.pairwise_iff Ne.symm).mp hkeys) p)

/-- Settings are made if each of them is valid, whatever the policy is. -/
theorem setAll_isSome_iff (entries : List (String × String)) (p : Policy) :
    (p.setAll entries).toOption.isSome ↔
      ∀ entry ∈ entries, (edit entry.1 entry.2).toOption.isSome := by
  induction entries generalizing p with
  | nil => simp [setAll, Except.toOption]
  | cons entry rest ih =>
      rw [List.forall_mem_cons]
      rcases hedit : edit entry.1 entry.2 with e | f
      · rw [setAll_of_error hedit]
        simp [Except.toOption]
      · rw [setAll_of_ok hedit, ih (f p)]
        simp [Except.toOption]

/-! ### Calls -/

theorem attempt_of_error {p : Policy} {e : SettingError} (h : p.setAll entries = .error e) :
    p.attempt entries = (some e, p) := by
  rw [attempt, update, h]
  rfl

theorem attempt_of_ok {p q : Policy} (h : p.setAll entries = .ok q) :
    p.attempt entries = (none, q.normalize) := by
  rw [attempt, update, h]
  rfl

/-- A call succeeds if each of its settings is valid, whatever the policy is. -/
theorem attempt_eq_none_iff (p : Policy) (entries : List (String × String)) :
    (p.attempt entries).1 = none ↔
      ∀ entry ∈ entries, (edit entry.1 entry.2).toOption.isSome := by
  rw [← setAll_isSome_iff entries p]
  rcases h : p.setAll entries with e | q
  · rw [attempt_of_error h]
    simp [Except.toOption]
  · rw [attempt_of_ok h]
    simp [Except.toOption]

/-- **The order of the settings in a call does not matter**, if no key is given twice: whatever
the policy is, the call makes the same policy of it in every order, if each setting is valid on its
own, and fails and leaves it alone in every order otherwise. -/
theorem attempt_perm (hperm : entries.Perm entries')
    (hkeys : entries.Pairwise fun a b => normalKey a.1 ≠ normalKey b.1) (p : Policy) :
    ((∀ entry ∈ entries, (p.attempt [entry]).1 = none) ∧
        ∃ q, p.attempt entries = (none, q) ∧ p.attempt entries' = (none, q)) ∨
      ((∃ entry ∈ entries, (p.attempt [entry]).1 ≠ none) ∧
        ∃ e e', p.attempt entries = (some e, p) ∧ p.attempt entries' = (some e', p)) := by
  have heach : (∀ entry ∈ entries, (p.attempt [entry]).1 = none) ↔
      (p.attempt entries).1 = none := by
    simp only [attempt_eq_none_iff, List.forall_mem_singleton]
  have hset := setAll_perm hperm hkeys p
  rcases h : p.setAll entries with e | q <;> rcases h' : p.setAll entries' with e' | q' <;>
    rw [h, h'] at hset
  · right
    rw [attempt_of_error h] at heach
    refine ⟨?_, e, e', attempt_of_error h, attempt_of_error h'⟩
    by_contra hall
    push Not at hall
    cases heach.mp hall
  · cases hset
  · cases hset
  · left
    obtain rfl : q = q' := Option.some.inj hset
    rw [attempt_of_ok h] at heach
    exact ⟨heach.mpr rfl, _, attempt_of_ok h, attempt_of_ok h'⟩

/-- Production, the risks that it takes away, the bounds of the pool and a setting that the gateway
does not know, forwards and backwards. -/
theorem attempt_perm_of_production :
    ∃ q, initial.attempt [("env_type", "production"), ("MYSQL_ALLOWED_RISK_LEVELS", "HIGH"),
        (" mysql_db_pool_min_size", "50"), ("MYSQL_DB_POOL_MAX_SIZE", "10"), ("note", "a")] =
          (none, q) ∧
      initial.attempt [("note", "a"), ("MYSQL_DB_POOL_MAX_SIZE", "10"),
        (" mysql_db_pool_min_size", "50"), ("MYSQL_ALLOWED_RISK_LEVELS", "HIGH"),
        ("env_type", "production")] = (none, q) := by
  refine (attempt_perm (List.reverse_perm _).symm ?_ initial).elim And.right fun h => ?_
  · decide +kernel
  · exact absurd h.1 (by decide +kernel)

end Policy

end SqlGateway
