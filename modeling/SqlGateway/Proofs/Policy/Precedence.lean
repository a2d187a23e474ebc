import SqlGateway.Proofs.Policy.WriteBack

/-!
# Which Source Counts

What is held under a setting is decided by the last of the texts that were given for it: it is
what the setting reads from that text, and what was held before if there is none
(`Setting.Settles`). For the settings that say where to connect this holds of whole updates, since
normalization leaves them alone, and so it holds of one source after another: a text in a later
source goes before those in earlier ones (`Setting.Settles.over`).

The configuration file, the environment and the single settings are such sources. A connection
string is not: a policy is made of it first, and what that policy holds, its defaults among it,
is written into the other. A part that the string leaves out is therefore not kept from the file
or the environment but falls back to its default.

## Main results

* `settles_update`: what an update leaves under a setting that says where to connect.
* `settles_ofConnectionString`: what a connection string makes of the parts that it has.
* `settles_ofSources`: which text settles each setting of a policy made from its sources.
* `highest_source_settles_iff`: when that is the text of the highest source that has one.
-/

namespace SqlGateway

open Text

/-! ### The text that counts -/

/-- The text that is given for a setting last. -/
def Setting.lastGiven? (s : Setting) : List (String × String) → Option String
  | [] => none
  | (key, value) :: rest =>
    (s.lastGiven? rest).or (if normalKey key = s.key then some value else none)

/-- What is held under a setting where a text may be given: what the setting reads from the text,
or without one what was held before. -/
inductive Setting.Settles (s : Setting) : Option String → s.Value → s.Value → Prop
  | given {text : String} {old v : s.Value} (hread : s.read (trimString text) = .ok v) :
      Settles s (some text) old v
  | kept {v : s.Value} : Settles s none v v

namespace Setting

variable {s : Setting}

/-- **A later text goes before an earlier one.** -/
theorem Settles.over {earlier later : Option String} {old v w : s.Value}
    (hlater : s.Settles later v w) (hearlier : s.Settles earlier old v) :
    s.Settles (later.or earlier) old w := by
  cases hlater with
  | given hread => exact .given hread
  | kept => exact hearlier

theorem Settles.eq_of_none {old v : s.Value} (h : s.Settles none old v) : v = old := by
  cases h
  rfl

/-- Every setting has a key of its own. -/
theorem normalKey_key (s : Setting) : normalKey s.key = s.key :=
  (Policy.key_of_ofKey? (Policy.ofKey?_normalKey s)).symm

theorem ofKey?_eq_some_iff {key : String} :
    ofKey? (normalKey key) = some s ↔ normalKey key = s.key := by
  refine ⟨fun h => (Policy.key_of_ofKey? h).symm, fun h => ?_⟩
  rw [h, ← normalKey_key, Policy.ofKey?_normalKey]

/-- Settings with the same key are the same. -/
theorem normalKey_key_eq_iff {t : Setting} : normalKey t.key = s.key ↔ t = s := by
  rw [← ofKey?_eq_some_iff, Policy.ofKey?_normalKey, Option.some.injEq]

end Setting

namespace Policy

variable {p q : Policy} {s : Setting} {entries : List (String × String)}

/-! ### Updates -/

/-- What one entry leaves under a setting. -/
theorem settles_edit {key value : String} {f : Policy → Policy} (h : edit key value = .ok f)
    (p : Policy) (s : Setting) :
    s.Settles (if normalKey key = s.key then some value else none) (p.held s) ((f p).held s) := by
  rw [edit] at h
  split at h
  · rename_i t ht
    obtain ⟨v, hread, rfl⟩ := exists_of_map h
    by_cases heq : s = t
    · subst heq
      rw [if_pos (Setting.ofKey?_eq_some_iff.mp ht)]
      exact (held_put_self p s v).symm ▸ .given hread
    · have hkey : normalKey key ≠ s.key := fun hkey =>
        heq (Option.some.inj ((Setting.ofKey?_eq_some_iff.mpr hkey).symm.trans ht))
      rw [if_neg hkey]
      exact (held_put_of_ne p heq v).symm ▸ .kept
  · rename_i hnone
    have hkey : normalKey key ≠ s.key := fun hkey => by
      cases (Setting.ofKey?_eq_some_iff.mpr hkey).symm.trans hnone
    cases h
    have hheld : (p.putExtra (normalKey key) (trimString value)).held s = p.held s := by
      cases s <;> rfl
    rw [if_neg hkey, hheld]
    exact .kept

/-- What entries leave under a setting, by induction on the entries. -/
theorem settles_setAll (h : p.setAll entries = .ok q) (s : Setting) :
    s.Settles (s.lastGiven? entries) (p.held s) (q.held s) := by
  induction entries generalizing p with
  | nil =>
      cases h
      exact .kept
  | cons entry rest ih =>
      rcases hedit : edit entry.1 entry.2 with e | f
      · rw [setAll_of_error hedit] at h
        cases h
      · rw [setAll_of_ok hedit] at h
        exact (ih h).over (settles_edit hedit p s)

/-- Policies with the same target hold the same under the settings that say where to connect. -/
theorem held_of_target (hs : s ∈ Setting.connection) (htarget : p.target = q.target) :
    p.held s = q.held s := by
  simp only [target, Target.mk.injEq] at htarget
  obtain ⟨hhost, hport, huser, hpassword, hdatabase⟩ := htarget
  cases s with
  | host => exact hhost
  | port => exact hport
  | user => exact huser
  | password => exact hpassword
  | database => exact hdatabase
  | _ => simp [Setting.connection] at hs

/-- **What an update leaves under a setting that says where to connect.** -/
theorem settles_update (hs : s ∈ Setting.connection) (h : p.update entries = .ok q) :
    s.Settles (s.lastGiven? entries) (p.held s) (q.held s) := by
  obtain ⟨p', hset, rfl⟩ := exists_of_update h
  rw [held_of_target hs (target_normalize p')]
  exact settles_setAll hset s

/-! ### Lists with one text for each setting -/

theorem lastGiven?_filterMap_of_notMem (text? : Setting → Option String) {settings : List Setting}
    (hs : s ∉ settings) :
    s.lastGiven? (settings.filterMap fun t => (text? t).map (t.key, ·)) = none := by
  induction settings with
  | nil => rfl
  | cons t settings ih =>
      obtain ⟨hne, hs⟩ := not_or.mp (mt List.mem_cons.mpr hs)
      have hkey : normalKey t.key ≠ s.key := mt Setting.normalKey_key_eq_iff.mp (Ne.symm hne)
      rw [List.filterMap_cons]
      cases text? t with
      | none => exact ih hs
      | some text => simp [Setting.lastGiven?, ih hs, hkey]

/-- A list that gives each of some settings at most one text gives it that text. -/
theorem lastGiven?_filterMap (text? : Setting → Option String) {settings : List Setting}
    (hs : s ∈ settings) (hnodup : settings.Nodup) :
    s.lastGiven? (settings.filterMap fun t => (text? t).map (t.key, ·)) = text? s := by
  induction settings with
  | nil => cases hs
  | cons t settings ih =>
      obtain ⟨ht, hnodup⟩ := List.nodup_cons.mp hnodup
      rw [List.filterMap_cons]
      rcases List.mem_cons.mp hs with rfl | hs
      · have hrest := lastGiven?_filterMap_of_notMem text? ht
        cases htext : text? s with
        | none => exact hrest
        | some text => simp [Setting.lastGiven?, hrest, Setting.normalKey_key_eq_iff]
      · have hkey : normalKey t.key ≠ s.key := fun hkey =>
          ht (Setting.normalKey_key_eq_iff.mp hkey ▸ hs)
        cases text? t with
        | none => exact ih hs hnodup
        | some text => simp [Setting.lastGiven?, ih hs hnodup, hkey]

/-- What the environment gives for a setting is the variable with its key as a name. -/
theorem lastGiven?_settingsOfVariables (vars : Dotenv.Variables) (s : Setting) :
    s.lastGiven? (settingsOfVariables vars) = vars.get? s.key :=
  lastGiven?_filterMap (fun s => vars.get? s.key) (by cases s <;> decide) (by decide)

end Policy

/-! ### Connection strings -/

/-- The part of a URL that gives a setting, if the URL has it. -/
def Url.part? (u : Url) : Setting → Option String
  | .host => u.host
  | .port => u.port.map Decimal.digitsText
  | .user => if u.user = "" then none else some u.user
  | .password => u.password
  | .database => u.database?
  | _ => none

/-- A URL without a host gives the default one. -/
theorem Url.settings_eq_filterMap (u : Url) :
    u.settings = Setting.connection.filterMap fun s =>
      (if s = .host then some (u.host.getD "localhost") else u.part? s).map (s.key, ·) := by
  have hgiven : ∀ (s : Setting) (text : Option String),
      text.toList.map (s.key, ·) = (text.map (s.key, ·)).toList := fun _ text => by
    cases text <;> rfl
  simp [Url.settings, List.filterMap_eq_flatMap_toList, Setting.connection, part?, hgiven]

namespace Policy

variable {p q : Policy} {s : Setting}

theorem reachable_ofConnectionString {text : String} (h : ofConnectionString text = .ok p) :
    p.Reachable := by
  rw [ofConnectionString] at h
  split at h
  · cases h
  · split at h
    · exact .update .initial _ (eq_ok_of_mapError h)
    · cases h

/-- **What a connection string makes of its parts**; a part that it leaves out has the default. -/
theorem settles_ofConnectionString {text : String} (h : ofConnectionString text = .ok p) :
    ∃ u, Url.read text = .ok u ∧
      ∀ s ∈ Setting.connection, s.Settles (u.part? s) (initial.held s) (p.held s) := by
  rw [ofConnectionString] at h
  split at h
  · cases h
  · rename_i u hread
    split at h
    · refine ⟨u, hread, fun s hs => ?_⟩
      have hsettles := settles_update hs (eq_ok_of_mapError h)
      rw [Url.settings_eq_filterMap, lastGiven?_filterMap _ hs (by decide)] at hsettles
      split at hsettles
      · rename_i hhost
        subst hhost
        cases hpart : u.host with
        | some host => simpa [Url.part?, hpart] using hsettles
        | none =>
            rw [hpart] at hsettles
            obtain ⟨hlocal⟩ := hsettles
            have hdefault : p.held .host = initial.held .host :=
              (Except.ok.inj hlocal).symm.trans (by decide)
            simpa [Url.part?, hpart, hdefault] using Setting.Settles.kept
      · exact hsettles
    · cases h

/-- Written into another policy, the parts of a connection string and the defaults take the place
of what the policy held. -/
theorem settles_updateOfConnectionString {text : String}
    (h : p.updateOfConnectionString text = .ok q) :
    ∃ u, Url.read text = .ok u ∧
      ∀ s ∈ Setting.connection, s.Settles (u.part? s) (initial.held s) (q.held s) := by
  obtain ⟨described, hdescribed, h⟩ := exists_of_bind h
  replace hdescribed := eq_ok_of_mapError hdescribed
  obtain ⟨u, hread, hsettles⟩ := settles_ofConnectionString hdescribed
  have htidy := (reachable_ofConnectionString hdescribed).isTidy_target
  have hq : q.target = described.target := by
    have hupdate := update_entries (t := described.target) p (htidy.trimmed_eq.symm ▸ htidy)
    rw [← connectionEntries_eq, eq_ok_of_mapError h, htidy.trimmed_eq] at hupdate
    rw [Except.ok.inj hupdate, target_normalize, target_pointedAt]
  refine ⟨u, hread, fun s hs => ?_⟩
  rw [held_of_target hs hq]
  exact hsettles s hs

end Policy

/-! ### Files and single settings -/

/-- The settings that a configuration file makes. -/
def ConfigFile.settings : ConfigFile → List (String × String)
  | .missing | .unreadable _ => []
  | .text content =>
    ((Toml.read? content).bind fun entries => (settingsOf entries).toOption).getD []

/-- The settings that are written as `NAME=VALUE`. -/
def pairsOf (option : String) (texts : List String) : List (String × String) :=
  texts.filterMap fun text => (splitPair option text).toOption

theorem pairsOf_eq {option : String} {texts : List String} {pairs : List (String × String)}
    (h : texts.mapM (splitPair option) = .ok pairs) : pairsOf option texts = pairs := by
  induction texts generalizing pairs with
  | nil =>
      cases h
      rfl
  | cons text texts ih =>
      rw [List.mapM_cons] at h
      obtain ⟨pair, hpair, h⟩ := Policy.exists_of_bind h
      obtain ⟨rest, hrest, h⟩ := Policy.exists_of_bind h
      cases h
      rw [pairsOf, List.filterMap_cons, hpair]
      exact congrArg (pair :: ·) (ih hrest)

namespace Policy

variable {p q : Policy} {s : Setting}

theorem update_of_ofFile {file : ConfigFile} (h : ofFile file = .ok p) :
    initial.update file.settings = .ok p := by
  cases file with
  | missing =>
      cases h
      exact congrArg Except.ok (Reachable.initial.isNormal.normalize_eq)
  | unreadable => cases h
  | text content =>
      rw [ofFile, ofToml] at h
      split at h
      · cases h
      · rename_i entries hentries
        obtain ⟨settings, hsettings, h⟩ := exists_of_bind h
        rw [ConfigFile.settings, hentries, Option.bind_some, hsettings]
        exact eq_ok_of_mapError h

/-! ### Sources -/

namespace Sources

/-- The text that single settings give for a setting. -/
def override? (x : Sources) (s : Setting) : Option String :=
  s.lastGiven? (pairsOf "--set" x.overrides)

/-- The text that the connection string gives for a setting. -/
def urlPart? (x : Sources) (s : Setting) : Option String :=
  x.url.bind fun text => (Url.read text).toOption.bind fun u => u.part? s

/-- The text that the environment or, without a variable, the configuration file gives for a
setting. -/
def lower? (x : Sources) (s : Setting) : Option String :=
  (x.environment.get? s.key).or (s.lastGiven? x.file.settings)

/-- The text in the highest source that has one for a setting. -/
def highest? (x : Sources) (s : Setting) : Option String :=
  (x.override? s).or ((x.urlPart? s).or (x.lower? s))

end Sources

variable {x : Sources}

/-- The file and the environment are updates, one over the other. -/
theorem settles_lower {p₁ p₂ : Policy} (hs : s ∈ Setting.connection)
    (hfile : ofFile x.file = .ok p₁) (hvariables : p₁.updateOfVariables x.environment = .ok p₂) :
    s.Settles (x.lower? s) (initial.held s) (p₂.held s) := by
  have hfirst := settles_update hs (update_of_ofFile hfile)
  have hsecond := settles_update hs hvariables
  rw [lastGiven?_settingsOfVariables] at hsecond
  exact hsecond.over hfirst

/-- The single settings are an update over what is there before them. -/
theorem settles_updateOfPairs {option : String} {texts : List String} (hs : s ∈ Setting.connection)
    (h : p.updateOfPairs option texts = .ok q) :
    s.Settles (s.lastGiven? (pairsOf option texts)) (p.held s) (q.held s) := by
  obtain ⟨pairs, hpairs, h⟩ := exists_of_bind h
  rw [pairsOf_eq (eq_ok_of_mapError hpairs)]
  exact settles_update hs (eq_ok_of_mapError h)

/-- **Which text settles a setting**: a single setting goes before all else; with a connection
string its part comes next, and the file and the environment do not count; without one they do. -/
theorem settles_ofSources (h : ofSources x = .ok p) (hs : s ∈ Setting.connection) :
    s.Settles ((x.override? s).or (if x.url.isSome then x.urlPart? s else x.lower? s))
      (initial.held s) (p.held s) := by
  obtain ⟨p₁, hfile, h⟩ := exists_of_bind h
  obtain ⟨p₂, hvariables, h⟩ := exists_of_bind h
  cases hurl : x.url with
  | none =>
      rw [hurl] at h
      exact (settles_updateOfPairs hs h).over
        (settles_lower hs (eq_ok_of_mapError hfile) (eq_ok_of_mapError hvariables))
  | some text =>
      rw [hurl] at h
      obtain ⟨p₃, hstring, h⟩ := exists_of_bind h
      obtain ⟨u, hread, hsettles⟩ := settles_updateOfConnectionString hstring
      have hpart : x.urlPart? s = u.part? s := by
        simp [Sources.urlPart?, hurl, hread, Except.toOption]
      rw [Option.isSome_some, if_pos rfl, hpart]
      exact (settles_updateOfPairs hs h).over (hsettles s hs)

/-- **The highest source that has a text for a setting settles it** exactly if there is no
connection string, or a single setting or the connection string itself has a text, or the file and
the environment settle it on the default. Otherwise the default takes the place of what they
have. -/
theorem highest_source_settles_iff (h : ofSources x = .ok p) (hs : s ∈ Setting.connection) :
    (s.Settles (x.highest? s) (initial.held s) (p.held s) ↔
        x.url = none ∨ (x.override? s).isSome ∨ (x.urlPart? s).isSome ∨
          s.Settles (x.lower? s) (initial.held s) (initial.held s)) ∧
      (x.url ≠ none → x.override? s = none → x.urlPart? s = none →
        p.held s = initial.held s) := by
  have hsettles := settles_ofSources h hs
  rw [Sources.highest?]
  cases hurl : x.url with
  | none =>
      have hpart : x.urlPart? s = none := by simp [Sources.urlPart?, hurl]
      rw [hurl, Option.isSome_none, if_neg Bool.false_ne_true] at hsettles
      rw [hpart, Option.none_or]
      exact ⟨iff_of_true hsettles (.inl rfl), fun hne => absurd rfl hne⟩
  | some text =>
      rw [hurl, Option.isSome_some, if_pos rfl] at hsettles
      cases hoverride : x.override? s with
      | some value =>
          rw [hoverride] at hsettles
          exact ⟨iff_of_true hsettles (.inr (.inl rfl)), fun _ hnone => by cases hnone⟩
      | none =>
          rw [hoverride, Option.none_or] at hsettles
          cases hpart : x.urlPart? s with
          | some value =>
              rw [hpart] at hsettles
              exact ⟨iff_of_true hsettles (.inr (.inr (.inl rfl))),
                fun _ _ hnone => by cases hnone⟩
          | none =>
              rw [hpart] at hsettles
              have hdefault : p.held s = initial.held s := hsettles.eq_of_none
              rw [Option.none_or, Option.none_or, hdefault]
              simp

/-- All four sources: a file with a port, a variable with a user, a connection string with a user
and a host, and a single setting. -/
def fourSources : Sources where
  file := .text "MYSQL_PORT = 3310"
  environment := .ofList [("MYSQL_USER", "reader")]
  url := some "mysql://app@urlhost"
  overrides := ["mysql_database= shop "]

/-- What they make. -/
def fourPolicy : Policy :=
  { initial with host := "urlhost", user := "app", database := "shop" }

theorem ofSources_fourSources : ofSources fourSources = .ok fourPolicy := by
  decide +kernel

/-- The user of the connection string goes before that of the variable. -/
theorem highest_source_settles_user :
    ofSources fourSources = .ok fourPolicy ∧
      Setting.user.Settles (fourSources.highest? .user) (initial.held .user)
        (fourPolicy.held .user) :=
  ⟨ofSources_fourSources,
    (highest_source_settles_iff (s := .user) ofSources_fourSources (by decide)).1.mpr
      (.inr (.inr (.inl (by decide +kernel))))⟩

/-- **A port is lost**: only the file has one, and the policy has the default. -/
theorem port_lost_of_connectionString :
    ofSources fourSources = .ok fourPolicy ∧
      fourSources.highest? .port = some "3310" ∧
      Setting.port.read (trimString "3310") = .ok (3310 : Nat) ∧
      fourPolicy.held .port = (3306 : Nat) ∧
      ¬ Setting.port.Settles (fourSources.highest? .port) (initial.held .port)
        (fourPolicy.held .port) := by
  have hhighest : fourSources.highest? .port = some "3310" := by decide +kernel
  have hread : Setting.port.read (trimString "3310") = .ok (3310 : Nat) := by decide +kernel
  refine ⟨ofSources_fourSources, hhighest, hread, rfl, fun hsettles => ?_⟩
  rw [hhighest] at hsettles
  obtain ⟨hport⟩ := hsettles
  exact absurd (Except.ok.inj (hread.symm.trans hport)) (by decide)

end Policy

end SqlGateway
