import SqlGateway.Proofs.Policy.AnyOrder
import SqlGateway.Proofs.Text.Phrase

/-!
# Settings Written Back

A policy tells the text of each of its settings (`Policy.get?`), and that text can be made the
value of the setting again. It changes nothing: what a setting reads from some text it reads again
from the text that it is written as (`Setting.read_write`), and what a policy holds after updates
is always read from some text (`Policy.IsRead`), also where normalization put it. Since nothing is
left to be restored of such a policy, the update as a whole leaves it as it is.

Two settings are apart (`Setting.tellsAll`). The text of the level of access does not tell whether
the level was set by hand, so making it says more than was held; and the time to wait for a
connection is written as a double, which does not hold every span of time.

## Main results

* `readPatterns_intercalate`: a list of patterns is read from its text.
* `Setting.read_write`: a setting reads what it wrote.
* `Reachable.isRead`: what a policy holds is read from texts.
* `Reachable.update_get`: the text of a setting, made its value again.
-/

namespace SqlGateway

open Text

/-! ### Lists of patterns -/

namespace Text

/-- No piece of a text has a character at which the text is cut. -/
theorem of_mem_cutAt {p : Char → Bool} {cs piece : List Char} (h : piece ∈ cutAt p cs) :
    ∀ c ∈ piece, p c = false := by
  induction cs generalizing piece with
  | nil =>
      rw [List.mem_singleton.mp h]
      exact nofun
  | cons c cs ih =>
      rw [cutAt] at h
      split at h
      · rcases List.mem_cons.mp h with rfl | h
        · exact nofun
        · exact ih h
      · rename_i hc
        split at h
        · rw [List.mem_singleton.mp h, List.forall_mem_singleton]
          exact Bool.eq_false_iff.mpr hc
        · rename_i first more hcut
          rcases List.mem_cons.mp h with rfl | h
          · exact List.forall_mem_cons.mpr
              ⟨Bool.eq_false_iff.mpr hc, ih (hcut ▸ List.mem_cons_self)⟩
          · exact ih (hcut ▸ List.mem_cons_of_mem _ h)

/-- Upper case makes no comma of anything else. -/
theorem comma_notMem_upper {cs : List Char} (h : ',' ∉ cs) : ',' ∉ upper cs := by
  have himages : (',').toNat ∉ imageCodes upperRuns upperExpansions := by decide +kernel
  intro hmem
  obtain ⟨c, hc, hcomma⟩ := List.mem_flatMap.mp hmem
  by_cases hascii : c.toNat < 0x80
  · rw [upperChar_of_ascii hascii, List.mem_singleton] at hcomma
    have heq : c = ',' :=
      of_ascii (p := fun c => ',' = c.toUpper → c = ',') (by decide) hascii hcomma
    exact h (heq ▸ hc)
  · rw [upperChar_of_past_ascii hascii] at hcomma
    rcases mapCase_cases hcomma with ⟨-, himage⟩ | ⟨rfl, -⟩
    · exact himages himage
    · exact h hc

/-- Trimming adds nothing to a text. -/
theorem mem_of_mem_trim {cs : List Char} {c : Char} (h : c ∈ trim cs) : c ∈ cs := by
  obtain ⟨tail, hsplit, -⟩ := exists_dropEndWhile_append isBlank (cs.dropWhile isBlank)
  refine (List.dropWhile_suffix isBlank).subset ?_
  rw [hsplit]
  exact List.mem_append_left _ h

/-- Nothing is trimmed of a text with no blank at either end. -/
theorem trim_of_ends {cs : List Char} (hhead : ∀ c ∈ cs.head?, isBlank c = false)
    (hlast : ∀ c ∈ cs.getLast?, isBlank c = false) : trim cs = cs := by
  have hfront : cs.dropWhile isBlank = cs := dropWhile_of_head hhead
  have hback : cs.reverse.dropWhile isBlank = cs.reverse :=
    dropWhile_of_head (by simpa using hlast)
  rw [trim, hfront, dropEndWhile, hback, List.reverse_reverse]

/-- Joined texts start as the first of them does, and end as the last does. -/
theorem ends_intercalate {p : Char → Bool} {separator : List Char} {texts : List (List Char)}
    (h : ∀ cs ∈ texts, cs ≠ [] ∧ (∀ c ∈ cs.head?, p c = false) ∧ ∀ c ∈ cs.getLast?, p c = false) :
    (∀ c ∈ (separator.intercalate texts).head?, p c = false) ∧
      ∀ c ∈ (separator.intercalate texts).getLast?, p c = false := by
  induction texts with
  | nil => exact ⟨nofun, nofun⟩
  | cons cs rest ih =>
      obtain ⟨⟨hne, hhead, hlast⟩, hrest⟩ := List.forall_mem_cons.mp h
      cases rest with
      | nil => simpa using ⟨hhead, hlast⟩
      | cons ds rest =>
          have hbehind : separator.intercalate (ds :: rest) ≠ [] := by
            have hds : ds ≠ [] := (hrest ds List.mem_cons_self).1
            cases rest <;> simp [List.intercalate_cons_cons, hds]
          rw [List.intercalate_cons_cons, List.append_assoc]
          constructor
          · rwa [List.head?_append_of_ne_nil _ hne]
          · rw [← List.append_assoc, List.getLast?_append_of_ne_nil _ hbehind]
            exact (ih hrest).2

end Text

/-- What is known of the patterns that a value names: each is there, trimmed, in upper case and
without a comma. -/
theorem Policy.plain_of_mem_readPatterns {value pattern : String}
    (h : pattern ∈ readPatterns value) :
    pattern.toList ≠ [] ∧ trim pattern.toList = pattern.toList ∧
      upper pattern.toList = pattern.toList ∧ ',' ∉ pattern.toList := by
  obtain ⟨htrim, hupper⟩ := trim_upper_of_mem_readPatterns h
  refine ⟨htrim ▸ trim_of_mem_readPatterns h, htrim, hupper, ?_⟩
  simp only [readPatterns] at h
  split at h
  · exact (by decide : ∀ pattern ∈ defaultPatterns, ',' ∉ pattern.toList) pattern h
  · obtain ⟨item, hitem, rfl⟩ := List.mem_map.mp (List.mem_filter.mp h).1
    obtain ⟨piece, hpiece, rfl⟩ := List.mem_map.mp hitem
    have hcomma : ',' ∉ piece := fun hmem => by
      cases of_mem_cutAt hpiece _ hmem
    simp only [upperString, trimString, String.toList_ofList]
    exact comma_notMem_upper fun hmem => hcomma (mem_of_mem_trim hmem)

/-- **A list of patterns is read from its text.** -/
theorem Policy.readPatterns_intercalate (value : String) :
    readPatterns (trimString (String.intercalate "," (readPatterns value))) =
      readPatterns value := by
  generalize hpatterns : readPatterns value = patterns
  have hplain : ∀ pattern ∈ patterns, pattern.toList ≠ [] ∧
      trim pattern.toList = pattern.toList ∧ upper pattern.toList = pattern.toList ∧
      ',' ∉ pattern.toList := by
    rw [← hpatterns]
    exact fun _ => plain_of_mem_readPatterns
  have hne : patterns ≠ [] := hpatterns ▸ readPatterns_ne_nil value
  have hjoined : trim (String.intercalate "," patterns).toList =
      [','].intercalate (patterns.map String.toList) := by
    rw [String.toList_intercalate]
    have hpieces : ∀ cs ∈ patterns.map String.toList, cs ≠ [] ∧
        (∀ c ∈ cs.head?, isBlank c = false) ∧ ∀ c ∈ cs.getLast?, isBlank c = false := by
      refine List.forall_mem_map.mpr fun pattern hmem => ?_
      obtain ⟨hnil, htrim, -, -⟩ := hplain pattern hmem
      exact ⟨hnil, htrim ▸ head?_trim _, htrim ▸ getLast?_trim _⟩
    obtain ⟨hhead, hlast⟩ := ends_intercalate hpieces
    exact trim_of_ends hhead hlast
  have hitems : listItems (trimString (String.intercalate "," patterns)) = patterns := by
    rw [listItems, trimString, String.toList_ofList, hjoined, Statement.cutAt_eq_splitOnP]
    have hcut : ([','].intercalate (patterns.map String.toList)).splitOn ',' =
        patterns.map String.toList :=
      List.splitOn_intercalate ','
        (List.forall_mem_map.mpr fun pattern hmem => (hplain pattern hmem).2.2.2)
        (by simpa using hne)
    rw [List.splitOn] at hcut
    rw [hcut, List.map_map]
    exact (List.map_congr_left fun _ _ => String.ofList_toList).trans (List.map_id _)
  have hkept : (patterns.map fun pattern => upperString (trimString pattern)) = patterns := by
    refine (List.map_congr_left fun pattern hmem => ?_).trans (List.map_id _)
    obtain ⟨-, htrim, hupper, -⟩ := hplain pattern hmem
    rw [upperString, trimString, String.toList_ofList, htrim, hupper, String.ofList_toList, id]
  have hfilter : patterns.filter (· != "") = patterns := by
    refine List.filter_eq_self.mpr fun pattern hmem => ?_
    simpa using mt String.toList_eq_nil_iff.mpr (hplain pattern hmem).1
  simp only [readPatterns, hitems, hkept, hfilter, List.isEmpty_iff, if_neg hne]

/-! ### Single settings -/

namespace Setting

/-- Writes the value of a setting. -/
def write : (s : Setting) → s.Value → String
  | .host, v | .user, v | .password, v | .database, v => v
  | .port, n | .connectTimeout, n | .poolMin, n | .poolMax, n | .poolRecycle, n
  | .maxLength, n => Decimal.digitsText n
  | .poolLifetime, v => Decimal.digitsText (v.getD 0)
  | .authPlugin, v => AuthPlugin.label v
  | .acquireTimeout, d => Decimal.Layout.exact.write d.toDouble
  | .allowedRisks, v => String.intercalate "," v.labels
  | .queryCheck, b | .isolation, b => Policy.switchText b
  | .blockedPatterns, v => String.intercalate "," v
  | .accessLevel, v => v.1.label
  | .environment, e => e.label

/-- Whether the text of a setting tells all that is held under it. -/
def tellsAll : Setting → Bool
  | .acquireTimeout | .accessLevel => false
  | _ => true

/-- Whether a setting can take each value of its kind, of which there are few. -/
def takesAll : Setting → Bool
  | .authPlugin | .allowedRisks | .queryCheck | .isolation | .environment => true
  | _ => false

theorem read_write_of_takesAll {s : Setting} (hs : s.takesAll = true) (v : s.Value) :
    s.read (trimString (s.write v)) = .ok v := by
  cases s with
  | authPlugin => rcases v with _ | _ | _ | _ <;> decide +kernel
  | allowedRisks =>
      obtain ⟨low, medium, high, critical⟩ := v
      cases low <;> cases medium <;> cases high <;> cases critical <;> decide +kernel
  | queryCheck | isolation => cases v <;> decide
  | environment => cases v <;> decide +kernel
  | _ => cases hs

theorem readCount_digitsText {key : String} {bound n : Nat} (h : n < bound) :
    readCount key bound (trimString (Decimal.digitsText n)) = .ok n := by
  rw [Decimal.trimString_digitsText, readCount, Decimal.readBelow?_digitsText h]

/-- **A setting reads what it wrote**, if it once read what it writes. -/
theorem read_write {s : Setting} (hs : s.tellsAll = true) {text : String} {v : s.Value}
    (h : s.read (trimString text) = .ok v) : s.read (trimString (s.write v)) = .ok v := by
  cases s with
  | acquireTimeout | accessLevel => cases hs
  | host =>
      simp only [read] at h ⊢
      obtain rfl := Except.ok.inj h
      simp only [write]
      split
      · decide
      · rename_i hne
        rw [trimString_trimString, if_neg hne]
  | port =>
      simp only [read] at h ⊢
      obtain ⟨n, hread, hport⟩ := Policy.exists_of_bind h
      split at hport
      · cases hport
      · rename_i hpos
        obtain rfl := Except.ok.inj hport
        simp only [write, readCount_digitsText (Policy.lt_of_readCount hread)]
        exact if_neg hpos
  | user | password | database =>
      simp only [read] at h ⊢
      obtain rfl := Except.ok.inj h
      simp only [write, trimString_trimString]
  | connectTimeout | poolMin | poolMax | poolRecycle | maxLength =>
      simp only [read] at h ⊢
      exact readCount_digitsText (Policy.lt_of_readCount h)
  | poolLifetime =>
      simp only [read] at h ⊢
      obtain ⟨n, hread, rfl⟩ := Policy.exists_of_map h
      have hwrite :
          write .poolLifetime (if n = 0 then none else some n) = Decimal.digitsText n := by
        split
        · rename_i hzero
          rw [hzero]
          rfl
        · rfl
      rw [hwrite, readCount_digitsText (Policy.lt_of_readCount hread)]
      rfl
  | blockedPatterns =>
      simp only [read] at h ⊢
      obtain rfl := Except.ok.inj h
      simp only [write, Policy.readPatterns_intercalate]
  | authPlugin | allowedRisks | queryCheck | isolation | environment =>
      exact read_write_of_takesAll rfl v

end Setting

namespace Policy

variable {p q : Policy}

theorem getKnown_eq_write (p : Policy) (s : Setting) : p.getKnown s = s.write (p.held s) := by
  cases s <;> rfl

theorem held_put_self (p : Policy) (s : Setting) (v : s.Value) : (p.put s v).held s = v := by
  rw [put_eq_update, held_ofHeld, Function.update_self]

theorem held_put_of_ne (p : Policy) {s t : Setting} (hne : t ≠ s) (v : s.Value) :
    (p.put s v).held t = p.held t := by
  rw [put_eq_update, held_ofHeld, Function.update_of_ne hne]

/-- What a policy holds is put in its place again. -/
theorem put_held (p : Policy) (s : Setting) : p.put s (p.held s) = p := by
  rw [put_eq_update, Function.update_eq_self]
  rfl

/-- What is found under a name is put there again. -/
theorem putExtra_get {name value : String} (h : p.extras.get? name = some value) :
    p.putExtra name value = p := by
  have hextras : p.extras.insert name value = p.extras := by
    refine NameMap.ext_get? fun other => ?_
    by_cases heq : other = name
    · rw [heq, NameMap.get?_insert_self, h]
    · rw [NameMap.get?_insert_of_ne heq]
  rw [putExtra, hextras]

/-! ### What a policy holds -/

/-- Whatever a policy holds is read from some text, as far as the texts of settings tell it, and
the settings that the gateway does not know are trimmed. -/
structure IsRead (p : Policy) : Prop where
  known : ∀ s : Setting, s.tellsAll = true →
    ∃ text, s.read (trimString text) = .ok (p.held s)
  extra : ∀ name value, p.extras.get? name = some value → trimString value = value

theorem isRead_initial : initial.IsRead where
  known s hs := by
    refine ⟨s.write (initial.held s), ?_⟩
    cases s with
    | acquireTimeout | accessLevel => cases hs
    | _ => decide +kernel
  extra _ _ h := by cases h

theorem IsRead.put (h : p.IsRead) {s : Setting} {v : s.Value}
    (hv : s.tellsAll = true → ∃ text, s.read (trimString text) = .ok v) : (p.put s v).IsRead where
  known t ht := by
    by_cases heq : t = s
    · subst heq
      rw [held_put_self]
      exact hv ht
    · rw [held_put_of_ne p heq]
      exact h.known t ht
  extra := by
    rw [put_eq_update]
    exact h.extra

theorem IsRead.putExtra (h : p.IsRead) (name : String) {value : String}
    (hvalue : trimString value = value) : (p.putExtra name value).IsRead where
  known s hs := by
    obtain ⟨text, htext⟩ := h.known s hs
    refine ⟨text, htext.trans (congrArg _ ?_)⟩
    cases s <;> rfl
  extra other value' hget := by
    by_cases heq : other = name
    · subst heq
      obtain rfl : value = value' := Option.some.inj (NameMap.get?_insert_self.symm.trans hget)
      exact hvalue
    · exact h.extra other value' ((NameMap.get?_insert_of_ne heq).symm.trans hget)

/-- **Settings are read from texts**, one after another. -/
theorem IsRead.setAll {entries : List (String × String)} (h : p.IsRead)
    (hset : p.setAll entries = .ok q) : q.IsRead := by
  induction entries generalizing p with
  | nil =>
      cases hset
      exact h
  | cons entry rest ih =>
      rcases hedit : edit entry.1 entry.2 with e | f
      · rw [setAll_of_error hedit] at hset
        cases hset
      · rw [setAll_of_ok hedit] at hset
        refine ih ?_ hset
        rw [edit] at hedit
        split at hedit
        · obtain ⟨v, hread, rfl⟩ := exists_of_map hedit
          exact h.put fun _ => ⟨_, hread⟩
        · cases hedit
          exact h.putExtra _ (trimString_trimString entry.2)

/-- Normalization puts only values in place that are read from texts too. -/
theorem IsRead.normalize (h : p.IsRead) : p.normalize.IsRead := by
  have hfew : ∀ {p : Policy} {s : Setting}, p.IsRead → s.takesAll = true →
      ∀ v : s.Value, (p.put s v).IsRead := fun hp hs v =>
    hp.put fun _ => ⟨_, Setting.read_write_of_takesAll hs v⟩
  have hguard : p.guard.IsRead := by
    rw [guard]
    split
    · have hswitches := hfew (s := .queryCheck) (hfew (s := .isolation) h rfl true) rfl true
      -- the level of access is none of the settings that are told by their texts
      have hlevel := hswitches.put (s := .accessLevel)
        (v := (if p.accessLevelSet then p.accessLevel else .restricted, p.accessLevelSet))
        fun htells => absurd htells (by decide)
      exact hfew (s := .allowedRisks) hlevel rfl _
    · exact h
  have hrisk : p.guard.allowRisk.IsRead := by
    rw [allowRisk]
    split
    · exact hfew (s := .allowedRisks) hguard rfl _
    · exact hguard
  rw [normalize_eq_steps, orderBounds]
  split
  · obtain ⟨text, htext⟩ := hrisk.known .poolMax rfl
    simp only [Setting.read] at htext
    have hbelow : p.guard.allowRisk.poolMax < UInt32.size := lt_of_readCount htext
    refine hrisk.put (s := .poolMin) (v := p.guard.allowRisk.poolMax) fun _ =>
      ⟨Decimal.digitsText p.guard.allowRisk.poolMax, ?_⟩
    simp only [Setting.read, Setting.readCount_digitsText hbelow]
  · exact hrisk

theorem update_of_edit {key value : String} {f : Policy → Policy}
    (h : edit key value = .ok f) (p : Policy) :
    p.update [(key, value)] = .ok (f p).normalize := by
  rw [update, setAll_of_ok (show edit (key, value).1 (key, value).2 = .ok f from h)]
  rfl

namespace Reachable

/-- **Whatever a policy holds after updates is read from texts.** -/
theorem isRead (h : p.Reachable) : p.IsRead := by
  induction h with
  | initial => exact isRead_initial
  | update _ entries hupdate ih =>
      obtain ⟨p', hset, rfl⟩ := exists_of_update hupdate
      exact (ih.setAll hset).normalize
  | plugin _ plugin ih =>
      exact ih.put (s := .authPlugin) (v := plugin) fun _ =>
        ⟨_, Setting.read_write_of_takesAll (s := .authPlugin) rfl plugin⟩

/-- **Reading a setting and writing it back changes nothing**: whatever a policy answers for a key,
in any letter case and known to the gateway or not, can be made the value of that key again, and
leaves the policy as it is. -/
theorem update_of_get (h : p.Reachable) {key value : String} (hget : p.get? key = some value)
    (hlevel : normalKey key ≠ Setting.accessLevel.key)
    (htimeout : normalKey key ≠ Setting.acquireTimeout.key) : p.update [(key, value)] = .ok p := by
  have hnormal := h.isNormal.normalize_eq
  rcases hkey : Setting.ofKey? (normalKey key) with _ | s
  · simp only [get?, hkey] at hget
    have htrim : trimString value = value := h.isRead.extra _ _ hget
    have hedit : edit key value = .ok fun q => q.putExtra (normalKey key) value := by
      simp only [edit, hkey, htrim]
    rw [update_of_edit hedit, putExtra_get hget, hnormal]
  · simp only [get?, hkey, Option.some.injEq] at hget
    have hs : s.tellsAll = true := by
      cases s with
      | accessLevel => exact absurd (key_of_ofKey? hkey).symm hlevel
      | acquireTimeout => exact absurd (key_of_ofKey? hkey).symm htimeout
      | _ => rfl
    obtain ⟨text, htext⟩ := h.isRead.known s hs
    have hread : s.read (trimString value) = .ok (p.held s) := by
      rw [← hget, getKnown_eq_write]
      exact Setting.read_write hs htext
    have hedit : edit key value = .ok fun q => q.put s (p.held s) := by
      simp only [edit, hkey, hread]
      rfl
    rw [update_of_edit hedit, put_held, hnormal]

end Reachable

/-- Two calls, the second in production: a pattern that grows in upper case, bounds of the pool in
the wrong order and a setting that the gateway does not know. -/
def strictHistory : List (List (String × String)) :=
  [[("mysql_blocked_patterns", " straße , drop  table,,"), ("note", " a b ")],
    [("ENV_TYPE", "prod"), ("MYSQL_DB_POOL_MIN_SIZE", "50")]]

/-- Its patterns are written back under their key in small letters. -/
theorem update_of_get_patterns :
    (after strictHistory).get? " mysql_blocked_patterns" = some "STRASSE,DROP  TABLE" ∧
      (after strictHistory).update [(" mysql_blocked_patterns", "STRASSE,DROP  TABLE")] =
        .ok (after strictHistory) := by
  have hget : (after strictHistory).get? " mysql_blocked_patterns" =
      some "STRASSE,DROP  TABLE" := by decide +kernel
  exact ⟨hget, (reachable_after strictHistory).update_of_get hget (by decide +kernel)
    (by decide +kernel)⟩

end Policy

end SqlGateway
