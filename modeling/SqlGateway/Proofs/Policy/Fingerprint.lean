import SqlGateway.Policy.Live
import SqlGateway.Proofs.Decimal.Digits

/-!
# What a Fingerprint Tells

The fingerprint of a policy digests the settings that a pool is opened with, written one
behind another with bars between them. The numbers and the plugin hold no bar, but the four
texts may: a bar in one of them reads like the bar behind it, and what stands between can move
from one setting to the next.

The text that is digested is cut at all of its bars (`sections`). Its sections are those of the
settings in turn, so the last four settings are always told apart, and the others are as soon
as each text has as many bars in one policy as in the other.

That the digest of two given texts is different is a hypothesis on these two texts only: no
digest tells all texts apart.

## Main results

* `sections_connectionText`: the sections of the text that is digested.
* `connectsAlike_iff_connectionText`: the text tells the settings up to moved bars.
* `connectsAlike_iff_fingerprint`: and so does the fingerprint.
-/

namespace SqlGateway

/-! ### Sections -/

/-- The sections of a text, between its bars. -/
def sections (s : String) : List (List Char) :=
  s.toList.splitOn '|'

/-- How many bars a text has. -/
def bars (s : String) : Nat :=
  s.toList.count '|'

theorem sections_injective : Function.Injective sections := by
  intro s t h
  have hjoin : ∀ s : String, ['|'].intercalate (sections s) = s.toList :=
    fun _ => List.intercalate_splitOn '|'
  rw [← String.toList_inj, ← hjoin s, ← hjoin t, h]

theorem length_splitOn {α : Type} [BEq α] [LawfulBEq α] (x : α) (xs : List α) :
    (xs.splitOn x).length = xs.count x + 1 := by
  induction xs with
  | nil => rfl
  | cons y ys ih =>
      rw [List.splitOn_cons_eq_if_modifyHead, List.count_cons]
      split
      · rw [List.length_cons, ih]
      · rw [List.length_modifyHead, ih]

/-- A text without a bar has none. -/
theorem bars_eq_zero {s : String} (h : '|' ∉ s.toList) : bars s = 0 :=
  List.count_eq_zero_of_not_mem h

/-- There is one section more than bars. -/
theorem length_sections (s : String) : (sections s).length = bars s + 1 :=
  length_splitOn '|' s.toList

/-- A text without a bar is one section. -/
theorem sections_of_notMem {s : String} (h : '|' ∉ s.toList) : sections s = [s.toList] :=
  List.splitOn_eq_singleton h

/-- Texts that are joined by bars have their sections in turn. -/
theorem sections_intercalate {texts : List String} (hne : texts ≠ []) :
    sections (String.intercalate "|" texts) = texts.flatMap sections := by
  induction texts with
  | nil => exact absurd rfl hne
  | cons s texts ih =>
      cases texts with
      | nil => rw [String.intercalate_singleton, List.flatMap_singleton]
      | cons t texts =>
          have hjoined : (String.intercalate "|" (s :: t :: texts)).toList =
              s.toList ++ '|' :: (String.intercalate "|" (t :: texts)).toList := by
            simp [String.intercalate_cons_cons]
          rw [List.flatMap_cons, ← ih (List.cons_ne_nil _ _), sections, hjoined,
            List.splitOn_append_cons_self]
          rfl

/-! ### Numbers and plugins -/

namespace Decimal

theorem bar_notMem_digitsText (n : Nat) : '|' ∉ (digitsText n).toList := fun hmem =>
  absurd (isDigit_of_mem_digitsText hmem) (by decide)

end Decimal

namespace AuthPlugin

theorem label_injective : Function.Injective label := by
  have hread : Function.LeftInverse ofName? label := by
    intro plugin
    rcases plugin with _ | _ | _ | _ <;> rfl
  exact hread.injective

theorem bar_notMem_label (plugin : Option AuthPlugin) : '|' ∉ (label plugin).toList := by
  rcases plugin with _ | _ | _ | _ <;> decide

end AuthPlugin

/-! ### Policies -/

namespace Policy

/-- Two policies that agree on the settings a pool is opened with. -/
structure ConnectsAlike (p q : Policy) : Prop where
  host_eq : p.host = q.host
  port_eq : p.port = q.port
  user_eq : p.user = q.user
  password_eq : p.password = q.password
  database_eq : p.database = q.database
  authPlugin_eq : p.authPlugin = q.authPlugin
  connectTimeout_eq : p.connectTimeout = q.connectTimeout
  poolMin_eq : p.poolMin = q.poolMin
  poolMax_eq : p.poolMax = q.poolMax

/-- Two policies whose texts have as many bars, setting by setting. -/
structure BarsAlike (p q : Policy) : Prop where
  host : bars p.host = bars q.host
  user : bars p.user = bars q.user
  password : bars p.password = bars q.password
  database : bars p.database = bars q.database

/-- A policy whose texts have no bar. -/
structure HasNoBar (p : Policy) : Prop where
  host : '|' ∉ p.host.toList
  user : '|' ∉ p.user.toList
  password : '|' ∉ p.password.toList
  database : '|' ∉ p.database.toList

/-- Two policies have the same fingerprint only if it digests the same text. -/
def Distinguished (p q : Policy) : Prop :=
  p.fingerprint = q.fingerprint → p.connectionText = q.connectionText

variable {p q : Policy}

/-- Texts without bars have as many. -/
theorem HasNoBar.barsAlike (hp : p.HasNoBar) (hq : q.HasNoBar) : p.BarsAlike q where
  host := by rw [bars_eq_zero hp.host, bars_eq_zero hq.host]
  user := by rw [bars_eq_zero hp.user, bars_eq_zero hq.user]
  password := by rw [bars_eq_zero hp.password, bars_eq_zero hq.password]
  database := by rw [bars_eq_zero hp.database, bars_eq_zero hq.database]

theorem ConnectsAlike.barsAlike (h : p.ConnectsAlike q) : p.BarsAlike q :=
  ⟨congrArg bars h.host_eq, congrArg bars h.user_eq, congrArg bars h.password_eq,
    congrArg bars h.database_eq⟩

theorem ConnectsAlike.connectionText_eq (h : p.ConnectsAlike q) :
    p.connectionText = q.connectionText := by
  rw [connectionText, connectionText, h.host_eq, h.port_eq, h.user_eq, h.password_eq,
    h.database_eq, h.authPlugin_eq, h.connectTimeout_eq, h.poolMin_eq, h.poolMax_eq]

/-- **The text that is digested** has the sections of the four texts, and one section for every
other setting. -/
theorem sections_connectionText (p : Policy) :
    sections p.connectionText =
      (sections p.host ++ (Decimal.digitsText p.port).toList :: sections p.user ++
        sections p.password ++ sections p.database) ++
      [(AuthPlugin.label p.authPlugin).toList, (Decimal.digitsText p.connectTimeout).toList,
        (Decimal.digitsText p.poolMin).toList, (Decimal.digitsText p.poolMax).toList] := by
  rw [connectionText, sections_intercalate (List.cons_ne_nil _ _)]
  simp only [List.flatMap_cons, List.flatMap_nil,
    sections_of_notMem (Decimal.bar_notMem_digitsText _),
    sections_of_notMem (AuthPlugin.bar_notMem_label _), List.append_assoc, List.cons_append,
    List.nil_append, List.append_nil]

/-- The settings behind the texts are told whatever bars the texts have. -/
theorem eq_of_connectionText (h : p.connectionText = q.connectionText) :
    p.authPlugin = q.authPlugin ∧ p.connectTimeout = q.connectTimeout ∧
      p.poolMin = q.poolMin ∧ p.poolMax = q.poolMax := by
  have hsections := congrArg sections h
  rw [sections_connectionText, sections_connectionText] at hsections
  have hback := (List.append_inj' hsections rfl).2
  simp only [List.cons.injEq, String.toList_inj, and_true] at hback
  obtain ⟨hplugin, htimeout, hmin, hmax⟩ := hback
  exact ⟨AuthPlugin.label_injective hplugin, Decimal.digitsText_injective htimeout,
    Decimal.digitsText_injective hmin, Decimal.digitsText_injective hmax⟩

/-- **The text that is digested tells the settings**, up to what can move over a bar from one
text to the next. -/
theorem connectsAlike_iff_connectionText :
    p.ConnectsAlike q ↔ p.connectionText = q.connectionText ∧ p.BarsAlike q := by
  refine ⟨fun h => ⟨h.connectionText_eq, h.barsAlike⟩, fun ⟨h, hbars⟩ => ?_⟩
  obtain ⟨hplugin, htimeout, hmin, hmax⟩ := eq_of_connectionText h
  have hlength : ∀ {s t : String}, bars s = bars t →
      (sections s).length = (sections t).length := by
    intro s t hst
    rw [length_sections, length_sections, hst]
  have hsections := congrArg sections h
  rw [sections_connectionText, sections_connectionText] at hsections
  have hfront := (List.append_inj' hsections rfl).1
  obtain ⟨hfront, hdatabase⟩ := List.append_inj' hfront (hlength hbars.database)
  obtain ⟨hfront, hpassword⟩ := List.append_inj' hfront (hlength hbars.password)
  obtain ⟨hhost, hback⟩ := List.append_inj hfront (hlength hbars.host)
  obtain ⟨hport, huser⟩ := List.cons.inj hback
  exact
    { host_eq := sections_injective hhost
      port_eq := Decimal.digitsText_injective (String.toList_inj.mp hport)
      user_eq := sections_injective huser
      password_eq := sections_injective hpassword
      database_eq := sections_injective hdatabase
      authPlugin_eq := hplugin
      connectTimeout_eq := htimeout
      poolMin_eq := hmin
      poolMax_eq := hmax }

theorem fingerprint_eq_iff (h : p.Distinguished q) :
    p.fingerprint = q.fingerprint ↔ p.connectionText = q.connectionText :=
  ⟨h, congrArg Digest.sha256⟩

/-- The fingerprint tells the settings as far as the text does. -/
theorem connectsAlike_iff_fingerprint (h : p.Distinguished q) :
    p.ConnectsAlike q ↔ p.fingerprint = q.fingerprint ∧ p.BarsAlike q := by
  rw [fingerprint_eq_iff h, connectsAlike_iff_connectionText]

end Policy

end SqlGateway
