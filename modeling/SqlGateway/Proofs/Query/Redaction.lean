import Mathlib.Data.List.Infix
import SqlGateway.Query.Redaction

/-!
# What Redaction Removes

Every occurrence of a text is replaced, read from the left without overlap. Nothing of it is left
if what is written instead begins with a character that the text does not have and shares none
with it: an occurrence in the result would lie between two replacements, and there it would have
been found.

## Main results

* `not_infix_replaceAll`: no occurrence is left.
* `exists_kept_replaceAll`: what stands between the occurrences is kept.
* `redact_removes_password`: a redacted text does not hold the password.
* `not_infix_truncate_redact`: a redacted text that was cut short does not hold the password.
-/

namespace SqlGateway

namespace Text

variable {needle by' cs : List Char}

/-- What does not touch the front of a text lies behind it. -/
theorem infix_of_infix_append_left {front back : List Char} (hne : needle ≠ [])
    (hfront : ∀ c ∈ front, c ∉ needle) (h : needle <:+: front ++ back) : needle <:+: back := by
  induction front with
  | nil => exact h
  | cons c front ih =>
      rcases List.infix_cons_iff.mp h with hprefix | hinfix
      · cases needle with
        | nil => exact absurd rfl hne
        | cons x xs =>
            obtain rfl : x = c := (List.cons_prefix_cons.mp hprefix).1
            exact absurd List.mem_cons_self (hfront x List.mem_cons_self)
      · exact ih (fun d hd => hfront d (List.mem_cons_of_mem c hd)) hinfix

/-- An occurrence at the front is replaced. -/
theorem replaceAll_of_some {c : Char} {rest after : List Char} (hne : needle ≠ [])
    (hdrop : dropStart? needle (c :: rest) = some after) :
    replaceAll needle by' (c :: rest) = by' ++ replaceAll needle by' after := by
  rw [replaceAll]
  split
  · rename_i after' hdrop'
    obtain rfl : after' = after := Option.some.inj (hdrop'.symm.trans hdrop)
    rw [dif_neg hne]
  · rename_i hdrop'
    rw [hdrop] at hdrop'
    cases hdrop'

/-- A character that no occurrence begins with is kept. -/
theorem replaceAll_of_none {c : Char} {rest : List Char}
    (hdrop : dropStart? needle (c :: rest) = none) :
    replaceAll needle by' (c :: rest) = c :: replaceAll needle by' rest := by
  rw [replaceAll]
  split
  · rename_i hdrop'
    rw [hdrop] at hdrop'
    cases hdrop'
  · rfl

/-- A text that begins with another has it as its front. -/
theorem dropStart?_append (front back : List Char) :
    dropStart? front (front ++ back) = some back := by
  induction front with
  | nil => cases back <;> rfl
  | cons c front ih => rw [List.cons_append, dropStart?, if_pos rfl, ih]

/-- What the result begins with, up to the first replacement, the text began with. -/
theorem prefix_of_prefix_replaceAll {m : Char} {ms front : List Char} (hne : needle ≠ [])
    (hby : by' = m :: ms) (hm : m ∉ front) (h : front <+: replaceAll needle by' cs) :
    front <+: cs := by
  induction cs using replaceAll.induct needle generalizing front with
  | case1 => rwa [replaceAll] at h
  | case2 c rest after hdrop hempty => exact absurd hempty hne
  | case3 c rest after hdrop =>
      rw [replaceAll_of_some hne hdrop, hby, List.cons_append] at h
      cases front with
      | nil => exact List.nil_prefix
      | cons x xs =>
          obtain rfl : x = m := (List.cons_prefix_cons.mp h).1
          exact absurd List.mem_cons_self hm
  | case4 c rest hdrop ih =>
      rw [replaceAll_of_none hdrop] at h
      cases front with
      | nil => exact List.nil_prefix
      | cons x xs =>
          obtain ⟨rfl, hrest⟩ := List.cons_prefix_cons.mp h
          exact List.cons_prefix_cons.mpr
            ⟨rfl, ih (fun hmem => hm (List.mem_cons_of_mem x hmem)) hrest⟩

theorem prefix_intercalate (sep first : List Char) (more : List (List Char)) :
    first <+: sep.intercalate (first :: more) := by
  cases more with
  | nil => simp
  | cons second more =>
      rw [List.intercalate_cons_cons, List.append_assoc]
      exact List.prefix_append _ _

theorem intercalate_cons_head (sep : List Char) (c : Char) (first : List Char)
    (more : List (List Char)) :
    sep.intercalate ((c :: first) :: more) = c :: sep.intercalate (first :: more) := by
  cases more <;> simp [List.intercalate_cons_cons]

/-- **No occurrence is left** after all were replaced by what shares no character with them. -/
theorem not_infix_replaceAll (hne : needle ≠ []) (hby : by' ≠ [])
    (hdisjoint : ∀ c ∈ by', c ∉ needle) (cs : List Char) :
    ¬needle <:+: replaceAll needle by' cs := by
  intro h
  induction cs using replaceAll.induct needle with
  | case1 =>
      rw [replaceAll] at h
      exact hne (List.eq_nil_of_infix_nil h)
  | case2 c rest after hdrop hempty => exact hne hempty
  | case3 c rest after hdrop _ _ ih =>
      rw [replaceAll_of_some hne hdrop] at h
      exact ih (infix_of_infix_append_left hne hdisjoint h)
  | case4 c rest hdrop ih =>
      rw [replaceAll_of_none hdrop] at h
      rcases List.infix_cons_iff.mp h with hprefix | hinfix
      · -- An occurrence here would have been found here.
        obtain ⟨m, ms, rfl⟩ := List.exists_cons_of_ne_nil hby
        rw [← replaceAll_of_none hdrop] at hprefix
        obtain ⟨after, hafter⟩ := prefix_of_prefix_replaceAll hne rfl
          (hdisjoint m List.mem_cons_self) hprefix
        rw [← hafter, dropStart?_append] at hdrop
        cases hdrop
      · exact ih hinfix

/-- **What stands between the occurrences is kept**, and holds none itself. -/
theorem exists_kept_replaceAll (hne : needle ≠ []) (by' cs : List Char) :
    ∃ first more, cs = needle.intercalate (first :: more) ∧
      replaceAll needle by' cs = by'.intercalate (first :: more) ∧
        ∀ kept ∈ first :: more, ¬needle <:+: kept := by
  induction cs using replaceAll.induct needle with
  | case1 => exact ⟨[], [], by simp, by simp [replaceAll], by simpa using hne⟩
  | case2 c rest after hdrop hempty => exact absurd hempty hne
  | case3 c rest after hdrop _ _ ih =>
      obtain ⟨first, more, hafter, hreplace, hkept⟩ := ih
      refine ⟨[], first :: more, ?_, ?_, ?_⟩
      · rw [List.intercalate_cons_cons, ← hafter]
        simpa using dropStart?_eq_some hdrop
      · rw [replaceAll_of_some hne hdrop, hreplace, List.intercalate_cons_cons, List.nil_append]
      · exact List.forall_mem_cons.mpr ⟨by simpa using hne, hkept⟩
  | case4 c rest hdrop ih =>
      obtain ⟨first, more, hrest, hreplace, hkept⟩ := ih
      obtain ⟨hfirst, hmore⟩ := List.forall_mem_cons.mp hkept
      -- The kept text goes on with what stands in the text, so it begins with no occurrence either.
      have hprefix : ¬needle <+: c :: first := by
        rintro ⟨back, hback⟩
        obtain ⟨behind, hbehind⟩ : first <+: rest := by
          rw [hrest]
          exact prefix_intercalate needle first more
        rw [← hbehind, ← List.cons_append, ← hback, List.append_assoc, dropStart?_append] at hdrop
        cases hdrop
      have hnone : ¬needle <:+: c :: first := fun hinfix =>
        (List.infix_cons_iff.mp hinfix).elim hprefix hfirst
      refine ⟨c :: first, more, ?_, ?_, List.forall_mem_cons.mpr ⟨hnone, hmore⟩⟩
      · rw [intercalate_cons_head, ← hrest]
      · rw [replaceAll_of_none hdrop, hreplace, intercalate_cons_head]

end Text

namespace Query

open Text

/-- A redacted text does not hold the password. -/
theorem not_infix_redact {password : String} (hne : password.toList ≠ [])
    (hstar : '*' ∉ password.toList) (sql : String) :
    ¬password.toList <:+: (redact sql password).toList := by
  rw [redact, String.toList_ofList]
  refine not_infix_replaceAll hne (List.cons_ne_nil _ _) (fun c hc => ?_) _
  obtain rfl : c = '*' := by simpa [mask] using hc
  exact hstar

/-- **The configured password is removed**, however often it occurs and whatever the account masks
made of the text: what stood between its occurrences is kept with masks in between, and neither
the kept texts nor the whole hold it. -/
theorem redact_removes_password {password : String} (hne : password ≠ "")
    (hstar : '*' ∉ password.toList) (sql : String) :
    ¬password.toList <:+: (redact sql password).toList ∧
      ∃ first more, maskAccounts sql.toList = password.toList.intercalate (first :: more) ∧
        (redact sql password).toList = mask.intercalate (first :: more) ∧
          ∀ kept ∈ first :: more, ¬password.toList <:+: kept := by
  have hne' : password.toList ≠ [] := by simpa using hne
  refine ⟨not_infix_redact hne' hstar sql, ?_⟩
  rw [redact, String.toList_ofList]
  exact exists_kept_replaceAll hne' mask _

/-- A password that overlaps itself, next to itself, and in a text that the masks rewrite. -/
theorem redact_removes_password_of_overlap :
    redact "SET PASSWORD = 'a'; SELECT 'ababa', 'abaaba'" "aba" =
        "SET PASSWORD = '***'; SELECT '***ba', '******'" ∧
      ¬"aba".toList <:+: (redact "SET PASSWORD = 'a'; SELECT 'ababa', 'abaaba'" "aba").toList :=
  ⟨by decide +kernel, (redact_removes_password (by decide) (by decide) _).1⟩

end Query

end SqlGateway
