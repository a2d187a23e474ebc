import SqlGateway.Proofs.Text.CaseTable
import SqlGateway.Proofs.Text.Word
import SqlGateway.Text.NameMap

/-!
# Names Apart from Their Letter Case

Names are compared in lower case, and here and there apart from the case of ASCII letters only.
Lower case leaves a text in lower case as it is, so it does not matter how often it is taken,
and names that differ in the case of ASCII letters only are the same in lower case.

The facts rest on the tables: what a table maps a character to it leaves as it is, and the one for
lower case maps word characters to word characters.

## Main results

* `lowerString_lowerString`, `upper_upper`: lower case and upper case, taken twice.
* `isNameChar_lower_iff`: lower case keeps name characters apart from others.
* `isLower_of_mem_upper`: upper case leaves no small letter in ASCII.
* `trim_upper_ne_nil`: upper case does not make a text blank.
* `lowerString_eq_of_sameName`: the two comparisons of names.
-/

namespace SqlGateway.Text

/-- A character that lower case leaves as it is, wherever it stands. -/
def IsLowered (c : Char) : Prop :=
  c ≠ 'Σ' ∧ lowerChar c = [c]

instance (c : Char) : Decidable (IsLowered c) :=
  inferInstanceAs (Decidable (_ ∧ _))

/-! ### Characters -/

/-- Past ASCII the table decides what lower case makes of a character. -/
theorem lowerChar_of_past_ascii {c : Char} (h : ¬ c.toNat < 0x80) :
    lowerChar c = mapCase lowerRuns lowerExpansions c :=
  if_neg h

/-- What the table does not map, and is no capital letter in ASCII, is left as it is. -/
theorem lowerChar_of_notMem {c : Char} (hcapital : c.isUpper = false)
    (h : c.toNat ∉ mappedCodes lowerRuns lowerExpansions) : lowerChar c = [c] := by
  rw [lowerChar, mapCase_of_notMem h, Char.toLower_eq_of_not_isUpper (by simp [hcapital]), ite_self]

/-- What the table maps to is left as it is. -/
theorem isLowered_of_mem_images {c : Char} (h : c.toNat ∈ imageCodes lowerRuns lowerExpansions) :
    IsLowered c := by
  obtain ⟨hcapital, hmapped⟩ := not_or.mp (mt List.mem_append.mpr (notMem_of_land land_lower h))
  refine ⟨?_, lowerChar_of_notMem ?_ hmapped⟩
  · rintro rfl
    have hself : lowerChar 'Σ' = ['Σ'] := lowerChar_of_notMem rfl hmapped
    exact absurd hself (by decide +kernel)
  · rw [List.mem_range'_1] at hcapital
    rw [Char.isUpper, decide_eq_false_iff_not, ge_iff_le, UInt32.le_iff_toNat_le,
      UInt32.le_iff_toNat_le]
    exact fun hupper => hcapital ⟨hupper.1, Nat.lt_succ_of_le hupper.2⟩

/-- Lower case consists of characters that lower case leaves as they are. -/
theorem isLowered_of_mem_lowerChar {c d : Char} (hc : c ≠ 'Σ') (h : d ∈ lowerChar c) :
    IsLowered d := by
  by_cases hascii : c.toNat < 0x80
  · rw [lowerChar_of_ascii hascii, List.mem_singleton] at h
    subst h
    exact of_ascii (p := fun c => IsLowered c.toLower) (by decide) hascii
  · rw [lowerChar_of_past_ascii hascii] at h
    rcases mapCase_cases h with ⟨-, himage⟩ | ⟨rfl, hself⟩
    · exact isLowered_of_mem_images himage
    · exact ⟨hc, (lowerChar_of_past_ascii hascii).trans hself⟩

/-- The table maps to no character in ASCII but a `k`. -/
theorem eq_k_of_lowerRuns : ∀ e ∈ lowerRuns.pairs,
    (Char.ofNat ((e.1 : Int) + e.2).toNat).toNat < 0x80 →
      Char.ofNat ((e.1 : Int) + e.2).toNat = 'k' := by
  decide +kernel

theorem past_ascii_of_lowerExpansions : ∀ entry ∈ lowerExpansions.toList,
    ∃ code ∈ entry.2, 0x80 ≤ (Char.ofNat code).toNat := by
  decide +kernel

/-- Lower case takes no character into ASCII from outside but one, to a `k`. -/
theorem eq_k_of_lowerChar {c : Char} (hpast : ¬ c.toNat < 0x80)
    (h : ∀ d ∈ lowerChar c, d.toNat < 0x80) : lowerChar c = ['k'] := by
  rw [lowerChar_of_past_ascii hpast, mapCase] at h ⊢
  split at h
  · rename_i codes hentry
    obtain ⟨code, hcode, hpast⟩ := past_ascii_of_lowerExpansions _
      (Array.mem_toList_iff.mpr (Array.mem_of_find?_eq_some hentry))
    exact absurd (h _ (List.mem_map_of_mem hcode)) (Nat.not_lt.mpr hpast)
  · split at h
    · rename_i image himage
      obtain ⟨shift, hmem, rfl⟩ := CaseRuns.exists_of_search himage
      rw [eq_k_of_lowerRuns _ hmem (h _ (List.mem_singleton_self _))]
    · exact absurd (h c (List.mem_singleton_self c)) hpast

/-! ### Texts -/

theorem isLowered_of_mem_lowerFrom {afterCased : Bool} {cs : List Char} {d : Char}
    (h : d ∈ lowerFrom afterCased cs) : IsLowered d := by
  induction cs generalizing afterCased with
  | nil => cases h
  | cons c cs ih =>
      rcases List.mem_append.mp h with h | h
      · split at h
        · split at h
          · rw [List.mem_singleton.mp h]
            decide +kernel
          · rw [List.mem_singleton.mp h]
            decide +kernel
        · rename_i hc
          exact isLowered_of_mem_lowerChar hc h
      · exact ih h

theorem lowerFrom_of_isLowered {afterCased : Bool} {cs : List Char}
    (h : ∀ c ∈ cs, IsLowered c) : lowerFrom afterCased cs = cs := by
  induction cs generalizing afterCased with
  | nil => rfl
  | cons c cs ih =>
      obtain ⟨⟨hsigma, hc⟩, hcs⟩ := List.forall_mem_cons.mp h
      simp only [lowerFrom, if_neg hsigma, hc, ih hcs, List.singleton_append]

/-- What becomes of a character is part of what becomes of its text. -/
theorem exists_subset_lowerFrom {afterCased : Bool} {cs : List Char} {c : Char} (hc : c ∈ cs) :
    ∃ image, image ⊆ lowerFrom afterCased cs ∧
      (image = lowerChar c ∨ image = ['ς'] ∨ image = ['σ']) := by
  induction cs generalizing afterCased with
  | nil => cases hc
  | cons d cs ih =>
      rcases List.mem_cons.mp hc with rfl | hc
      · refine ⟨_, List.subset_append_left _ _, ?_⟩
        split
        · split
          · exact .inr (.inl rfl)
          · exact .inr (.inr rfl)
        · exact .inl rfl
      · obtain ⟨image, hsubset, himage⟩ := ih hc
        exact ⟨image, List.subset_append_of_subset_right _ hsubset, himage⟩

/-- A text whose lower case is in ASCII, without a `k`, is in ASCII. -/
theorem ascii_of_lower {cs : List Char} (h : ∀ d ∈ lower cs, d.toNat < 0x80 ∧ d ≠ 'k') :
    ∀ c ∈ cs, c.toNat < 0x80 := by
  intro c hc
  by_contra hpast
  obtain ⟨image, hsubset, rfl | rfl | rfl⟩ := @exists_subset_lowerFrom false cs c hc
  · have hk := eq_k_of_lowerChar hpast fun d hd => (h d (hsubset hd)).1
    exact (h 'k' (hsubset (hk ▸ List.mem_singleton_self _))).2 rfl
  · exact absurd (h 'ς' (hsubset (List.mem_singleton_self _))).1 (by decide)
  · exact absurd (h 'σ' (hsubset (List.mem_singleton_self _))).1 (by decide)

/-- Lower case leaves a text in lower case as it is. -/
theorem lower_lower (cs : List Char) : lower (lower cs) = lower cs :=
  lowerFrom_of_isLowered fun _ => isLowered_of_mem_lowerFrom

@[simp] theorem lowerString_lowerString (s : String) :
    lowerString (lowerString s) = lowerString s := by
  simp only [lowerString, String.toList_ofList, lower_lower]

theorem ne_nil_of_lowerExpansions : ∀ entry ∈ lowerExpansions.toList, entry.2 ≠ [] := by
  decide +kernel

/-- Lower case leaves something of every character. -/
theorem lowerChar_ne_nil (c : Char) : lowerChar c ≠ [] := by
  rw [lowerChar]
  split
  · exact List.cons_ne_nil _ _
  · exact mapCase_ne_nil ne_nil_of_lowerExpansions c

theorem lower_ne_nil {cs : List Char} (h : cs ≠ []) : lower cs ≠ [] := by
  obtain ⟨c, rest, rfl⟩ := List.exists_cons_of_ne_nil h
  rw [lower, lowerFrom]
  refine List.append_ne_nil_of_left_ne_nil ?_ _
  split
  · split <;> exact List.cons_ne_nil _ _
  · exact lowerChar_ne_nil c

/-! ### Name characters -/

/-- Lower case keeps name characters apart from others. -/
theorem isNameChar_lowerChar_iff {c : Char} :
    (∀ d ∈ lowerChar c, isNameChar d = true) ↔ isNameChar c = true := by
  by_cases hascii : c.toNat < 0x80
  · rw [lowerChar_of_ascii hascii, List.forall_mem_singleton]
    exact of_ascii (p := fun c => isNameChar c.toLower = true ↔ isNameChar c = true)
      (by decide) hascii
  · rw [lowerChar_of_past_ascii hascii]
    by_cases hmapped : c.toNat ∈ mappedCodes lowerRuns lowerExpansions
    · have hc := isNameChar_of_isWordChar (isWordChar_of_mem_lower (.inl hmapped))
      refine iff_of_true (fun d hd => ?_) hc
      rcases mapCase_cases hd with ⟨-, himage⟩ | ⟨rfl, -⟩
      · exact isNameChar_of_isWordChar (isWordChar_of_mem_lower (.inr himage))
      · exact hc
    · rw [mapCase_of_notMem hmapped, List.forall_mem_singleton]

/-- **A text consists of name characters** exactly if it does so in lower case. -/
theorem isNameChar_lower_iff {cs : List Char} :
    (∀ c ∈ lower cs, isNameChar c = true) ↔ ∀ c ∈ cs, isNameChar c = true := by
  suffices hfrom : ∀ afterCased : Bool,
      (∀ c ∈ lowerFrom afterCased cs, isNameChar c = true) ↔ ∀ c ∈ cs, isNameChar c = true from
    hfrom false
  induction cs with
  | nil => exact fun _ => Iff.rfl
  | cons c cs ih =>
      intro afterCased
      rw [lowerFrom, List.forall_mem_append, ih, List.forall_mem_cons]
      refine and_congr_left' ?_
      split
      · rename_i hc
        have hsigma : isNameChar c = true := by
          rw [hc]
          decide +kernel
        refine iff_of_true ?_ hsigma
        split
        · exact List.forall_mem_singleton.mpr (by decide +kernel)
        · exact List.forall_mem_singleton.mpr (by decide +kernel)
      · exact isNameChar_lowerChar_iff

/-! ### Upper case -/

/-- Past ASCII the table decides what upper case makes of a character. -/
theorem upperChar_of_past_ascii {c : Char} (h : ¬ c.toNat < 0x80) :
    upperChar c = mapCase upperRuns upperExpansions c :=
  if_neg h

theorem isLower_of_past_ascii {c : Char} (h : ¬ c.toNat < 0x80) : c.isLower = false := by
  rw [Char.isLower, Bool.and_eq_false_iff, decide_eq_false_iff_not, decide_eq_false_iff_not]
  refine .inr fun hle => h ?_
  exact Nat.lt_of_le_of_lt (UInt32.le_iff_toNat_le.mp hle) (by decide)

/-- What the table maps to is no blank and no small letter in ASCII, and the table does not map
it. -/
theorem plain_of_mem_images {c : Char} (h : c.toNat ∈ imageCodes upperRuns upperExpansions) :
    isBlank c = false ∧ c.isLower = false ∧
      c.toNat ∉ mappedCodes upperRuns upperExpansions := by
  obtain ⟨hsmall, hrest⟩ := not_or.mp (mt List.mem_append.mpr (notMem_of_land land_upper h))
  obtain ⟨hblank, hmapped⟩ := not_or.mp (mt List.mem_append.mpr hrest)
  refine ⟨Bool.not_eq_true _ ▸ mt mem_blankCodes hblank, Bool.not_eq_true _ ▸ fun hlower => ?_,
    hmapped⟩
  rw [Char.isLower, Bool.and_eq_true, decide_eq_true_eq, decide_eq_true_eq, ge_iff_le,
    UInt32.le_iff_toNat_le, UInt32.le_iff_toNat_le] at hlower
  exact hsmall (List.mem_range'_1.mpr ⟨hlower.1, Nat.lt_succ_of_le hlower.2⟩)

/-- No small letter in ASCII arises in upper case. -/
theorem isLower_of_mem_upperChar {c d : Char} (h : d ∈ upperChar c) : d.isLower = false := by
  by_cases hascii : c.toNat < 0x80
  · rw [upperChar_of_ascii hascii, List.mem_singleton] at h
    rw [h, Char.isLower_toUpper_eq_false]
  · rw [upperChar_of_past_ascii hascii] at h
    rcases mapCase_cases h with ⟨-, himage⟩ | ⟨rfl, -⟩
    · exact (plain_of_mem_images himage).2.1
    · exact isLower_of_past_ascii hascii

/-- Upper case consists of characters that upper case leaves as they are. -/
theorem upperChar_of_mem_upperChar {c d : Char} (h : d ∈ upperChar c) : upperChar d = [d] := by
  by_cases hd : d.toNat < 0x80
  · rw [upperChar_of_ascii hd,
      Char.toUpper_eq_of_not_isLower (by simp [isLower_of_mem_upperChar h])]
  · by_cases hascii : c.toNat < 0x80
    · rw [upperChar_of_ascii hascii, List.mem_singleton] at h
      rw [h] at hd
      exact absurd (of_ascii (p := fun c => c.toUpper.toNat < 0x80) (by decide) hascii) hd
    · rw [upperChar_of_past_ascii hascii] at h
      rw [upperChar_of_past_ascii hd]
      rcases mapCase_cases h with ⟨-, himage⟩ | ⟨rfl, hself⟩
      · exact mapCase_of_notMem (plain_of_mem_images himage).2.2
      · exact hself

theorem ne_nil_of_upperExpansions : ∀ entry ∈ upperExpansions.toList, entry.2 ≠ [] := by
  decide +kernel

/-- Upper case leaves something of every character. -/
theorem upperChar_ne_nil (c : Char) : upperChar c ≠ [] := by
  rw [upperChar]
  split
  · exact List.cons_ne_nil _ _
  · exact mapCase_ne_nil ne_nil_of_upperExpansions c

/-- No blank arises in upper case. -/
theorem isBlank_of_mem_upperChar {c d : Char} (hc : isBlank c = false) (h : d ∈ upperChar c) :
    isBlank d = false := by
  by_cases hascii : c.toNat < 0x80
  · rw [upperChar_of_ascii hascii, List.mem_singleton] at h
    rw [h]
    exact of_ascii (p := fun c => isBlank c = false → isBlank c.toUpper = false) (by decide)
      hascii hc
  · rw [upperChar_of_past_ascii hascii] at h
    rcases mapCase_cases h with ⟨-, himage⟩ | ⟨rfl, -⟩
    · exact (plain_of_mem_images himage).1
    · exact hc

/-- Upper case leaves a blank as it is. -/
theorem upperChar_of_isBlank {c : Char} (h : isBlank c = true) : upperChar c = [c] := by
  have hall : ∀ n ∈ blankCodes, upperChar (Char.ofNat n) = [Char.ofNat n] := by decide +kernel
  have hmem := hall c.toNat (mem_blankCodes h)
  rwa [Char.ofNat_toNat] at hmem

theorem upper_of_isBlank {cs : List Char} (h : ∀ c ∈ cs, isBlank c = true) : upper cs = cs := by
  rw [upper, List.flatMap_congr fun c hc => upperChar_of_isBlank (h c hc), List.flatMap_singleton']

theorem upper_of_ascii {w : List Char} (hw : ∀ c ∈ w, c.toNat < 0x80) :
    upper w = w.map Char.toUpper := by
  induction w with
  | nil => rfl
  | cons c w ih =>
      rw [upper, List.flatMap_cons, upperChar_of_ascii (hw c List.mem_cons_self), List.map_cons]
      exact congrArg (c.toUpper :: ·) (ih fun d hd => hw d (List.mem_cons_of_mem c hd))

/-- **Upper case leaves a text in upper case as it is.** -/
theorem upper_upper (cs : List Char) : upper (upper cs) = upper cs := by
  refine (List.flatMap_congr fun d hd => ?_).trans (List.flatMap_singleton' _)
  obtain ⟨c, -, hd⟩ := List.mem_flatMap.mp hd
  exact upperChar_of_mem_upperChar hd

/-- A character that is blank in upper case is blank. -/
theorem isBlank_of_upper {cs : List Char} (h : ∀ d ∈ upper cs, isBlank d = false) :
    ∀ c ∈ cs, isBlank c = false := by
  intro c hc
  by_contra hblank
  rw [Bool.not_eq_false] at hblank
  have hmem : c ∈ upper cs := by
    refine List.mem_flatMap.mpr ⟨c, hc, ?_⟩
    rw [upperChar_of_isBlank hblank]
    exact List.mem_singleton_self c
  rw [h c hmem] at hblank
  cases hblank

theorem dropWhile_upper (cs : List Char) :
    (upper cs).dropWhile isBlank = upper (cs.dropWhile isBlank) := by
  induction cs with
  | nil => rfl
  | cons c cs ih =>
      rw [upper, List.flatMap_cons, ← upper]
      by_cases hc : isBlank c = true
      · rw [upperChar_of_isBlank hc, List.singleton_append, List.dropWhile_cons_of_pos hc, ih,
          List.dropWhile_cons_of_pos hc]
      · rw [Bool.not_eq_true] at hc
        obtain ⟨d, ds, hupper⟩ := List.exists_cons_of_ne_nil (upperChar_ne_nil c)
        have hd : isBlank d = false := isBlank_of_mem_upperChar hc (by simp [hupper])
        rw [List.dropWhile_cons_of_neg (by simp [hc]), hupper, List.cons_append,
          List.dropWhile_cons_of_neg (by simp [hd]), ← List.cons_append, ← hupper, upper, upper,
          List.flatMap_cons]

/-- What a text starts with stays in front in upper case, if upper case leaves it as it is. -/
theorem head?_upper {p : Char → Bool} {cs : List Char}
    (hp : ∀ {c}, p c = true → upperChar c = [c]) (h : ∀ c ∈ cs.head?, p c = true) :
    ∀ c ∈ (upper cs).head?, p c = true := by
  cases cs with
  | nil => simp [upper]
  | cons c rest =>
      have hc := h c rfl
      simpa [upper, hp hc] using hc

/-- What a text ends with stays at the end in upper case, if upper case leaves it as it is. -/
theorem getLast?_upper {p : Char → Bool} {cs : List Char}
    (hp : ∀ {c}, p c = true → upperChar c = [c]) (h : ∀ c ∈ cs.getLast?, p c = true) :
    ∀ c ∈ (upper cs).getLast?, p c = true := by
  rcases List.eq_nil_or_concat cs with rfl | ⟨front, c, rfl⟩
  · simp [upper]
  · have hc : p c = true := h c (by simp)
    rw [List.concat_eq_append, upper_append]
    simpa [upper, hp hc] using hc

theorem dropEndWhile_upper (cs : List Char) :
    dropEndWhile isBlank (upper cs) = upper (dropEndWhile isBlank cs) := by
  induction cs using List.reverseRecOn with
  | nil => rfl
  | append_singleton front c ih =>
      rw [upper_append]
      by_cases hc : isBlank c = true
      · have hsame : upper [c] = [c] := upper_of_isBlank (List.forall_mem_singleton.mpr hc)
        rw [hsame]
        exact (List.rdropWhile_concat_pos isBlank _ c hc).trans
          (ih.trans (congrArg upper (List.rdropWhile_concat_pos isBlank _ c hc).symm))
      · rw [Bool.not_eq_true] at hc
        obtain ⟨ds, d, hupper⟩ :=
          (List.eq_nil_or_concat (upper [c])).resolve_left (by simp [upper, upperChar_ne_nil])
        have hd : isBlank d = false := by
          refine isBlank_of_mem_upperChar hc (d := d) ?_
          have hmem : d ∈ upper [c] := by simp [hupper]
          simpa [upper] using hmem
        have hkept : dropEndWhile isBlank (front ++ [c]) = front ++ [c] := dropEndWhile_append hc []
        rw [hkept, upper_append, hupper, List.concat_eq_append, ← List.append_assoc]
        exact dropEndWhile_append hd []

/-- **A text may be trimmed before or after it is put into upper case.** -/
theorem trim_upper (cs : List Char) : trim (upper cs) = upper (trim cs) := by
  rw [trim, dropWhile_upper, dropEndWhile_upper, trim]

/-- A text that is not blank is not blank in upper case. -/
theorem trim_upper_ne_nil {cs : List Char} (h : trim cs ≠ []) : trim (upper cs) ≠ [] := by
  rw [trim_upper, ne_eq, upper, List.flatMap_eq_nil_iff, not_forall]
  obtain ⟨c, hc⟩ := List.exists_mem_of_ne_nil _ h
  exact ⟨c, fun himp => upperChar_ne_nil c (himp hc)⟩

/-- No small letter in ASCII is left in upper case. -/
theorem isLower_of_mem_upper {cs : List Char} {d : Char} (h : d ∈ upper cs) :
    d.isLower = false := by
  obtain ⟨c, -, hd⟩ := List.mem_flatMap.mp h
  exact isLower_of_mem_upperChar hd

/-! ### Letters in ASCII -/

theorem toLower_of_past_ascii {c : Char} (h : ¬ c.toNat < 0x80) : c.toLower = c := by
  rw [Char.toLower]
  split
  · rename_i hupper
    exact absurd (Nat.lt_of_le_of_lt (UInt32.le_iff_toNat_le.mp hupper.2) (by decide)) h
  · rfl

/-- What holds of each character and itself, and in ASCII of each and its lower-case form, holds
of every character and its lower-case form in ASCII. -/
theorem toLower_cases {p : Char → Char → Prop}
    (hascii : ∀ n < 0x80, p (Char.ofNat n).toLower (Char.ofNat n)) (hrefl : ∀ c, p c c)
    (c : Char) : p c.toLower c := by
  by_cases hc : c.toNat < 0x80
  · exact of_ascii (p := fun c => p c.toLower c) hascii hc
  · rw [toLower_of_past_ascii hc]
    exact hrefl c

/-- The case of letters in ASCII is lost in upper case. -/
theorem upper_map_toLower (cs : List Char) : upper (cs.map Char.toLower) = upper cs := by
  have hchar (c : Char) : upperChar c.toLower = upperChar c :=
    toLower_cases (p := fun d c => upperChar d = upperChar c) (by decide) (fun _ => rfl) c
  rw [upper, upper, List.flatMap_map]
  exact List.flatMap_congr fun c _ => hchar c

/-- The case of letters in ASCII is lost in lower case. -/
theorem lowerFrom_map_toLower (afterCased : Bool) (cs : List Char) :
    lowerFrom afterCased (cs.map Char.toLower) = lowerFrom afterCased cs := by
  have hsigma (c : Char) : (c.toLower = 'Σ') = (c = 'Σ') :=
    toLower_cases (p := fun d c => (d = 'Σ') = (c = 'Σ'))
      (fun n hn => propext (by revert n; decide)) (fun _ => rfl) c
  have hchar (c : Char) : lowerChar c.toLower = lowerChar c :=
    toLower_cases (p := fun d c => lowerChar d = lowerChar c) (by decide) (fun _ => rfl) c
  have hcased (c : Char) : isCased c.toLower = isCased c :=
    toLower_cases (p := fun d c => isCased d = isCased c) (by decide) (fun _ => rfl) c
  have hignorable (c : Char) : isCaseIgnorable c.toLower = isCaseIgnorable c :=
    toLower_cases (p := fun d c => isCaseIgnorable d = isCaseIgnorable c) (by decide)
      (fun _ => rfl) c
  have hcontinues (cs : List Char) : continuesCased (cs.map Char.toLower) = continuesCased cs := by
    have hdrop : (cs.map Char.toLower).dropWhile isCaseIgnorable =
        (cs.dropWhile isCaseIgnorable).map Char.toLower := by
      rw [List.dropWhile_map]
      exact congrArg (fun p => (cs.dropWhile p).map Char.toLower) (funext hignorable)
    rw [continuesCased, continuesCased, hdrop]
    cases cs.dropWhile isCaseIgnorable with
    | nil => rfl
    | cons c rest => exact hcased c
  induction cs generalizing afterCased with
  | nil => rfl
  | cons c cs ih =>
      simp only [List.map_cons, lowerFrom, hsigma, hchar, hcased, hignorable, hcontinues, ih]

/-- What lower case leaves as it is, it leaves so in ASCII. -/
theorem IsLowered.toLower_eq {c : Char} (h : IsLowered c) : c.toLower = c := by
  by_cases hascii : c.toNat < 0x80
  · have hself := h.2
    rw [lowerChar_of_ascii hascii] at hself
    exact List.singleton_inj.mp hself
  · exact toLower_of_past_ascii hascii

/-- Lower case is that of the letters in ASCII exactly if it leaves all others as they are. -/
theorem lower_eq_map_toLower_iff {cs : List Char} :
    lower cs = cs.map Char.toLower ↔ ∀ c ∈ cs, c.toNat < 0x80 ∨ IsLowered c := by
  constructor
  · intro h c hc
    by_cases hascii : c.toNat < 0x80
    · exact .inl hascii
    · have hmem : c.toLower ∈ lower cs := h ▸ List.mem_map_of_mem hc
      rw [toLower_of_past_ascii hascii] at hmem
      exact .inr (isLowered_of_mem_lowerFrom hmem)
  · intro h
    suffices hfrom : ∀ afterCased, lowerFrom afterCased cs = cs.map Char.toLower from hfrom false
    induction cs with
    | nil => exact fun _ => rfl
    | cons c cs ih =>
        intro afterCased
        obtain ⟨hc, hcs⟩ := List.forall_mem_cons.mp h
        rw [lowerFrom, ih hcs, List.map_cons]
        rcases Nat.lt_or_ge c.toNat 0x80 with hascii | hpast
        · have hsigma : c ≠ 'Σ' := by
            rintro rfl
            exact absurd hascii (by decide)
          rw [if_neg hsigma, lowerChar_of_ascii hascii, List.singleton_append]
        · obtain ⟨hsigma, hself⟩ := hc.resolve_left (Nat.not_lt.mpr hpast)
          rw [if_neg hsigma, hself, toLower_of_past_ascii (Nat.not_lt.mpr hpast),
            List.singleton_append]

/-- A name is its own lower case, apart from the case of ASCII letters, exactly if all other
letters are in lower case. -/
theorem sameName_lowerString_iff {s : String} :
    sameName (lowerString s) s = true ↔ ∀ c ∈ s.toList, c.toNat < 0x80 ∨ IsLowered c := by
  have hself : (lower s.toList).map Char.toLower = lower s.toList :=
    (List.map_congr_left fun d hd => (isLowered_of_mem_lowerFrom hd).toLower_eq).trans
      (List.map_id _)
  rw [sameName, beq_iff_eq, lowerString, String.toList_ofList, hself, lower_eq_map_toLower_iff]

/-- **Names that are equal apart from the case of ASCII letters** are equal in lower case. -/
theorem lowerString_eq_of_sameName {a b : String} (h : sameName a b = true) :
    lowerString a = lowerString b := by
  rw [sameName, beq_iff_eq] at h
  rw [lowerString, lowerString, lower, lower, ← lowerFrom_map_toLower false a.toList, h,
    lowerFrom_map_toLower]

end SqlGateway.Text
