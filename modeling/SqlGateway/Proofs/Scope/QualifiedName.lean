import SqlGateway.Proofs.Scope.TablePosition

/-!
# Qualified Names

A qualified name is a name, a point and a name, with blanks around the point. It starts at a
word boundary with a letter, an underscore or a dollar sign, and only with such characters
or a star behind the point.

## Main results

* `qualified?_eq_some`: what is read of a text is a name, then blanks and a point, and nothing
  but names, blanks, points and stars.
* `qualified?_append`: a qualified name is read.
* `stopsBefore_qualified?`: behind a character of another kind the search starts afresh.
-/

namespace SqlGateway.Scope

open Text

/-- Whether a character can stand in a qualified name. -/
def isQualifiedChar (c : Char) : Bool :=
  isNameChar c || isBlank c || c == '.' || c == '*'

theorem dropPoint?_eq_some {cs rest : List Char} (h : dropPoint? cs = some rest) :
    ∃ gap gap', cs = gap ++ '.' :: (gap' ++ rest) ∧ (∀ c ∈ gap, isBlank c = true) ∧
      ∀ c ∈ gap', isBlank c = true := by
  rw [dropPoint?] at h
  split at h
  · rename_i after heq
    cases h
    refine ⟨cs.takeWhile isBlank, after.takeWhile isBlank, ?_, fun c => List.mem_takeWhile_imp,
      fun c => List.mem_takeWhile_imp⟩
    rw [List.takeWhile_append_dropWhile, ← heq, List.takeWhile_append_dropWhile]
  · cases h

theorem nameFrom?_eq_some {start : Char → Bool} {cs name rest : List Char}
    (h : nameFrom? start cs = some (name, rest)) :
    cs = name ++ rest ∧ ∃ c more, name = c :: more ∧ start c = true ∧
      (∀ d ∈ more, isNameChar d = true) ∧ ∀ d ∈ rest.head?, isNameChar d = false := by
  cases cs with
  | nil => cases h
  | cons c cs =>
      rw [nameFrom?] at h
      split at h
      · rename_i hstart
        cases h
        refine ⟨?_, c, _, rfl, hstart, fun d => List.mem_takeWhile_imp, head?_dropWhile⟩
        rw [List.cons_append, List.takeWhile_append_dropWhile]
      · cases h

theorem nameFrom?_append {start : Char → Bool} {c : Char} (hstart : start c = true)
    {more : List Char} (hmore : ∀ d ∈ more, isNameChar d = true) {rest : List Char}
    (hrest : ∀ d ∈ rest.head?, isNameChar d = false) :
    nameFrom? start (c :: more ++ rest) = some (c :: more, rest) := by
  rw [List.cons_append, nameFrom?, if_pos hstart, takeWhile_run hmore hrest,
    dropWhile_run hmore hrest]

/-- What starts a qualifier stands in names. -/
theorem isNameChar_of_isQualifierStart {c : Char} (h : isQualifierStart c = true) :
    isNameChar c = true := by
  simp only [isQualifierStart, Bool.or_eq_true, beq_iff_eq] at h
  rcases h with (((h | rfl) | rfl) | rfl) | rfl
  · have halnum : c.isAlphanum = true := by rw [Char.isAlphanum, h, Bool.true_or]
    exact isNameChar_of_isWordChar (isWordChar_of_isAlpha (toNat_lt_of_isAlphanum halnum) h)
  · decide
  · decide
  · decide +kernel
  · decide +kernel

/-- What is read as a name after a point is a point with blanks, and a name or a star. -/
theorem pointedName?_eq_some {cs name rest : List Char} (h : pointedName? cs = some (name, rest)) :
    ∃ gap run, cs = gap ++ '.' :: (run ++ rest) ∧ (∀ c ∈ gap, isBlank c = true) ∧
      ∀ c ∈ run, isQualifiedChar c = true := by
  rw [pointedName?, Option.bind_eq_bind, Option.bind_eq_some_iff] at h
  obtain ⟨after, hpoint, hname⟩ := h
  obtain ⟨gap, gap', rfl, hgap, hgap'⟩ := dropPoint?_eq_some hpoint
  obtain ⟨rfl, c, more, rfl, hc, hmore, -⟩ := nameFrom?_eq_some hname
  refine ⟨gap, gap' ++ c :: more, by simp, hgap, ?_⟩
  intro d hd
  have hchar : isNameChar d = true ∨ isBlank d = true ∨ d = '*' := by
    rcases List.mem_append.mp hd with hd | hd
    · exact .inr (.inl (hgap' d hd))
    rcases List.mem_cons.mp hd with rfl | hd
    · rw [Bool.or_eq_true, beq_iff_eq] at hc
      exact hc.imp isNameChar_of_isQualifierStart .inr
    · exact .inl (hmore d hd)
  rcases hchar with h | h | rfl
  · simp [isQualifiedChar, h]
  · simp [isQualifiedChar, h]
  · decide

/-- **What is read as a qualified name**: a word boundary, a name, blanks and a point, and all
that is read are characters of qualified names. -/
theorem qualified?_eq_some {before : Option Char} {cs name rest : List Char} {three : Bool}
    (h : qualified? before cs = some ((name, three), rest)) :
    atBoundary before cs = true ∧ (∃ c more, name = c :: more ∧ isQualifierStart c = true ∧
      ∀ d ∈ more, isNameChar d = true) ∧
      ∃ gap run, cs = name ++ (gap ++ '.' :: (run ++ rest)) ∧ (∀ c ∈ gap, isBlank c = true) ∧
        ∀ c ∈ run, isQualifiedChar c = true := by
  rw [qualified?] at h
  split at h
  · rename_i hboundary
    rw [Option.bind_eq_bind, Option.bind_eq_some_iff] at h
    obtain ⟨⟨qualifier, after⟩, hqualifier, h⟩ := h
    obtain ⟨⟨second, after'⟩, hsecond, hthird⟩ := Option.bind_eq_some_iff.mp h
    obtain ⟨rfl, c, more, rfl, hc, hmore, -⟩ := nameFrom?_eq_some hqualifier
    obtain ⟨gap, run, rfl, hgap, hrun⟩ := pointedName?_eq_some hsecond
    dsimp only at hthird
    split at hthird
    · rename_i third last hlast
      obtain ⟨gap', run', rfl, hgap', hrun'⟩ := pointedName?_eq_some hlast
      cases hthird
      refine ⟨hboundary, ⟨c, more, rfl, hc, hmore⟩, gap, run ++ (gap' ++ '.' :: run'), by simp,
        hgap, ?_⟩
      intro d hd
      simp only [List.mem_append, List.mem_cons] at hd
      rcases hd with hd | hd | rfl | hd
      · exact hrun d hd
      · simp [isQualifiedChar, hgap' d hd]
      · decide
      · exact hrun' d hd
    · cases hthird
      exact ⟨hboundary, ⟨c, more, rfl, hc, hmore⟩, gap, run, rfl, hgap, hrun⟩
  · cases h

/-- A qualified name is read. -/
theorem qualified?_append {before : Option Char} {c e : Char} {more rest : List Char}
    (hboundary : atBoundary before (c :: more ++ '.' :: e :: rest) = true)
    (hc : isQualifierStart c = true) (hmore : ∀ d ∈ more, isNameChar d = true)
    (he : isQualifierStart e = true) :
    ∃ three after,
      qualified? before (c :: more ++ '.' :: e :: rest) = some ((c :: more, three), after) := by
  have hpoint : ∀ d ∈ ('.' :: e :: rest).head?, isNameChar d = false := by
    rintro d ⟨⟩
    decide
  have hblank : ∀ d ∈ (e :: rest).head?, isBlank d = false := by
    rintro d ⟨⟩
    exact isBlank_of_isNameChar (isNameChar_of_isQualifierStart he)
  have hdrop : dropPoint? ('.' :: e :: rest) = some (e :: rest) :=
    dropPoint?_cons hblank
  have hsecond : pointedName? ('.' :: e :: rest) =
      some (e :: rest.takeWhile isNameChar, rest.dropWhile isNameChar) := by
    rw [pointedName?, hdrop, Option.bind_eq_bind, Option.bind_some, nameFrom?,
      if_pos (by rw [he, Bool.true_or])]
  rw [qualified?, if_pos hboundary, nameFrom?_append hc hmore hpoint, Option.bind_eq_bind,
    Option.bind_some]
  dsimp only
  rw [hsecond, Option.bind_some]
  dsimp only
  split
  · exact ⟨_, _, rfl⟩
  · exact ⟨_, _, rfl⟩

/-- No qualified name starts with a blank. -/
theorem qualified?_of_isBlank {c : Char} (hc : isBlank c = true) (before : Option Char)
    (rest : List Char) : qualified? before (c :: rest) = none := by
  have hstart : isQualifierStart c = false := by
    by_contra h
    have hname := isNameChar_of_isQualifierStart (Bool.not_eq_false _ ▸ h)
    rw [isNameChar_of_isBlank hc] at hname
    cases hname
  rw [qualified?, nameFrom?, hstart]
  split <;> rfl

/-- The search for qualified names starts afresh behind a character that stands in none. -/
theorem stopsBefore_qualified? {before : Option Char} {pre cs : List Char}
    (hpre : ∀ c ∈ pre.getLast?, isQualifiedChar c = false) :
    StopsBefore qualified? before pre cs := by
  refine stopsBefore_of_run (p := isQualifiedChar) (fun before cs found after h => ?_) hpre
  obtain ⟨name, three⟩ := found
  obtain ⟨-, ⟨c, more, rfl, hc, hmore⟩, gap, run, rfl, hgap, hrun⟩ := qualified?_eq_some h
  refine ⟨c :: more ++ (gap ++ '.' :: run), by simp, ?_⟩
  intro d hd
  simp only [List.mem_append, List.mem_cons] at hd
  rcases hd with (rfl | hd) | hd | rfl | hd
  · simp [isQualifiedChar, isNameChar_of_isQualifierStart hc]
  · simp [isQualifiedChar, hmore d hd]
  · simp [isQualifiedChar, hgap d hd]
  · decide
  · exact hrun d hd

/-- A qualified name that counts whatever is declared, or whose qualifier is not declared, is
referenced. -/
theorem mem_pieceReferences_of_qualified {piece name : List Char} {three : Bool}
    (h : (name, three) ∈ findAll qualified? piece)
    (hdeclared : localName name ∉ (tablePlaces piece).declared) :
    ⟨String.ofList name, .qualifier, isDefinition piece⟩ ∈ pieceReferences piece := by
  refine List.mem_append_right _ (List.mem_map.mpr
    ⟨(name, three), List.mem_filter.mpr ⟨h, ?_⟩, rfl⟩)
  simp [hdeclared]

end SqlGateway.Scope
