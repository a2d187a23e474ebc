import SqlGateway.Proofs.Text.Case
import SqlGateway.Proofs.Text.Phrase

/-!
# Words Spread Over a Text

A phrase is looked for as words with blanks between them, between the ends of words. In the text
that it was typed in, comments may stand between the words as well. `Spread IsGap ws cs` says that
`cs` is the words `ws` with gaps of some kind between them, and `Shows ws cs` that somewhere in
`cs` the words stand with nothing but blanks between them, and not as parts of longer words.

## Main results

* `Shows.upper`: what a text shows, it shows in upper case.
* `Shows.embed`: what a part of a text shows, the text shows.
* `isPlainWord_of_upper_eq`: the forms of a plain word in other letter case.
-/

namespace SqlGateway.Text

/-! ### Plain words -/

/-- A word of letters in ASCII, digits and underscores that does not start with a digit. -/
structure IsPlainWord (w : List Char) : Prop where
  ne_nil : w ≠ []
  chars : ∀ c ∈ w, c.isAlphanum = true ∨ c = '_'
  start : ∀ c ∈ w.head?, c.isDigit = false

instance (w : List Char) : Decidable (IsPlainWord w) :=
  decidable_of_iff (w ≠ [] ∧ (w.all fun c => c.isAlphanum || c == '_') = true ∧
      w.head?.all (!·.isDigit) = true) <| by
    simp only [List.all_eq_true, Option.all_eq_true, Bool.or_eq_true, beq_iff_eq,
      Bool.not_eq_true']
    exact ⟨fun ⟨hne, hchars, hstart⟩ => ⟨hne, hchars, hstart⟩,
      fun h => ⟨h.ne_nil, h.chars, h.start⟩⟩

/-- A character that ends a word: one in ASCII that is no word character. -/
def endsPlainWord (c : Char) : Bool :=
  decide (c.toNat < 0x80) && !isWordChar c

theorem endsPlainWord_iff {c : Char} :
    endsPlainWord c = true ↔ c.toNat < 0x80 ∧ isWordChar c = false := by
  simp [endsPlainWord]

theorem isWordChar_of_endsPlainWord {c : Char} (h : endsPlainWord c = true) :
    isWordChar c = false :=
  (endsPlainWord_iff.mp h).2

/-- A blank in ASCII ends a word. -/
theorem endsPlainWord_of_isBlank {c : Char} (hascii : c.toNat < 0x80) (h : isBlank c = true) :
    endsPlainWord c = true :=
  of_ascii (p := fun c => isBlank c = true → endsPlainWord c = true) (by decide) hascii h

namespace IsPlainWord

variable {w : List Char}

/-- The characters of a plain word are word characters in ASCII. -/
theorem of_mem (h : IsPlainWord w) {c : Char} (hc : c ∈ w) :
    c.toNat < 0x80 ∧ isWordChar c = true := by
  have hascii : c.toNat < 0x80 := by
    rcases h.chars c hc with halpha | rfl
    · exact toNat_lt_of_isAlphanum halpha
    · decide
  exact ⟨hascii, by simpa [isWordChar, hascii] using h.chars c hc⟩

theorem isBlank_of_mem (h : IsPlainWord w) {c : Char} (hc : c ∈ w) : isBlank c = false :=
  isBlank_of_isNameChar (isNameChar_of_isWordChar (h.of_mem hc).2)

end IsPlainWord

/-- A character with the capital of one of a plain word is one itself. -/
theorem plain_of_toUpper_eq {c d : Char} (hc : c.toNat < 0x80) (hd : d.toNat < 0x80)
    (h : c.toUpper = d.toUpper) :
    (c.isAlphanum || c == '_') = (d.isAlphanum || d == '_') ∧ c.isDigit = d.isDigit := by
  have hupper : ∀ {c : Char}, c.toNat < 0x80 →
      (c.toUpper.isAlphanum || c.toUpper == '_') = (c.isAlphanum || c == '_') ∧
        c.toUpper.isDigit = c.isDigit := fun hc =>
    of_ascii (p := fun c => (c.toUpper.isAlphanum || c.toUpper == '_') =
      (c.isAlphanum || c == '_') ∧ c.toUpper.isDigit = c.isDigit) (by decide) hc
  obtain ⟨hchar, hdigit⟩ := hupper hc
  obtain ⟨hchar', hdigit'⟩ := hupper hd
  rw [← hchar, ← hchar', ← hdigit, ← hdigit', h]
  exact ⟨rfl, rfl⟩

/-- **The forms of a plain word in other letter case** are plain words. -/
theorem isPlainWord_of_upper_eq {v w : List Char} (hv : ∀ c ∈ v, c.toNat < 0x80)
    (hw : IsPlainWord w) (h : upper v = upper w) : IsPlainWord v := by
  rw [upper_of_ascii hv, upper_of_ascii fun c hc => (hw.of_mem hc).1] at h
  refine ⟨?_, fun c hc => ?_, fun c hc => ?_⟩
  · rintro rfl
    exact hw.ne_nil (List.map_eq_nil_iff.mp h.symm)
  · obtain ⟨d, hd, heq⟩ := List.mem_map.mp (h ▸ List.mem_map_of_mem hc)
    have hsame := (plain_of_toUpper_eq (hw.of_mem hd).1 (hv c hc) heq).1
    have hword : (d.isAlphanum || d == '_') = true := by simpa using hw.chars d hd
    simpa [hsame] using hword
  · obtain ⟨rest, rfl⟩ := List.head?_eq_some_iff.mp hc
    obtain ⟨d, more, rfl⟩ := List.exists_cons_of_ne_nil hw.ne_nil
    rw [List.map_cons, List.map_cons] at h
    rw [← hw.start d rfl]
    exact (plain_of_toUpper_eq (hv c List.mem_cons_self) (hw.of_mem List.mem_cons_self).1
      (List.cons.inj h).1).2

/-! ### Words with gaps between them -/

/-- `Spread IsGap ws cs`: the text `cs` is the words `ws` with gaps between them. -/
inductive Spread (IsGap : List Char → Prop) : List (List Char) → List Char → Prop
  | last (w : List Char) : Spread IsGap [w] w
  | cons {w gap cs : List Char} {ws : List (List Char)} (hgap : IsGap gap)
      (h : Spread IsGap ws cs) : Spread IsGap (w :: ws) (w ++ (gap ++ cs))

/-- Blanks, at least one of them. -/
def IsBlanks (gap : List Char) : Prop :=
  gap ≠ [] ∧ ∀ c ∈ gap, isBlank c = true

namespace Spread

variable {IsGap : List Char → Prop} {ws : List (List Char)} {cs : List Char}

theorem ne_nil (h : Spread IsGap ws cs) : ws ≠ [] := by
  cases h <;> exact List.cons_ne_nil _ _

/-- Words with gaps between them start as the first of them. -/
theorem exists_head (h : Spread IsGap ws cs) (hws : ∀ w ∈ ws, IsPlainWord w)
    (after : List Char) :
    ∃ c rest, cs ++ after = c :: rest ∧ c.toNat < 0x80 ∧ isWordChar c = true ∧
      c.isDigit = false := by
  have hfirst : ∀ {w : List Char} (rest : List Char), IsPlainWord w →
      ∃ c more, w ++ rest = c :: more ∧ c.toNat < 0x80 ∧ isWordChar c = true ∧
        c.isDigit = false := by
    intro w rest hw
    obtain ⟨c, more, rfl⟩ := List.exists_cons_of_ne_nil hw.ne_nil
    obtain ⟨hascii, hword⟩ := hw.of_mem List.mem_cons_self
    exact ⟨c, more ++ rest, rfl, hascii, hword, hw.start c rfl⟩
  cases h with
  | last => exact hfirst after (hws _ List.mem_cons_self)
  | cons =>
      rw [List.append_assoc]
      exact hfirst _ (hws _ List.mem_cons_self)

/-- What the words are made of is in the text. -/
theorem mem_of_mem (h : Spread IsGap ws cs) {w : List Char} (hw : w ∈ ws) {c : Char}
    (hc : c ∈ w) : c ∈ cs := by
  induction h with
  | last v => exact List.mem_singleton.mp hw ▸ hc
  | cons _ _ ih =>
      rw [List.mem_append, List.mem_append]
      rcases List.mem_cons.mp hw with rfl | hw
      · exact .inl hc
      · exact .inr (.inr (ih hw))

/-- They are made of what the words and the gaps are made of. -/
theorem mem (h : Spread IsGap ws cs) {c : Char} (hc : c ∈ cs) :
    (∃ w ∈ ws, c ∈ w) ∨ ∃ gap, IsGap gap ∧ c ∈ gap := by
  induction h with
  | last w => exact .inl ⟨w, List.mem_cons_self, hc⟩
  | @cons w gap _ _ hgap _ ih =>
      rw [List.mem_append, List.mem_append] at hc
      rcases hc with hc | hc | hc
      · exact .inl ⟨w, List.mem_cons_self, hc⟩
      · exact .inr ⟨gap, hgap, hc⟩
      · exact (ih hc).imp_left fun ⟨w', hw', hc⟩ => ⟨w', List.mem_cons_of_mem w hw', hc⟩

/-- Blanks stay between the words in upper case. -/
theorem upper (h : Spread IsBlanks ws cs) :
    Spread IsBlanks (ws.map upper) (Text.upper cs) := by
  induction h with
  | last w => exact .last _
  | cons hgap _ ih =>
      rw [upper_append, upper_append, upper_of_isBlank hgap.2]
      exact .cons hgap ih

end Spread

/-! ### What a text shows -/

/-- `Shows ws cs`: somewhere in `cs` the words `ws` stand with nothing but blanks between them, and
not as parts of longer words. -/
def Shows (ws : List (List Char)) (cs : List Char) : Prop :=
  ∃ before phrase after, cs = before ++ (phrase ++ after) ∧ Spread IsBlanks ws phrase ∧
    (∀ c ∈ before.getLast?, endsPlainWord c = true) ∧ ∀ c ∈ after.head?, endsPlainWord c = true

/-- A character that ends a word has no capital. -/
theorem upperChar_of_endsPlainWord {c : Char} (h : endsPlainWord c = true) : upperChar c = [c] := by
  obtain ⟨hascii, hword⟩ := endsPlainWord_iff.mp h
  rw [upperChar_of_ascii hascii]
  exact congrArg (fun d => [d]) (of_ascii (p := fun c => isWordChar c = false → c.toUpper = c)
    (by decide) hascii hword)

/-- Where a text ends words in front, it does so in upper case. -/
theorem endsPlainWord_head?_upper {cs : List Char} (h : ∀ c ∈ cs.head?, endsPlainWord c = true) :
    ∀ c ∈ (upper cs).head?, endsPlainWord c = true :=
  head?_upper upperChar_of_endsPlainWord h

/-- Where a text ends words at its end, it does so in upper case. -/
theorem endsPlainWord_getLast?_upper {cs : List Char}
    (h : ∀ c ∈ cs.getLast?, endsPlainWord c = true) :
    ∀ c ∈ (upper cs).getLast?, endsPlainWord c = true :=
  getLast?_upper upperChar_of_endsPlainWord h

/-- **What a text shows, it shows in upper case.** -/
theorem Shows.upper {ws : List (List Char)} {cs : List Char} (h : Shows ws cs) :
    Shows (ws.map upper) (Text.upper cs) := by
  obtain ⟨before, phrase, after, rfl, hspread, hbefore, hafter⟩ := h
  refine ⟨Text.upper before, Text.upper phrase, Text.upper after, ?_, hspread.upper,
    endsPlainWord_getLast?_upper hbefore, endsPlainWord_head?_upper hafter⟩
  rw [upper_append, upper_append]

/-- **What a part of a text shows, the text shows**, if no word goes on beyond the part. -/
theorem Shows.embed {ws : List (List Char)} {cs front back : List Char} (h : Shows ws cs)
    (hfront : ∀ c ∈ front.getLast?, endsPlainWord c = true)
    (hback : ∀ c ∈ back.head?, endsPlainWord c = true) : Shows ws (front ++ (cs ++ back)) := by
  obtain ⟨before, phrase, after, rfl, hspread, hbefore, hafter⟩ := h
  refine ⟨front ++ before, phrase, after ++ back, by simp, hspread, fun c hc => ?_,
    fun c hc => ?_⟩
  · rw [List.getLast?_append] at hc
    cases hlast : before.getLast? with
    | none => exact hfront c (by simpa [hlast] using hc)
    | some d => exact hbefore c (by simpa [hlast] using hc)
  · rw [List.head?_append] at hc
    cases hhead : after.head? with
    | none => exact hback c (by simpa [hhead] using hc)
    | some d => exact hafter c (by simpa [hhead] using hc)

end SqlGateway.Text
