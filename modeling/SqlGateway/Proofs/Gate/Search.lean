import SqlGateway.Gate.Check
import SqlGateway.Proofs.Query.Redaction
import SqlGateway.Proofs.Text.Spread

/-!
# What the Search for a Pattern Finds

A pattern is looked for as its words with blanks between them and a word boundary on each side. A
text has it exactly where the words are spread over a part of the text and there is a boundary in
front of this part and behind it (`hasPattern_iff`). Whether there is one depends on the characters
on both of its sides: where a blank or nothing stands beside the pattern, there is a boundary
exactly if the pattern itself ends there with a word character.

## Main results

* `spread_words`: a text is its words with blanks between them.
* `dropPattern?_eq_some_iff`: what is read of a pattern.
* `hasPattern_iff`: which texts have a pattern.
-/

namespace SqlGateway

namespace Text

/-! ### Words of a text -/

/-- Words as they stand between blanks: none is empty, and none has a blank in it. -/
def AreWords (ws : List (List Char)) : Prop :=
  ∀ w ∈ ws, w ≠ [] ∧ ∀ c ∈ w, isBlank c = false

theorem areWords_words (cs : List Char) : AreWords (words cs) :=
  fun _ => of_mem_words

/-- **A text is its words with blanks between them**, from its first to its last. -/
theorem spread_words {cs : List Char} {last : Char} (hlast : cs.getLast? = some last)
    (hblank : isBlank last = false) : Spread IsBlanks (words cs) (cs.dropWhile isBlank) := by
  fun_induction words cs with
  | case1 cs h =>
      rw [List.dropWhile_eq_nil_iff.mp h last (List.mem_of_getLast? hlast)] at hblank
      cases hblank
  | case2 cs c rest h word hlt ih =>
      have hsplit : cs.dropWhile isBlank = word ++ rest.dropWhile fun d => !isBlank d := by
        rw [h, List.cons_append, List.takeWhile_append_dropWhile]
      have hhead := isBlank_head?_dropWhile rest
      have hsuffix : word ++ (rest.dropWhile fun d => !isBlank d) <:+ cs :=
        hsplit ▸ List.dropWhile_suffix isBlank
      rw [hsplit]
      generalize rest.dropWhile (fun d => !isBlank d) = behind at hhead hsuffix ih ⊢
      cases behind with
      | nil =>
          rw [words_eq_nil (by simp), List.append_nil]
          exact .last word
      | cons d more =>
          obtain ⟨front, rfl⟩ := hsuffix
          have hgap : IsBlanks ((d :: more).takeWhile isBlank) :=
            ⟨by simp [hhead d rfl], fun e he => List.mem_takeWhile_imp he⟩
          have hmore := Spread.cons (w := word) hgap (ih (by simpa using hlast))
          rwa [List.takeWhile_append_dropWhile] at hmore

namespace Spread

variable {IsGap : List Char → Prop} {ws : List (List Char)} {cs : List Char}

/-- Words with gaps between them start with a character that is no blank. -/
theorem exists_nonblank_head (h : Spread IsGap ws cs) (hws : AreWords ws) :
    ∃ c rest, cs = c :: rest ∧ isBlank c = false := by
  have hfirst : ∀ {w : List Char} (rest : List Char), w ∈ ws →
      ∃ c more, w ++ rest = c :: more ∧ isBlank c = false := by
    intro w rest hw
    obtain ⟨c, more, rfl⟩ := List.exists_cons_of_ne_nil (hws w hw).1
    exact ⟨c, more ++ rest, rfl, (hws _ hw).2 c List.mem_cons_self⟩
  cases h with
  | last w => simpa using hfirst [] List.mem_cons_self
  | cons _ _ => exact hfirst _ List.mem_cons_self

theorem cs_ne_nil (h : Spread IsGap ws cs) (hws : AreWords ws) : cs ≠ [] := by
  obtain ⟨c, rest, rfl, -⟩ := h.exists_nonblank_head hws
  exact List.cons_ne_nil c rest

/-- Whatever stands in front of them, words with gaps between them end the text. -/
theorem getLast?_append (h : Spread IsGap ws cs) (hws : AreWords ws) (w gap : List Char) :
    (w ++ (gap ++ cs)).getLast? = cs.getLast? := by
  have hne := h.cs_ne_nil hws
  rw [List.getLast?_append_of_ne_nil _ (List.append_ne_nil_of_right_ne_nil _ hne),
    List.getLast?_append_of_ne_nil _ hne]

/-- Words with gaps between them end as one of the words does. -/
theorem exists_getLast?_eq (h : Spread IsGap ws cs) (hws : AreWords ws) :
    ∃ w ∈ ws, cs.getLast? = w.getLast? := by
  induction h with
  | last w => exact ⟨w, List.mem_cons_self, rfl⟩
  | @cons w gap cs ws _ hspread ih =>
      have hmore : AreWords ws := fun w' hw' => hws w' (List.mem_cons_of_mem w hw')
      obtain ⟨w', hw', hlast⟩ := ih hmore
      exact ⟨w', List.mem_cons_of_mem w hw', (hspread.getLast?_append hmore w gap).trans hlast⟩

/-- Without its blanks a text is its words. -/
theorem filter_eq (h : Spread IsBlanks ws cs) (hws : AreWords ws) :
    cs.filter (fun c => !isBlank c) = ws.flatten := by
  have hword : ∀ w ∈ ws, w.filter (fun c => !isBlank c) = w := fun w hw =>
    List.filter_eq_self.mpr fun c hc => by rw [(hws w hw).2 c hc]; rfl
  induction h with
  | last w => rw [hword w List.mem_cons_self, List.flatten_singleton]
  | @cons w gap cs ws hgap hspread ih =>
      have hmore : AreWords ws := fun w' hw' => hws w' (List.mem_cons_of_mem w hw')
      have hblank : gap.filter (fun c => !isBlank c) = [] :=
        List.filter_eq_nil_iff.mpr fun c hc => by simp [hgap.2 c hc]
      rw [List.filter_append, List.filter_append, hword w List.mem_cons_self, hblank,
        List.nil_append, ih hmore fun w' hw' => hword w' (List.mem_cons_of_mem w hw'),
        List.flatten_cons]

end Spread

end Text

namespace Gate

open Text

/-! ### Beside a pattern -/

/-- Where no word ends in front, there is a boundary exactly if a word starts. -/
theorem isWordBoundary_of_before {before : Option Char}
    (h : ∀ c ∈ before, isWordChar c = false) (after : List Char) :
    isWordBoundary before after = startsWord after := by
  cases before with
  | none => rw [isWordBoundary, Option.any_none, Bool.false_bne]
  | some c => rw [isWordBoundary, Option.any_some, h c rfl, Bool.false_bne]

/-- Where no word starts behind, there is a boundary exactly if a word ends. -/
theorem isWordBoundary_of_after {after : List Char}
    (h : ∀ c ∈ after.head?, isWordChar c = false) (before : Option Char) :
    isWordBoundary before after = before.any isWordChar := by
  have hstart : startsWord after = false := by
    cases after with
    | nil => rfl
    | cons c rest => exact h c rfl
  rw [isWordBoundary, hstart, Bool.bne_false]

/-! ### Reading a pattern -/

/-- **What is read of a pattern**: its words with blanks between them. -/
theorem dropPattern?_eq_some_iff {ws : List (List Char)} (hne : ws ≠ []) (hws : AreWords ws)
    {cs after : List Char} {last : Option Char} :
    dropPattern? ws cs = some (last, after) ↔
      ∃ phrase, cs = phrase ++ after ∧ Spread IsBlanks ws phrase ∧ last = phrase.getLast? := by
  induction ws generalizing cs last with
  | nil => exact absurd rfl hne
  | cons w ws ih =>
      cases ws with
      | nil =>
          rw [dropPattern?]
          constructor
          · intro h
            obtain ⟨rest, hrest, heq⟩ := Option.map_eq_some_iff.mp h
            cases heq
            exact ⟨w, dropStart?_eq_some hrest, .last w, rfl⟩
          · rintro ⟨phrase, rfl, hspread, rfl⟩
            cases hspread with
            | last => rw [Text.dropStart?_append, Option.map_some]
            | cons _ h => exact absurd rfl h.ne_nil
      | cons w' ws =>
          have hmore : AreWords (w' :: ws) := fun v hv => hws v (List.mem_cons_of_mem w hv)
          have hrec := fun {cs : List Char} {last : Option Char} =>
            @ih (List.cons_ne_nil w' ws) hmore cs last
          rw [dropPattern?]
          constructor
          · intro h
            obtain ⟨rest, hrest, hdrop⟩ := Option.bind_eq_some_iff.mp h
            obtain ⟨behind, hbehind, hread⟩ := Option.bind_eq_some_iff.mp hdrop
            obtain ⟨gap, hsplit, hgap, hblank, -⟩ := dropBlanks?_eq_some_iff.mp hbehind
            obtain ⟨phrase, rfl, hspread, rfl⟩ := hrec.mp hread
            refine ⟨w ++ (gap ++ phrase), ?_, .cons ⟨hgap, hblank⟩ hspread,
              (hspread.getLast?_append hmore w gap).symm⟩
            rw [dropStart?_eq_some hrest, hsplit, List.append_assoc, List.append_assoc]
          · rintro ⟨phrase, rfl, hspread, rfl⟩
            cases hspread with
            | @cons _ gap tail _ hgap hspread =>
                have hhead : ∀ c ∈ (tail ++ after).head?, isBlank c = false := by
                  obtain ⟨c, rest, rfl, hc⟩ := hspread.exists_nonblank_head hmore
                  exact fun d hd => Option.some.inj hd ▸ hc
                have hblanks : dropBlanks? (gap ++ (tail ++ after)) = some (tail ++ after) :=
                  dropBlanks?_eq_some_iff.mpr ⟨gap, rfl, hgap.1, hgap.2, hhead⟩
                rw [List.append_assoc, List.append_assoc, Text.dropStart?_append,
                  hspread.getLast?_append hmore w gap]
                simp only [Option.bind_eq_bind, Option.bind_some, hblanks]
                exact hrec.mpr ⟨tail, rfl, hspread, rfl⟩
          · simp

/-- A pattern is read where its words stand, with a word boundary on each side. -/
theorem patternAt?_eq_some_iff {ws : List (List Char)} (hne : ws ≠ []) (hws : AreWords ws)
    {before : Option Char} {cs after : List Char} :
    patternAt? ws before cs = some ((), after) ↔
      ∃ phrase, cs = phrase ++ after ∧ Spread IsBlanks ws phrase ∧
        isWordBoundary before cs = true ∧ isWordBoundary phrase.getLast? after = true := by
  rw [patternAt?]
  constructor
  · intro h
    split_ifs at h with hfront
    split at h
    · rename_i hdrop
      split_ifs at h with hback
      cases h
      obtain ⟨phrase, rfl, hspread, rfl⟩ := (dropPattern?_eq_some_iff hne hws).mp hdrop
      exact ⟨phrase, rfl, hspread, hfront, hback⟩
    · cases h
  · rintro ⟨phrase, rfl, hspread, hfront, hback⟩
    have hdrop := (dropPattern?_eq_some_iff hne hws).mpr
      ⟨phrase, Eq.refl (phrase ++ after), hspread, rfl⟩
    simp only [if_pos hfront, hdrop, if_pos hback]

/-- **Which texts have a pattern**: those in which its words stand somewhere with blanks between
them, with a word boundary in front of the first and one behind the last. -/
theorem hasPattern_iff {pattern : String} (hne : words pattern.toList ≠ []) {cs : List Char} :
    hasPattern pattern cs = true ↔
      ∃ before phrase after, cs = before ++ (phrase ++ after) ∧
        Spread IsBlanks (words pattern.toList) phrase ∧
        isWordBoundary before.getLast? (phrase ++ after) = true ∧
        isWordBoundary phrase.getLast? after = true := by
  have hws := areWords_words pattern.toList
  have hlast (before : List Char) : lastOf? none before = before.getLast? := Option.or_none
  rw [hasPattern, isFound_iff]
  constructor
  · rintro ⟨before, c, rest, found, after, rfl, hread⟩
    obtain ⟨phrase, hsplit, hspread, hfront, hback⟩ := (patternAt?_eq_some_iff hne hws).mp hread
    rw [hlast, hsplit] at hfront
    exact ⟨before, phrase, after, by rw [hsplit], hspread, hfront, hback⟩
  · rintro ⟨before, phrase, after, rfl, hspread, hfront, hback⟩
    obtain ⟨c, rest, hsplit, -⟩ := hspread.exists_nonblank_head hws
    refine ⟨before, c, rest ++ after, (), after, by rw [hsplit, List.cons_append], ?_⟩
    rw [patternAt?_eq_some_iff hne hws, hlast]
    refine ⟨phrase, by rw [hsplit, List.cons_append], hspread, ?_, hback⟩
    rwa [hsplit, List.cons_append] at hfront

end Gate

end SqlGateway
