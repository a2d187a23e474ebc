import SqlGateway.Proofs.Statement.NormalForm
import SqlGateway.Proofs.Statement.Spacing
import SqlGateway.Proofs.Statement.Telling

/-!
# Words That the Normal Form Shows

Words stand in a text outside quotes with blanks and comments between them. Whether the text is cut
into tokens or described by its words, its normal form shows the words in upper case, as the gate
looks for them.

## Main results

* `Shows.words`: the words of a text with one blank between them show what the text shows.
* `shows_normalized`: the normal form of a text shows the words that are spread in it.
-/

namespace SqlGateway

namespace Text

/-! ### Texts with other blanks -/

/-- **Respaced words** have blanks between them as before. -/
theorem Spread.respaced {ws : List (List Char)} {phrase after ds : List Char}
    (h : Spread IsBlanks ws phrase) (hws : ∀ w ∈ ws, IsPlainWord w)
    (hds : Respaced (phrase ++ after) ds) :
    ∃ phrase' after', ds = phrase' ++ after' ∧ Spread IsBlanks ws phrase' ∧
      Respaced after after' := by
  induction h generalizing ds with
  | last w =>
      obtain ⟨after', rfl, hafter⟩ :=
        hds.exists_word fun c hc => (hws w List.mem_cons_self).isBlank_of_mem hc
      exact ⟨w, after', rfl, .last w, hafter⟩
  | @cons w gap cs ws hgap hspread ih =>
      have hmore : ∀ w' ∈ ws, IsPlainWord w' := fun w' hw' => hws w' (List.mem_cons_of_mem w hw')
      obtain ⟨c, rest, hhead, -, hc, -⟩ := hspread.exists_head hmore after
      rw [List.append_assoc, List.append_assoc] at hds
      obtain ⟨behind, rfl, hbehind⟩ :=
        hds.exists_word fun c hc => (hws w List.mem_cons_self).isBlank_of_mem hc
      obtain ⟨gap', rest', rfl, hgap', hrest, hnil, -⟩ := hbehind.exists_append
        ⟨c, by rw [hhead]; rfl, isBlank_of_isNameChar (isNameChar_of_isWordChar hc)⟩
      obtain ⟨phrase', after', rfl, hspread', hafter⟩ := ih hmore hrest
      refine ⟨w ++ (gap' ++ phrase'), after', by simp,
        .cons ⟨mt hnil hgap.1, fun d hd => ?_⟩ hspread', hafter⟩
      by_contra hblank
      rw [Bool.not_eq_true] at hblank
      rw [hgap.2 d (hgap'.mem hblank hd)] at hblank
      cases hblank

/-- What a text shows, it shows without the blanks at its start. -/
theorem Shows.dropWhile {ws : List (List Char)} {cs : List Char} (h : Shows ws cs)
    (hws : ∀ w ∈ ws, IsPlainWord w) : Shows ws (cs.dropWhile isBlank) := by
  obtain ⟨before, phrase, after, rfl, hspread, hbefore, hafter⟩ := h
  obtain ⟨c, rest, hhead, -, hc, -⟩ := hspread.exists_head hws after
  have hphrase : (phrase ++ after).dropWhile isBlank = phrase ++ after := by
    have hblank := isBlank_of_isNameChar (isNameChar_of_isWordChar hc)
    rw [hhead, List.dropWhile_cons_of_neg (by simpa using hblank)]
  refine ⟨before.dropWhile isBlank, phrase, after, ?_, hspread, fun d hd => ?_, hafter⟩
  · rw [List.dropWhile_append, hphrase]
    split
    · rename_i hnil
      rw [List.isEmpty_iff.mp hnil, List.nil_append]
    · rfl
  · obtain ⟨front, hfront⟩ := List.dropWhile_suffix isBlank (l := before)
    exact hbefore d (by rw [← hfront, List.getLast?_append, Option.mem_def.mp hd]; rfl)

/-- **What a text shows, it shows respaced.** -/
theorem Shows.respaced {ws : List (List Char)} {cs ds : List Char} (h : Shows ws cs)
    (hws : ∀ w ∈ ws, IsPlainWord w) (hds : Respaced cs ds) (hascii : ∀ c ∈ ds, c.toNat < 0x80) :
    Shows ws ds := by
  obtain ⟨before, phrase, after, rfl, hspread, hbefore, hafter⟩ := h
  obtain ⟨c, rest, hhead, -, hc, -⟩ := hspread.exists_head hws after
  obtain ⟨before', rest', rfl, -, hrest, -, hlast⟩ := hds.exists_append
    ⟨c, by rw [hhead]; rfl, isBlank_of_isNameChar (isNameChar_of_isWordChar hc)⟩
  obtain ⟨phrase', after', rfl, hspread', hafter'⟩ := hspread.respaced hws hrest
  refine ⟨before', phrase', after', rfl, hspread', fun d hd => ?_, fun d hd => ?_⟩
  · rcases hlast d hd with hblank | hlast
    · exact endsPlainWord_of_isBlank (hascii d (by simp [List.mem_of_getLast? hd])) hblank
    · exact hbefore d hlast
  · by_cases hblank : isBlank d = true
    · exact endsPlainWord_of_isBlank (hascii d (by simp [List.mem_of_mem_head? hd])) hblank
    · exact hafter d (hafter'.symm.head?_eq (by simpa using hblank) hd)

/-- What several texts are made of, with a separator between them. -/
theorem mem_intercalate {sep : List Char} {xs : List (List Char)} {c : Char}
    (h : c ∈ sep.intercalate xs) : c ∈ sep ∨ ∃ x ∈ xs, c ∈ x := by
  induction xs with
  | nil => simp at h
  | cons x xs ih =>
      cases xs with
      | nil => exact .inr ⟨x, List.mem_cons_self, by simpa using h⟩
      | cons y xs =>
          rw [List.intercalate_cons_cons, List.append_assoc, List.mem_append, List.mem_append] at h
          rcases h with h | h | h
          · exact .inr ⟨x, List.mem_cons_self, h⟩
          · exact .inl h
          · exact (ih h).imp_right fun ⟨z, hz, hc⟩ => ⟨z, List.mem_cons_of_mem x hz, hc⟩

/-- **The words of a text** with one blank between them show what the text shows. -/
theorem Shows.words {ws : List (List Char)} {cs : List Char} (h : Shows ws cs)
    (hws : ∀ w ∈ ws, IsPlainWord w) (hascii : ∀ c ∈ cs, c.toNat < 0x80) :
    Shows ws ([' '].intercalate (Text.words cs)) := by
  refine (h.dropWhile hws).respaced hws (respaced_words cs) fun c hc => ?_
  rcases mem_intercalate hc with hspace | ⟨word, hword, hmem⟩
  · rw [List.mem_singleton.mp hspace]
    decide
  · have hkept := (respaced_words cs).mem ((of_mem_words hword).2 c hmem) hc
    exact hascii c ((List.dropWhile_suffix isBlank).subset hkept)

end Text

open Sql Text Statement

/-! ### Pieces -/

/-- A part without separators stands in one piece, with what is around it in the list. -/
theorem exists_mem_splitOnP {α : Type} {p : α → Bool} (front mid : List α)
    (hmid : ∀ x ∈ mid, p x = false) (behind : List α) :
    ∃ front' behind', front' ++ (mid ++ behind') ∈ (front ++ (mid ++ behind)).splitOnP p ∧
      front' <:+ front ∧ behind' <+: behind := by
  obtain ⟨head, tail, hsplit⟩ := List.exists_cons_of_ne_nil (List.splitOnP_ne_nil p behind)
  have hfirst : ∀ {mid : List α}, (∀ x ∈ mid, p x = false) →
      (mid ++ behind).splitOnP p = (mid ++ head) :: tail := by
    intro mid hmid
    rw [splitOnP_append_of_forall hmid, hsplit]
    rfl
  have hbegins : head <+: behind := by
    obtain ⟨front, back, rfl, hnil, -⟩ :=
      exists_of_splitOnP (show behind.splitOnP p = [] ++ head :: tail from hsplit)
    rw [hnil rfl]
    exact List.prefix_append _ _
  induction front using List.reverseRecOn generalizing mid with
  | nil => exact ⟨[], head, by simp [hfirst hmid], List.nil_suffix, hbegins⟩
  | append_singleton front x ih =>
      by_cases hx : p x = true
      · refine ⟨[], head, ?_, List.nil_suffix, hbegins⟩
        rw [List.append_assoc, List.singleton_append, List.splitOnP_append_cons _ _ hx, hfirst hmid]
        simp
      · obtain ⟨front', behind', hmem, hsuffix, hbehind⟩ :=
          ih (x :: mid) (List.forall_mem_cons.mpr ⟨by simpa using hx, hmid⟩)
        refine ⟨front' ++ [x], behind', by simpa using hmem, ?_, hbehind⟩
        obtain ⟨more, rfl⟩ := hsuffix
        exact ⟨more, by simp⟩

/-- The last of a part is the last of the list. -/
theorem getLast?_of_suffix {α : Type} {P : α → Prop} {l l' : List α} (h : l' <:+ l)
    (hl : ∀ x ∈ l.getLast?, P x) : ∀ x ∈ l'.getLast?, P x := by
  obtain ⟨more, rfl⟩ := h
  exact fun x hx => hl x (by rw [List.getLast?_append, Option.mem_def.mp hx]; rfl)

/-- The first of a part is the first of the list. -/
theorem head?_of_prefix {α : Type} {P : α → Prop} {l l' : List α} (h : l' <+: l)
    (hl : ∀ x ∈ l.head?, P x) : ∀ x ∈ l'.head?, P x := by
  obtain ⟨more, rfl⟩ := h
  exact fun x hx => hl x (by rw [List.head?_append, Option.mem_def.mp hx]; rfl)

/-- **A text that is cut into tokens**: one of its statements shows the words. -/
theorem Sql.Scans.exists_shown {w w' before phrase after : List Char} {ws : List (List Char)}
    {tokens : List Token} (h : Scans (before ++ (phrase ++ after)) tokens [])
    (hcs : IsTame (before ++ (phrase ++ after))) (hout : Outside before (phrase ++ after))
    (hws : ∀ v ∈ w :: w' :: ws, IsPlainWord v) (hspread : Spread IsBlanks (w :: w' :: ws) phrase)
    (hbefore : ∀ c ∈ before.getLast?, endsPlainWord c = true)
    (hafter : ∀ c ∈ after.head?, endsPlainWord c = true)
    (hfree : before.getLast? ≠ some '.' ∨ ¬ HidesHex w) :
    ∃ piece ∈ splitStatements tokens,
      Shows ((w :: w' :: ws).map upper) (upper (render piece)) := by
  obtain ⟨front, told, behind, a, y, rfl, htells, hfront, hbehind⟩ :=
    h.exists_told hcs hout hws hspread hbefore hafter hfree
  obtain ⟨front', behind', hmem, hsuffix, hbegins⟩ := exists_mem_splitOnP (p := (· == .semicolon))
    front told (fun t ht => by simpa using htells.not_semicolon t ht) behind
  refine ⟨_, ?_, htells.shows (fun hnil => getLast?_of_suffix hsuffix (hfront hnil))
    fun hnil => head?_of_prefix hbegins (hbehind hnil)⟩
  obtain ⟨t, hfirst, hne⟩ := htells.first
  rw [splitStatements, cutAtSemicolons_eq_splitOnP]
  refine List.mem_filter.mpr ⟨hmem, List.any_eq_true.mpr ⟨t, ?_, by simpa using hne⟩⟩
  simp [List.mem_of_mem_head? hfirst]

/-- **A text that is described by its words**: one of its pieces shows the words. -/
theorem Statement.exists_shown_fallback {before phrase after : List Char} {ws : List (List Char)}
    (hascii : ∀ c ∈ before ++ (phrase ++ after), c.toNat < 0x80)
    (hws : ∀ v ∈ ws, IsPlainWord v) (hspread : Spread IsBlanks ws phrase)
    (hbefore : ∀ c ∈ before.getLast?, endsPlainWord c = true)
    (hafter : ∀ c ∈ after.head?, endsPlainWord c = true) :
    ∃ s ∈ fallbackPieces (before ++ (phrase ++ after)), Shows ws s.normalized.toList := by
  have hsemi : ∀ c ∈ phrase, (c == ';') = false := by
    intro c hc
    rw [beq_eq_false_iff_ne]
    rintro rfl
    rcases hspread.mem hc with ⟨w, hw, hmem⟩ | ⟨gap, hgap, hmem⟩
    · exact absurd ((hws w hw).of_mem hmem).2 (by decide)
    · exact absurd (hgap.2 ';' hmem) (by decide)
  obtain ⟨front, back, hmem, hsuffix, hbegins⟩ := exists_mem_splitOnP before phrase hsemi after
  have hshows : Shows ws (front ++ (phrase ++ back)) := ⟨front, phrase, back, rfl, hspread,
    getLast?_of_suffix hsuffix hbefore, head?_of_prefix hbegins hafter⟩
  have hascii' : ∀ c ∈ front ++ (phrase ++ back), c.toNat < 0x80 := by
    intro c hc
    refine hascii c ?_
    simp only [List.mem_append] at hc ⊢
    exact hc.imp (hsuffix.subset ·) (.imp_right (hbegins.subset ·))
  obtain ⟨c, rest, hhead, -, hc, -⟩ := hspread.exists_head hws back
  have hne : (trim (front ++ (phrase ++ back))).isEmpty = false := by
    rw [Bool.eq_false_iff, ne_eq, List.isEmpty_iff, trim_eq_nil_iff]
    intro hall
    have hblank := hall c (by simp [hhead])
    rw [isBlank_of_isNameChar (isNameChar_of_isWordChar hc)] at hblank
    cases hblank
  refine ⟨fallbackPiece (trim (front ++ (phrase ++ back))), ?_, ?_⟩
  · rw [fallbackPieces, cutAt_eq_splitOnP]
    exact List.mem_map_of_mem (List.mem_filter.mpr ⟨List.mem_map_of_mem hmem, by rw [hne]; rfl⟩)
  · have hnormalized : (fallbackPiece (trim (front ++ (phrase ++ back)))).normalized.toList =
        [' '].intercalate (words (front ++ (phrase ++ back))) := by
      rw [fallbackPiece, single, String.toList_intercalate, words_trim, List.map_map]
      simp [Function.comp_def]
    rw [hnormalized]
    exact hshows.words hws hascii'

/-! ### Several statements -/

/-- One of several texts stands among them, behind a separator and in front of one. -/
theorem exists_intercalate (sep : List Char) {x : List Char} {xs : List (List Char)} (h : x ∈ xs) :
    ∃ front back, sep.intercalate xs = front ++ (x ++ back) ∧ (front = [] ∨ sep <:+ front) ∧
      (back = [] ∨ sep <+: back) := by
  induction xs with
  | nil => cases h
  | cons y xs ih =>
      cases xs with
      | nil =>
          obtain rfl := List.mem_singleton.mp h
          exact ⟨[], [], by simp, .inl rfl, .inl rfl⟩
      | cons z xs =>
          rw [List.intercalate_cons_cons]
          rcases List.mem_cons.mp h with rfl | h
          · exact ⟨[], sep ++ sep.intercalate (z :: xs), by simp, .inl rfl,
              .inr (List.prefix_append _ _)⟩
          · obtain ⟨front, back, heq, hfront, hback⟩ := ih h
            refine ⟨y ++ sep ++ front, back, by rw [heq]; simp, .inr ?_, hback⟩
            rcases hfront with rfl | hfront
            · rw [List.append_nil]
              exact List.suffix_append y sep
            · exact hfront.trans (List.suffix_append _ front)

/-- **The normal form of several statements** shows what that of one of them shows. -/
theorem Statement.shows_combine {ws : List (List Char)} {l : List Statement} {s : Statement}
    (hs : s ∈ l) (h : Shows ws (upper s.normalized.toList)) (text : String) (fallback : Bool) :
    Shows ws (upper (combine l text fallback).normalized.toList) := by
  cases l with
  | nil => cases hs
  | cons first more =>
      cases more with
      | nil =>
          obtain rfl := List.mem_singleton.mp hs
          exact h
      | cons next more =>
          have hmem : s.normalized.toList ∈
              ((first :: next :: more).map (·.normalized)).map String.toList :=
            List.mem_map_of_mem (List.mem_map_of_mem hs)
          obtain ⟨front, back, heq, hfront, hback⟩ := exists_intercalate [';', ' '] hmem
          have hjoined : (combine (first :: next :: more) text fallback).normalized.toList =
              front ++ (s.normalized.toList ++ back) := by
            rw [← heq, combine, aggregate, String.toList_intercalate]
            · rfl
            · simp
          rw [hjoined, upper_append, upper_append]
          refine h.embed (endsPlainWord_getLast?_upper fun c hc => ?_)
            (endsPlainWord_head?_upper fun c hc => ?_)
          · rcases hfront with rfl | ⟨earlier, rfl⟩
            · cases hc
            · rw [List.getLast?_append_of_ne_nil _ (List.cons_ne_nil _ _)] at hc
              exact Option.some.inj hc ▸ by decide
          · rcases hback with rfl | ⟨later, rfl⟩
            · cases hc
            · exact Option.some.inj hc ▸ by decide

/-- A statement keeps the normal form that it is described with. -/
theorem Statement.normalized_analyzeBody (normalized : String) (tokens : List Token) :
    (analyzeBody normalized tokens).normalized = normalized := by
  fun_induction analyzeBody normalized tokens with
  | case1 tokens body rest h hlt inner hinner ih => exact ih
  | case2 => rfl
  | case3 => rfl

/-- **The normal form of a text shows the words that are spread in it**, outside quotes and between
the ends of words, in upper case; unless a number in hexadecimal may hide in the first word. -/
theorem Statement.shows_normalized {w w' front phrase rest : List Char} {ws : List (List Char)}
    (hcs : IsTame (front ++ (phrase ++ rest))) (hunquoted : endsUnquoted front = true)
    (hws : ∀ v ∈ w :: w' :: ws, IsPlainWord v) (hspread : Spread IsGap (w :: w' :: ws) phrase)
    (hfront : ∀ c ∈ front.getLast?, endsPlainWord c = true)
    (hrest : ∀ c ∈ rest.head?, endsPlainWord c = true)
    (hfree : front.getLast? ≠ some '.' ∨ ¬ HidesHex w) :
    Shows ((w :: w' :: ws).map upper)
      (upper (parse (String.ofList (front ++ (phrase ++ rest)))).normalized.toList) := by
  obtain ⟨before, phrase', after, hstripped, hspread', hout, hbefore, hafter⟩ :=
    exists_stripComments_spread hunquoted hws hspread rest
  have hbefore' : ∀ c ∈ before.getLast?, endsPlainWord c = true := by
    intro c hc
    rcases hbefore c hc with rfl | hlast
    · decide
    · exact hfront c hlast
  have hafter' : ∀ c ∈ after.head?, endsPlainWord c = true := by
    intro c hc
    rcases hafter c hc with rfl | rfl | hhead
    · decide
    · decide
    · exact hrest c hhead
  have hfree' : before.getLast? ≠ some '.' ∨ ¬ HidesHex w := by
    refine hfree.imp_left fun hne hlast => ?_
    rcases hbefore '.' hlast with hspace | hlast
    · cases hspace
    · exact hne hlast
  have htame : IsTame (before ++ (phrase' ++ after)) := by
    rw [← hstripped]
    exact isTame_stripComments (fun c hc => (hcs c hc).1) fun hat => (hcs '@' hat).2 rfl
  have hascii : ∀ c ∈ (String.ofList (front ++ (phrase ++ rest))).toList, c.toNat < 0x80 := by
    rw [String.toList_ofList]
    exact fun c hc => (hcs c hc).1
  rcases htokens : tokenize (stripComments (String.ofList (front ++ (phrase ++ rest))).toList) with
    e | tokens
  · rw [parse_of_error htokens, String.toList_ofList, hstripped]
    obtain ⟨s, hs, hshows⟩ := exists_shown_fallback (fun c hc => (htame c hc).1) hws hspread'
      hbefore' hafter'
    exact shows_combine hs hshows.upper _ _
  · rw [parse_of_tokenize hascii htokens]
    rw [String.toList_ofList, hstripped, tokenize_eq_ok_iff] at htokens
    obtain ⟨piece, hpiece, hshows⟩ := htokens.exists_shown htame hout hws hspread' hbefore' hafter'
      hfree'
    refine shows_combine (List.mem_map_of_mem hpiece) ?_ _ _
    rwa [analyze, normalized_analyzeBody, String.toList_ofList]

end SqlGateway
