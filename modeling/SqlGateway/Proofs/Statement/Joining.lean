import SqlGateway.Proofs.Statement.Bareness
import SqlGateway.Proofs.Statement.Concatenation

/-!
# The Normal Form of Several Statements

The normal form of a text is that of its statements, with a semicolon and a blank between them.
Since a semicolon ends every token, each statement is read again by itself: from the normal form
the same number of statements are read, in the same order, and each is a rereading of the one that
it was written from.

## Main results

* `Scans.isPiece_of_mem_splitStatements`: every statement of a text is a piece of a bare text.
* `exists_rereadings`: what is read from the normal form of pieces.
* `exists_rereadings_of_tokenize`: what is read from the normal form of a text.
-/

namespace SqlGateway

open Sql Text Statement

/-! ### Blanks at the front of a statement -/

theorem render_blank (tokens : List Token) : render (.blank :: tokens) = render tokens := by
  have hfrom : ∀ tokens : List Token, renderFrom true false tokens = renderFrom false false tokens := by
    intro tokens
    cases tokens with
    | nil => rfl
    | cons t tokens => cases t <;> rfl
  exact hfrom tokens

/-- Nothing is written of blanks at the front. -/
theorem render_dropWhile (tokens : List Token) :
    render tokens = renderFrom false true (tokens.dropWhile (· == .blank)) := by
  induction tokens with
  | nil => rfl
  | cons t tokens ih =>
      by_cases h : t = .blank
      · subst h
        exact (render_blank tokens).trans ih
      · rw [List.dropWhile_cons_of_neg (by simpa using h), render, renderFrom_cons h,
          renderFrom_cons h]
        simp

theorem substance_dropGlued_dropWhile (tokens : List Token) :
    substance (dropGlued (tokens.dropWhile (· == .blank))) = substance (dropGlued tokens) := by
  induction tokens with
  | nil => rfl
  | cons t tokens ih =>
      by_cases h : t = .blank
      · subst h
        exact ih
      · rw [List.dropWhile_cons_of_neg (by simpa using h)]

/-! ### Pieces -/

/-- Tokens that are read from a bare text, as one statement of it. -/
def IsPiece (tokens : List Token) : Prop :=
  ∃ cs v, ScansPiece cs tokens v ∧ IsBare cs

/-- What is left of a piece behind its blanks is a piece. -/
theorem IsPiece.dropWhile {tokens : List Token} (h : IsPiece tokens) :
    IsPiece (tokens.dropWhile (· == .blank)) := by
  induction tokens with
  | nil => exact h
  | cons t tokens ih =>
      by_cases ht : t = .blank
      · subst ht
        obtain ⟨cs, v, hpiece, hbare⟩ := h
        have hscans := hpiece.scans
        cases hscans with
        | @cons c rest mid _ _ _ hread hrest =>
            exact ih ⟨mid, v, hpiece.suffix (hread.suffix.trans (List.suffix_cons _ _))
              (List.suffix_cons _ _) hrest,
              hread.isBare_rest (hpiece.isTame c List.mem_cons_self).2 hbare⟩
      · rwa [List.dropWhile_cons_of_neg (by simpa using ht)]

/-- A statement that is read from the normal form of another: it is written alike and described
alike, but for the limits that are lost. -/
structure IsRereading (piece piece' : List Token) : Prop where
  render_eq : render piece' = render piece
  likens : Likens idleWord false (substance (dropGlued piece)) (substance piece')

theorem IsRereading.blank {piece piece' : List Token} (h : IsRereading piece piece') :
    IsRereading piece (.blank :: piece') :=
  ⟨(render_blank piece').trans h.render_eq, h.likens⟩

/-- **A piece is read again from its normal form**, in front of a semicolon or the end. -/
theorem IsPiece.exists_isRereading {piece : List Token} (h : IsPiece piece)
    (hcontent : piece.any (· != .blank) = true) {u : List Char} (hu : Stops u) (hbare : IsBare u) :
    ∃ piece', Scans (render piece ++ u) piece' u ∧ IsBare (render piece ++ u) ∧
      splitStatements piece' = [piece'] ∧ IsRereading piece piece' := by
  obtain ⟨cs, v, hpiece, hcs⟩ := h.dropWhile
  rw [render_dropWhile]
  have hrender := hpiece.scans.isBare_render hpiece.isTame hpiece.areTame hu hcs hbare false true
  have hlikens := substance_dropGlued_dropWhile piece
  have hwritten := render_dropWhile piece
  have hcons : piece.dropWhile (· == .blank) ≠ [] := by
    obtain ⟨t, ht, hne⟩ := List.any_eq_true.mp hcontent
    rw [Ne, List.dropWhile_eq_nil_iff]
    intro hall
    simp [bne, hall t ht] at hne
  have hfirst := List.head_dropWhile_not (· == Token.blank) hcons
  generalize piece.dropWhile (· == .blank) = tokens at *
  obtain ⟨t, tokens, rfl⟩ := List.exists_cons_of_ne_nil hcons
  have ht : t ≠ .blank := by simpa using hfirst
  have hscans := hpiece.scans
  cases hscans with
  | cons hread hrest =>
      have hbehind := hpiece.suffix (hread.suffix.trans (List.suffix_cons _ _))
        (List.suffix_cons _ _) hrest
      obtain ⟨t', more, ht', hagain⟩ := hpiece.exists_rereadsAs_head hu
        (fun _ hmore => hmore.exists_rereadsAs hu false) hread hbehind ht
      refine ⟨t' :: more, hagain.scans, hrender, ?_, ?_, ?_⟩
      · rw [splitStatements, cutAtSemicolons_eq_splitOnP, List.splitOnP_eq_singleton
          (by simpa using hagain.semicolon)]
        simp [ht']
      · rw [hwritten, ← hagain.render_eq, render, renderFrom_cons ht', renderFrom_cons ht']
        simp
      · rw [← hlikens]
        exact hagain.likens

/-! ### Several statements -/

/-- A blank in front belongs to the first statement. -/
theorem forall₂_splitStatements_blank {pieces : List (List Token)} {tokens : List Token}
    (h : List.Forall₂ IsRereading pieces (splitStatements tokens)) :
    List.Forall₂ IsRereading pieces (splitStatements (.blank :: tokens)) := by
  have hcut : cutAtSemicolons (.blank :: tokens) =
      (cutAtSemicolons tokens).modifyHead (.blank :: ·) := by
    rw [cutAtSemicolons_eq_splitOnP, cutAtSemicolons_eq_splitOnP,
      List.splitOnP_cons_eq_if_modifyHead]
    rfl
  rw [splitStatements] at h
  rw [splitStatements, hcut]
  generalize cutAtSemicolons tokens = cut at h
  cases cut with
  | nil => exact h
  | cons first more =>
      by_cases hcontent : first.any (· != .blank) = true
      · have hblank : (Token.blank :: first).any (· != .blank) = true := by simpa using hcontent
        simp only [List.modifyHead_cons, List.filter_cons, hcontent, hblank, if_true] at h ⊢
        cases h with
        | cons hfirst hmore => exact .cons hfirst.blank hmore
      · have hblank : ¬ (Token.blank :: first).any (· != .blank) = true := by simpa using hcontent
        rw [Bool.not_eq_true] at hcontent hblank
        simpa only [List.modifyHead_cons, List.filter_cons, hcontent, hblank, Bool.false_eq_true,
          if_false] using h

/-- The normal form of several statements. -/
def joined (pieces : List (List Token)) : List Char :=
  [';', ' '].intercalate (pieces.map render)

/-- **What is read from the normal form of pieces** is a rereading of each. -/
theorem exists_rereadings {pieces : List (List Token)}
    (h : ∀ piece ∈ pieces, IsPiece piece ∧ piece.any (· != .blank) = true) :
    ∃ tokens, Scans (joined pieces) tokens [] ∧ IsBare (joined pieces) ∧
      List.Forall₂ IsRereading pieces (splitStatements tokens) := by
  induction pieces with
  | nil => exact ⟨[], .done [], isBare_nil, .nil⟩
  | cons piece pieces ih =>
      obtain ⟨hpiece, hcontent⟩ := h piece List.mem_cons_self
      obtain ⟨tokens, hscans, hbare, hforall⟩ := ih fun p hp => h p (List.mem_cons_of_mem _ hp)
      cases pieces with
      | nil =>
          obtain ⟨piece', hscans', hbare', hsplit, hagain⟩ :=
            hpiece.exists_isRereading hcontent (u := []) (by simp [Stops]) isBare_nil
          rw [List.append_nil] at hscans' hbare'
          refine ⟨piece', ?_, ?_, ?_⟩
          · simpa [joined] using hscans'
          · simpa [joined] using hbare'
          · rw [hsplit]
            exact .cons hagain .nil
      | cons next pieces =>
          generalize hrest : joined (next :: pieces) = rest at hscans hbare
          have hjoined : joined (piece :: next :: pieces) = render piece ++ ';' :: ' ' :: rest := by
            rw [← hrest]
            simp [joined, List.intercalate]
          have hu : IsBare (';' :: ' ' :: rest) :=
            (isBare_cons_iff (by decide) (by decide) _).mpr
              ((isBare_cons_iff (by decide) (by decide) _).mpr hbare)
          obtain ⟨piece', hscans', hbare', hsplit, hagain⟩ :=
            hpiece.exists_isRereading hcontent (by simp [Stops]) hu
          have hsemi : Reads ';' (' ' :: rest) .semicolon (' ' :: rest) :=
            .plain (by decide) (by simp [letterForm?])
          have hblank : Reads ' ' rest .blank rest := .plain (by decide) (by simp [letterForm?])
          refine ⟨piece' ++ .semicolon :: .blank :: tokens, ?_, ?_, ?_⟩
          · rw [hjoined]
            exact hscans'.trans (.cons hsemi (.cons hblank hscans))
          · rwa [hjoined]
          · rw [splitStatements_concat, hsplit]
            exact .cons hagain (forall₂_splitStatements_blank hforall)

/-! ### The statements of a text -/

/-- Only a semicolon is read as one. -/
theorem Sql.Reads.eq_semicolon {c : Char} {rest mid : List Char}
    (h : Reads c rest .semicolon mid) (hat : c ≠ '@') : c = ';' := by
  obtain ⟨chunk, hchunk, htakes⟩ := h.exists_chunk hat
  have hfirst : chunk = [.plain ';'] := by
    generalize htoken : Token.semicolon = t at htakes
    cases htakes with
    | semicolon => rfl
    | blank => cases htoken
    | substance hlayout =>
        subst htoken
        cases hlayout
    | quoted hlayout =>
        subst htoken
        cases hlayout
  rw [hfirst] at hchunk
  by_cases hquote : isQuote c = true
  · rw [segments_of_quote hquote] at hchunk
    cases hchunk
  · rw [segments_of_plain (Bool.not_eq_true _ ▸ hquote)] at hchunk
    simpa using (List.cons.inj hchunk).1

/-- Every part of a text between semicolons is a piece, and the first stands at its front. -/
theorem Sql.Scans.isPiece_of_cut {cs v : List Char} {tokens : List Token} (h : Scans cs tokens v)
    (hcs : IsTame cs) (htokens : AreTame tokens) (hv : Stops v) (hbare : IsBare cs) :
    ∃ first more, cutAtSemicolons tokens = first :: more ∧ (∃ mid, ScansPiece cs first mid) ∧
      ∀ piece ∈ more, IsPiece piece := by
  induction h with
  | done cs => exact ⟨[], [], rfl, ⟨cs, .done cs, hcs, htokens, by simp, hv⟩, by simp⟩
  | @cons c rest mid _ t tokens hread hscans ih =>
      have hmid := hread.isBare_rest (hcs c List.mem_cons_self).2 hbare
      obtain ⟨first, more, hcut, ⟨last, hfirst⟩, hmore⟩ :=
        ih (hcs.tail hread) (fun t' ht' => htokens t' (List.mem_cons_of_mem t ht')) hv hmid
      by_cases ht : t = .semicolon
      · subst ht
        refine ⟨[], first :: more, ?_, ⟨c :: rest, .done _, hcs, by simp [AreTame], by simp, ?_⟩, ?_⟩
        · rw [cutAtSemicolons, hcut]
        · intro d hd
          cases hd
          exact .inr (hread.eq_semicolon (hcs c List.mem_cons_self).2)
        · exact List.forall_mem_cons.mpr ⟨⟨mid, last, hfirst, hmid⟩, hmore⟩
      · refine ⟨t :: first, more, ?_, ⟨last, .cons hread hfirst.scans, hcs, ?_, ?_,
          hfirst.stops⟩, hmore⟩
        · rw [cutAtSemicolons_eq_splitOnP] at hcut
          rw [cutAtSemicolons_eq_splitOnP, List.splitOnP_cons_eq_if_modifyHead, hcut]
          simp [ht]
        · exact List.forall_mem_cons.mpr ⟨htokens t List.mem_cons_self, hfirst.areTame⟩
        · exact List.forall_mem_cons.mpr ⟨ht, hfirst.semicolon⟩

/-- **Every statement of a text is a piece** with something in it. -/
theorem Sql.Scans.isPiece_of_mem_splitStatements {cs : List Char} {tokens : List Token}
    (h : Scans cs tokens []) (hcs : IsTame cs) (htokens : AreTame tokens) (hbare : IsBare cs) :
    ∀ piece ∈ splitStatements tokens, IsPiece piece ∧ piece.any (· != .blank) = true := by
  obtain ⟨first, more, hcut, ⟨mid, hfirst⟩, hmore⟩ :=
    h.isPiece_of_cut hcs htokens (by simp [Stops]) hbare
  intro piece hmem
  rw [splitStatements, hcut] at hmem
  obtain ⟨hmem, hcontent⟩ := List.mem_filter.mp hmem
  refine ⟨?_, hcontent⟩
  rcases List.mem_cons.mp hmem with rfl | hmem
  · exact ⟨cs, mid, hfirst, hbare⟩
  · exact hmore piece hmem

/-- The characters that are left of a text in ASCII without variables. -/
theorem isTame_stripComments {cs : List Char} (hascii : ∀ c ∈ cs, c.toNat < 0x80)
    (hat : '@' ∉ cs) : IsTame (stripComments cs) := by
  intro c hc
  rcases mem_stripComments hc with hmem | rfl
  · exact ⟨hascii c hmem, fun heq => hat (heq ▸ hmem)⟩
  · decide

/-- The normal form of a text that the tokenizer accepts. -/
theorem toList_format {sql : String} {tokens : List Token}
    (h : tokenize (stripComments sql.toList) = .ok tokens) :
    (format sql).toList = joined (splitStatements tokens) := by
  unfold format
  dsimp only
  rw [h]
  simp [joined, Function.comp_def]

/-- **What is read from the normal form of a text** is a rereading of each of its statements. -/
theorem exists_rereadings_of_tokenize {sql : String} {tokens : List Token}
    (hascii : ∀ c ∈ sql.toList, c.toNat < 0x80) (hat : '@' ∉ sql.toList)
    (h : tokenize (stripComments sql.toList) = .ok tokens) (htokens : AreTame tokens) :
    ∃ tokens', tokenize (stripComments (format sql).toList) = .ok tokens' ∧
      List.Forall₂ IsRereading (splitStatements tokens) (splitStatements tokens') := by
  obtain ⟨tokens', hscans, hbare, hforall⟩ := exists_rereadings
    ((tokenize_eq_ok_iff.mp h).isPiece_of_mem_splitStatements (isTame_stripComments hascii hat)
      htokens (isBare_stripComments _))
  refine ⟨tokens', ?_, hforall⟩
  rw [toList_format h, stripComments_of_isBare hbare]
  exact tokenize_eq_ok_iff.mpr hscans

end SqlGateway
