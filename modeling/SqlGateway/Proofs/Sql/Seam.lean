import SqlGateway.Proofs.Sql.Literal

/-!
# Literals and Comments at a Seam

A text goes on with a literal or a comment. If no quoted section and no comment is open at its
end, what is written there is cut off as one piece, whatever its body, and the pieces behind
it do not depend on that body.

Two seams look like exceptions. A literal behind a closed section in the same quotes continues
that section, since its opening quote makes a doubled one; the section then runs to the end of
the literal. Two minus signs at the end of a text open a comment there, but not in front of a
quote or of a comment.

## Main results

* `alike_literal`: texts that differ in the body of one literal are alike.
* `stripComments_comment`: a comment is removed whatever its body.
* `Alike.segments_eq`: texts alike have the same segments up to the bodies of literals.
-/

namespace SqlGateway.Sql

open Text

/-! ### Bodies -/

/-- Whether a text can be the body of a string literal: every backslash is followed by a
character, which it takes with it, and any other quote of the literal's kind is doubled. -/
def isLiteralBody (quote : Char) : List Char → Bool
  | [] => true
  | [c] => c != '\\' && c != quote
  | c :: d :: rest =>
    if c == '\\' then isLiteralBody quote rest
    else if c == quote then d == quote && isLiteralBody quote rest
    else isLiteralBody quote (d :: rest)

/-- Such a text is read to its end. -/
theorem isBody_of_isLiteralBody {quote : Char} (hquote : isQuote quote = true)
    (hne : quote ≠ '`') {body : List Char} (h : isLiteralBody quote body = true) :
    IsBody quote body := by
  have hback := ne_backslash_of_isQuote hquote
  have hnil : IsBody quote [] := fun rest => readQuoted_quote hback
  fun_induction isLiteralBody quote body with
  | case1 => exact hnil
  | case2 c =>
      rw [Bool.and_eq_true, bne_iff_ne, bne_iff_ne] at h
      exact hnil.cons h.2 fun hc => absurd hc h.1
  | case3 c d rest hc ih =>
      obtain rfl : c = '\\' := by simpa using hc
      exact (ih h).escape hne d
  | case4 c d rest _ hc ih =>
      rw [Bool.and_eq_true, beq_iff_eq] at h
      obtain rfl : c = quote := by simpa using hc
      obtain ⟨rfl, hrest⟩ := h
      exact (ih hrest).double hback
  | case5 c d rest hesc hc ih =>
      exact (ih h).cons (by simpa using hc) fun hb => absurd hb (by simpa using hesc)

/-- A text that can be the body of a block comment: it does not end the comment and does not
make it a versioned one. -/
structure IsCommentBody (body : List Char) : Prop where
  not_closed : ¬ ['*', '/'] <:+: body
  not_versioned : body.head? ≠ some '!'

/-- A comment is read to the end of its body. -/
theorem readBlock_of_not_closed_body {body : List Char} (h : ¬ ['*', '/'] <:+: body)
    (rest : List Char) : readBlock (body ++ '*' :: '/' :: rest) = (body, true, rest) := by
  induction body with
  | nil => rfl
  | cons c body ih =>
      have hopen : ¬(c = '*' ∧ ∃ after, body ++ '*' :: '/' :: rest = '/' :: after) := by
        rintro ⟨rfl, after, hafter⟩
        cases body with
        | nil => cases hafter
        | cons d body =>
            obtain rfl : d = '/' := (List.cons.inj hafter).1
            exact h ⟨[], body, rfl⟩
      have hbody : ¬ ['*', '/'] <:+: body := fun hinfix => h (List.infix_cons hinfix)
      rw [List.cons_append, readBlock_cons hopen, ih hbody]

/-! ### The seam -/

/-- Whether no quoted section and no comment is open at the end of a text. A versioned comment
may be open, and two minus signs are no comment yet. -/
def endsUnquoted (cs : List Char) : Bool :=
  (pieces false cs).getLast?.all fun p => !p.isOpen || p == .lineComment ['-', '-']

/-- Two minus signs that open no comment are two pieces. -/
theorem pieces_dashes {versioned : Bool} {u : List Char} (hdash : opensDashComment u = false)
    (hu : u.head? ≠ some '-') :
    pieces versioned ('-' :: '-' :: u) = .minus :: .plain '-' :: pieces versioned u := by
  have hfirst : Cuts versioned '-' ('-' :: u) ⟨.minus, versioned, '-' :: u⟩ :=
    .minus rfl rfl hdash
  have hsecond : Cuts versioned '-' u ⟨.plain '-', versioned, u⟩ :=
    .plain (by decide) (by decide) (by simp) (by simp) fun _ => hu
  rw [pieces, nextPiece_eq_iff.mpr hfirst]
  dsimp only
  rw [pieces, nextPiece_eq_iff.mpr hsecond]

/-- **A seam.** If the last piece of a text ends in front of a character, the text is cut off
from whatever starts with that character, and nothing is open behind it. -/
theorem exists_pieces_append {cs : List Char} (hcs : endsUnquoted cs = true) {d : Char}
    (hminus : d ≠ '-') (hdash : opensDashComment [d] = false)
    (hlast : ∀ before last, pieces false cs = before ++ [last] → last.isOpen = false →
      last.endsBefore ((pieces false cs).foldl Piece.versionedAfter false) d = true) :
    ∃ before versioned, (∀ p ∈ before.getLast?, p.isOpen = false) ∧ ∀ u, u.head? = some d →
      pieces false (cs ++ u) = before ++ pieces versioned u := by
  rcases List.eq_nil_or_concat (pieces false cs) with hnil | ⟨before, last, heq⟩
  · have htext := Piece.source_pieces false cs
    rw [hnil] at htext
    rw [← htext]
    exact ⟨[], false, by simp, fun u _ => rfl⟩
  rw [List.concat_eq_append] at heq
  obtain ⟨c, rest, hsource, hcuts, happend⟩ := pieces_append_last heq
  rw [endsUnquoted, heq, List.getLast?_concat, Option.all_some, Bool.or_eq_true,
    Bool.not_eq_true', beq_iff_eq] at hcs
  rcases hcs with hclosed | rfl
  · have hend := hlast before last heq hclosed
    rw [heq, List.foldl_concat] at hend
    refine ⟨before ++ [last], last.versionedAfter (before.foldl Piece.versionedAfter false),
      by simpa using hclosed, fun u hu => ?_⟩
    rw [happend, pieces_of_endsBefore hcuts, List.append_assoc, List.singleton_append]
    intro e he
    obtain rfl : d = e := Option.some.inj (hu.symm.trans he)
    exact hend
  · -- The signs are no comment in front of the character.
    obtain ⟨rfl, rfl⟩ := List.cons.inj hsource
    refine ⟨before ++ [.minus, .plain '-'], before.foldl Piece.versionedAfter false,
      by simp [Piece.isOpen], fun u hu => ?_⟩
    have hdash' : opensDashComment u = false := by
      obtain ⟨more, rfl⟩ := List.head?_eq_some_iff.mp hu
      exact hdash
    rw [happend, List.singleton_append, pieces_dashes hdash' (by simpa [hu] using hminus)]
    simp

/-- A piece that is not open ends in front of a quote, unless it is a section in such quotes. -/
theorem endsBefore_of_isQuote {q : Char} (hq : isQuote q = true) {p : Piece}
    (hopen : p.isOpen = false) (hp : ∀ body, p ≠ .quoted q body true) (versioned : Bool) :
    p.endsBefore versioned q = true := by
  cases p with
  | plain c => rcases isQuote_iff.mp hq with rfl | rfl | rfl <;> simp [Piece.endsBefore]
  | quoted quote body closed =>
      obtain rfl : closed = true := by simpa [Piece.isOpen] using hopen
      have hne : q ≠ quote := by
        rintro rfl
        exact hp body rfl
      simpa [Piece.endsBefore] using hne
  | lineComment text => cases hopen
  | blockComment body closed => simpa [Piece.isOpen, Piece.endsBefore] using hopen
  | versionOpen digits => rcases isQuote_iff.mp hq with rfl | rfl | rfl <;> rfl
  | versionClose => rfl
  | minus => rfl

/-! ### Literals -/

/-- **A literal at a seam is one piece.** Its body, or what is read in front of it in the same
section, is `x` and the body. -/
theorem exists_pieces_literal {cs : List Char} (hcs : endsUnquoted cs = true) {q : Char}
    (hq : isQuote q = true) :
    ∃ before versioned x, ∀ body rest, IsBody q body → rest.head? ≠ some q →
      pieces false (cs ++ q :: (body ++ q :: rest)) =
        before ++ .quoted q (x ++ body) true :: pieces versioned rest := by
  have hread : ∀ (versioned : Bool) (body rest : List Char), IsBody q body →
      rest.head? ≠ some q → pieces versioned (q :: (body ++ q :: rest)) =
        .quoted q body true :: pieces versioned rest := by
    intro versioned body rest hbody hrest
    have hcuts : Cuts versioned q (body ++ q :: rest) _ := .quoted hq
    rw [hbody rest hrest] at hcuts
    rw [pieces, nextPiece_eq_iff.mpr hcuts]
  by_cases hmerge : ∃ before body, pieces false cs = before ++ [.quoted q body true]
  · -- The quote at the seam doubles the closing quote in front of it.
    obtain ⟨before, body₀, heq⟩ := hmerge
    obtain ⟨c, first, hsource, hcuts, happend⟩ := pieces_append_last heq
    have hbegins : Begins q body₀ :=
      (wellQuoted_pieces false cs before q body₀ [] heq).2.1.begins hq
    obtain ⟨rfl, rfl⟩ : q = c ∧ body₀ ++ [q] = first := by
      simpa [Piece.source, quotedSource] using hsource
    refine ⟨before, before.foldl Piece.versionedAfter false, body₀ ++ [q, q],
      fun body rest hbody hrest => ?_⟩
    have hwhole : IsBody q (body₀ ++ q :: q :: body) := by
      intro rest hrest
      rw [List.append_assoc, hbegins, (hbody.double (ne_backslash_of_isQuote hq)) rest hrest]
      rfl
    have htext : body₀ ++ [q] ++ q :: (body ++ q :: rest) =
        (body₀ ++ q :: q :: body) ++ q :: rest := by simp
    rw [happend, htext, hread _ _ _ hwhole hrest]
    simp
  · obtain ⟨before, versioned, -, happend⟩ := exists_pieces_append hcs (d := q)
      (by rintro rfl; cases hq)
      (by rcases isQuote_iff.mp hq with rfl | rfl | rfl <;> decide)
      fun before last heq hopen => endsBefore_of_isQuote hq hopen
        (fun body hlast => hmerge ⟨before, body, hlast ▸ heq⟩) _
    refine ⟨before, versioned, [], fun body rest hbody hrest => ?_⟩
    rw [happend _ rfl, hread _ _ _ hbody hrest]
    rfl

/-- **Texts that differ in the body of one literal are alike.** -/
theorem alike_literal {cs : List Char} (hcs : endsUnquoted cs = true) {q : Char}
    (hq : isQuote q = true) (hne : q ≠ '`') {body body' rest : List Char}
    (hbody : IsBody q body) (hbody' : IsBody q body') (hrest : rest.head? ≠ some q) :
    Alike (cs ++ q :: (body ++ q :: rest)) (cs ++ q :: (body' ++ q :: rest)) := by
  obtain ⟨before, versioned, x, hpieces⟩ := exists_pieces_literal hcs hq
  rw [Alike, hpieces body rest hbody hrest, hpieces body' rest hbody' hrest]
  simp [Piece.blind_literal hne]

/-! ### Comments -/

/-- A piece that is not open ends in front of a slash, unless it is a star. -/
theorem endsBefore_slash {cs : List Char} {before : List Piece} {p : Piece}
    (hp : pieces false cs = before ++ [p]) (hopen : p.isOpen = false)
    (hstar : cs.getLast? ≠ some '*') (versioned : Bool) : p.endsBefore versioned '/' = true := by
  cases p with
  | plain c =>
      have hc : c ≠ '*' := by
        rintro rfl
        have htext := Piece.source_pieces false cs
        rw [hp, List.flatMap_append] at htext
        rw [← htext] at hstar
        simp [Piece.source] at hstar
      simp [Piece.endsBefore, hc]
  | quoted quote body closed =>
      obtain rfl : closed = true := by simpa [Piece.isOpen] using hopen
      have hquote := (wellQuoted_pieces false cs before quote body [] hp).1
      have hne : '/' ≠ quote := by
        rintro rfl
        cases hquote
      simpa [Piece.endsBefore] using hne
  | lineComment text => cases hopen
  | blockComment body closed => simpa [Piece.isOpen, Piece.endsBefore] using hopen
  | versionOpen digits => rfl
  | versionClose => rfl
  | minus => rfl

/-- **A comment at a seam is one piece**, and is removed whatever its body. -/
theorem stripComments_comment {cs : List Char} (hcs : endsUnquoted cs = true)
    (hstar : cs.getLast? ≠ some '*') {body body' : List Char} (hbody : IsCommentBody body)
    (hbody' : IsCommentBody body') (rest : List Char) :
    stripComments (cs ++ '/' :: '*' :: (body ++ '*' :: '/' :: rest)) =
      stripComments (cs ++ '/' :: '*' :: (body' ++ '*' :: '/' :: rest)) := by
  obtain ⟨before, versioned, -, happend⟩ := exists_pieces_append hcs (d := '/') (by decide)
    (by decide) fun before last heq hopen => endsBefore_slash heq hopen hstar _
  have hread : ∀ body : List Char, IsCommentBody body →
      pieces versioned ('/' :: '*' :: (body ++ '*' :: '/' :: rest)) =
        .blockComment body true :: pieces versioned rest := by
    intro body h
    have hbang : (body ++ '*' :: '/' :: rest).head? ≠ some '!' :=
      head?_append_ne h.not_versioned fun _ => by simp
    have hcuts : Cuts versioned '/' ('*' :: (body ++ '*' :: '/' :: rest)) _ :=
      .block rfl rfl hbang
    rw [readBlock_of_not_closed_body h.not_closed rest] at hcuts
    rw [pieces, nextPiece_eq_iff.mpr hcuts]
  rw [stripComments, stripComments, happend _ rfl, happend _ rfl, hread body hbody,
    hread body' hbody', List.flatMap_append, List.flatMap_append]
  rfl

/-! ### Segments of texts alike -/

/-- A segment with the body of a string literal taken out. -/
def Segment.blind : Segment → Segment
  | .quoted quote body closed =>
    if closed && quote != '`' then .quoted quote [] true else .quoted quote body closed
  | s => s

/-- Taking out a body and dividing into segments can be done in either order. -/
theorem Piece.segments_blind (p : Piece) : p.blind.segments = p.segments.map Segment.blind := by
  cases p with
  | quoted quote body closed =>
      rw [blind]
      split <;> rename_i hc <;> simp [Piece.segments, Segment.blind, hc]
  | plain c => rfl
  | lineComment text => rfl
  | blockComment body closed => rfl
  | versionOpen digits => rfl
  | versionClose => rfl
  | minus => rfl

/-- **Texts alike have the same segments** up to the bodies of their literals. -/
theorem Alike.segments_eq {cs cs' : List Char} (h : Alike cs cs') :
    (segments (stripComments cs)).map Segment.blind =
      (segments (stripComments cs')).map Segment.blind := by
  have hmap : ∀ ps : List Piece, (ps.flatMap Piece.segments).map Segment.blind =
      (ps.map Piece.blind).flatMap Piece.segments := by
    intro ps
    rw [List.map_flatMap, List.flatMap_map]
    exact congrArg (ps.flatMap ·) (funext fun p => (Piece.segments_blind p).symm)
  rw [segments_stripComments, segments_stripComments, hmap, hmap, h]

/-- Whether segments separate statements does not depend on the bodies of literals. -/
theorem Segment.blind_marks (s : Segment) :
    s.blind.isSemicolon = s.isSemicolon ∧ s.blind.isSubstance = s.isSubstance ∧
      s.blind.mask = s.mask := by
  cases s with
  | plain c => exact ⟨rfl, rfl, rfl⟩
  | quoted quote body closed =>
      rw [blind]
      split
      · rename_i hc
        rw [Bool.and_eq_true, bne_iff_ne] at hc
        simp [isSemicolon, isSubstance, mask, hc.2]
      · exact ⟨rfl, rfl, rfl⟩

/-- **Masking empties the literals**, so it leaves the same of texts alike. -/
theorem Alike.maskLiterals_eq {cs cs' : List Char} (h : Alike cs cs') :
    maskLiterals (stripComments cs) = maskLiterals (stripComments cs') := by
  have hmask : ∀ l : List Segment, l.flatMap Segment.mask =
      (l.map Segment.blind).flatMap Segment.mask := by
    intro l
    rw [List.flatMap_map]
    exact congrArg (l.flatMap ·) (funext fun s => s.blind_marks.2.2.symm)
  rw [maskLiterals, maskLiterals, hmask, h.segments_eq, ← hmask]

/-- **Texts alike are separated alike.** -/
theorem Alike.hasSeparator_eq {cs cs' : List Char} (h : Alike cs cs') :
    hasSeparator cs = hasSeparator cs' := by
  have hmarks : ∀ l : List Segment,
      ((l.dropWhile fun s => !s.isSemicolon).drop 1).any Segment.isSubstance =
        (((l.map Segment.blind).dropWhile fun s => !s.isSemicolon).drop 1).any
          Segment.isSubstance := by
    intro l
    have hsemi : (fun s : Segment => !s.isSemicolon) ∘ Segment.blind =
        fun s => !s.isSemicolon := funext fun s => by
      rw [Function.comp, s.blind_marks.1]
    have hsubstance : Segment.isSubstance ∘ Segment.blind = Segment.isSubstance :=
      funext fun s => s.blind_marks.2.1
    rw [List.dropWhile_map, hsemi, ← List.map_drop, List.any_map, hsubstance]
  rw [hasSeparator, hasSeparator, separates, separates, hmarks, h.segments_eq, ← hmarks]

end SqlGateway.Sql
