import SqlGateway.Proofs.Sql.Section
import SqlGateway.Proofs.Text.Word
import SqlGateway.Sql.Comment

/-!
# Removing Comments Piece by Piece

`Cuts versioned c rest step` is `nextPiece` as a relation, with one case for each kind of
piece. The facts about comments that other modules need are proved case by case on it.

A text ends outside if what stands behind it belongs to none of its pieces: no quoted
section, no block comment and no versioned comment is open at its end, and no comment to the
end of the line. Behind such a text a semicolon starts afresh, so comments are removed on
both sides of it independently.

## Main results

* `nextPiece_eq_iff`: the function is the relation.
* `stripComments_append`: removing comments on both sides of a semicolon.
* `segments_stripComments`: what is left has the quoted sections of the text itself.
* `mem_stripComments`: what is left has no characters of its own but the space.
-/

namespace SqlGateway.Sql

open Text

/-! ### One piece -/

/-- `Cuts versioned c rest step`: the piece at the front of `c :: rest` is that of `step`. -/
inductive Cuts (versioned : Bool) (c : Char) (rest : List Char) : PieceStep → Prop
  | quoted (hquote : isQuote c = true) :
      Cuts versioned c rest
        ⟨.quoted c (readQuoted c rest).body (readQuoted c rest).closed, versioned,
          (readQuoted c rest).rest⟩
  | hash (hc : c = '#') :
      Cuts versioned c rest
        ⟨.lineComment ('#' :: rest.takeWhile (· != '\n')), versioned,
          rest.dropWhile (· != '\n')⟩
  | version {after : List Char} (hc : c = '/') (hrest : rest = '*' :: '!' :: after) :
      Cuts versioned c rest
        ⟨.versionOpen (after.takeWhile Char.isDigit), true, after.dropWhile Char.isDigit⟩
  | block {after : List Char} (hc : c = '/') (hrest : rest = '*' :: after)
      (hbang : after.head? ≠ some '!') :
      Cuts versioned c rest
        ⟨.blockComment (readBlock after).1 (readBlock after).2.1, versioned,
          (readBlock after).2.2⟩
  | close {after : List Char} (hc : c = '*') (hrest : rest = '/' :: after)
      (hopen : versioned = true) : Cuts versioned c rest ⟨.versionClose, false, after⟩
  | dashes {after : List Char} (hc : c = '-') (hrest : rest = '-' :: after)
      (hdash : opensDashComment after = true) :
      Cuts versioned c rest
        ⟨.lineComment ('-' :: '-' :: after.takeWhile (· != '\n')), versioned,
          after.dropWhile (· != '\n')⟩
  | minus {after : List Char} (hc : c = '-') (hrest : rest = '-' :: after)
      (hdash : opensDashComment after = false) :
      Cuts versioned c rest ⟨.minus, versioned, '-' :: after⟩
  | plain (hquote : isQuote c = false) (hhash : c ≠ '#')
      (hslash : c = '/' → rest.head? ≠ some '*')
      (hstar : c = '*' → rest.head? = some '/' → versioned = false)
      (hminus : c = '-' → rest.head? ≠ some '-') :
      Cuts versioned c rest ⟨.plain c, versioned, rest⟩

/-- Every text starts with a piece of some kind. -/
theorem cuts_nextPiece (versioned : Bool) (c : Char) (rest : List Char) :
    Cuts versioned c rest (nextPiece versioned c rest) := by
  unfold nextPiece
  split
  · rename_i hquote
    exact .quoted hquote
  rename_i hquote
  rw [Bool.not_eq_true] at hquote
  split
  · exact .hash rfl
  · exact .version rfl rfl
  · rename_i after hbang
    refine .block rfl rfl fun hhead => ?_
    obtain ⟨more, hmore⟩ := List.head?_eq_some_iff.mp hhead
    exact hbang more hmore
  · split
    · rename_i hopen
      exact .close rfl rfl hopen
    · rename_i hopen
      exact .plain hquote (by decide) (by simp) (fun _ _ => by simpa using hopen) (by simp)
  · split
    · rename_i hdash
      exact .dashes rfl rfl hdash
    · rename_i hdash
      exact .minus rfl rfl (by simpa using hdash)
  · rename_i hhash _ hslash hstar hminus
    refine .plain hquote hhash ?_ ?_ ?_
    · rintro rfl hhead
      obtain ⟨more, rfl⟩ := List.head?_eq_some_iff.mp hhead
      exact hslash more rfl rfl
    · rintro rfl hhead
      obtain ⟨more, rfl⟩ := List.head?_eq_some_iff.mp hhead
      exact absurd rfl (hstar more rfl)
    · rintro rfl hhead
      obtain ⟨more, rfl⟩ := List.head?_eq_some_iff.mp hhead
      exact hminus more rfl rfl

/-- **Cutting off a piece as a relation**: it has exactly the result of the function. -/
theorem nextPiece_eq_iff {versioned : Bool} {c : Char} {rest : List Char} {step : PieceStep} :
    nextPiece versioned c rest = step ↔ Cuts versioned c rest step := by
  constructor
  · rintro rfl
    exact cuts_nextPiece versioned c rest
  · intro h
    cases h with
    | quoted hquote => simp [nextPiece, hquote]
    | hash hc =>
        subst hc
        rfl
    | version hc hrest =>
        subst hc hrest
        rfl
    | block hc hrest hbang =>
        subst hc hrest
        unfold nextPiece
        rw [if_neg (by decide)]
        split <;> simp_all
    | close hc hrest hopen =>
        subst hc hrest hopen
        rfl
    | dashes hc hrest hdash =>
        subst hc hrest
        simp [nextPiece, isQuote, hdash]
    | minus hc hrest hdash =>
        subst hc hrest
        simp [nextPiece, isQuote, hdash]
    | plain hquote hhash hslash hstar hminus =>
        unfold nextPiece
        rw [if_neg (by simp [hquote])]
        split <;> simp_all

/-! ### The end of a text -/

/-- Whether what stands behind a piece would still belong to it. -/
def Piece.isOpen : Piece → Bool
  | .quoted _ _ closed => !closed
  | .blockComment _ closed => !closed
  | .lineComment _ => true
  | _ => false

/-- Whether a versioned comment is open behind a piece. -/
def Piece.versionedAfter (versioned : Bool) : Piece → Bool
  | .versionOpen _ => true
  | .versionClose => false
  | _ => versioned

/-- A text ends outside if nothing behind it would belong to a quoted section or to a
comment of the text. -/
structure EndsOutside (cs : List Char) : Prop where
  last_closed : (pieces false cs).getLast?.any Piece.isOpen = false
  version_closed : (pieces false cs).foldl Piece.versionedAfter false = false

/-- A piece decides whether a versioned comment is open behind it. -/
theorem Cuts.versioned_eq {versioned : Bool} {c : Char} {rest : List Char} {step : PieceStep}
    (h : Cuts versioned c rest step) :
    step.versioned = step.piece.versionedAfter versioned := by
  cases h <;> rfl

/-- A block comment that is closed does not depend on what follows. -/
theorem readBlock_append {cs : List Char} (h : (readBlock cs).2.1 = true) (u : List Char) :
    readBlock (cs ++ u) = ((readBlock cs).1, true, (readBlock cs).2.2 ++ u) := by
  induction cs with
  | nil => cases h
  | cons c rest ih =>
      by_cases hend : c = '*' ∧ ∃ after, rest = '/' :: after
      · obtain ⟨rfl, after, rfl⟩ := hend
        rfl
      · rw [readBlock_cons hend] at h ⊢
        have hopen : ¬(c = '*' ∧ ∃ after, rest ++ u = '/' :: after) := by
          rintro ⟨hc, after, hafter⟩
          cases rest with
          | nil => cases h
          | cons d more =>
              rw [List.cons_append, List.cons.injEq] at hafter
              exact hend ⟨hc, more, by rw [hafter.1]⟩
        rw [List.cons_append, readBlock_cons hopen, ih h]

/-- A block comment without an end takes the whole text. -/
theorem readBlock_of_not_closed {cs : List Char} (h : (readBlock cs).2.1 = false) :
    (readBlock cs).2.2 = [] := by
  induction cs with
  | nil => rfl
  | cons c rest ih =>
      by_cases hend : c = '*' ∧ ∃ after, rest = '/' :: after
      · obtain ⟨rfl, after, rfl⟩ := hend
        cases h
      · rw [readBlock_cons hend] at h ⊢
        exact ih h

/-- What is closed unless it takes the whole text is closed, if it is closed where it takes the
whole text. -/
theorem closed_of_end {closed : Bool} {last : List Char} (hend : last = [] → closed = true)
    (hopen : closed = false → last = []) : closed = true := by
  by_contra hnot
  exact hnot (hend (hopen (by simpa using hnot)))

/-- Whether a piece at the end of a text stays what it is in front of a character. The flag
tells whether a versioned comment is open behind the piece. -/
def Piece.endsBefore (versioned : Bool) (d : Char) : Piece → Bool
  | .plain c =>
    !(c == '/' && d == '*') && !(c == '*' && d == '/' && versioned) && !(c == '-' && d == '-')
  | .quoted quote _ closed => closed && d != quote
  | .lineComment _ => false
  | .blockComment _ closed => closed
  | .versionOpen _ => !d.isDigit
  | .versionClose => true
  | .minus => true

/-- What stands first behind a text with characters is the first of them. -/
theorem head?_append_ne {rest u : List Char} {d : Char} (h : rest.head? ≠ some d)
    (hu : rest = [] → u.head? ≠ some d) : (rest ++ u).head? ≠ some d := by
  cases rest with
  | nil => exact hu rfl
  | cons e rest => exact h

/-- **What stands behind a text does not change the piece at its front**, unless that piece is
the whole text and goes on. -/
theorem Cuts.append {versioned : Bool} {c : Char} {rest u : List Char} {step : PieceStep}
    (h : Cuts versioned c rest step)
    (hend : step.rest = [] → ∀ d ∈ u.head?, step.piece.endsBefore step.versioned d = true) :
    Cuts versioned c (rest ++ u) { step with rest := step.rest ++ u } := by
  rcases u with _ | ⟨d, u⟩
  · simpa using h
  replace hend : step.rest = [] → step.piece.endsBefore step.versioned d = true :=
    fun hrest => hend hrest d rfl
  cases h with
  | quoted hquote =>
      have hends : (readQuoted c rest).rest = [] →
          (readQuoted c rest).closed = true ∧ d ≠ c := by
        simpa [Piece.endsBefore] using hend
      have hclosed : (readQuoted c rest).closed = true :=
        closed_of_end (fun hrest => (hends hrest).1) fun hnot => (readQuoted_of_not_closed hnot).2
      have hread := readQuoted_append_of_closed (u := d :: u) (ne_backslash_of_isQuote hquote)
        hclosed fun hrest hhead => (hends hrest).2 (Option.some.inj hhead)
      have happ : Cuts versioned c (rest ++ d :: u) _ := .quoted hquote
      rw [hread] at happ
      rwa [hclosed]
  | hash hc =>
      obtain ⟨htake, hdrop⟩ := takeWhile_append_of_rest (u := d :: u)
        fun hrest => absurd (hend hrest) (by simp [Piece.endsBefore])
      have happ : Cuts versioned c (rest ++ d :: u) _ := .hash hc
      rwa [htake, hdrop] at happ
  | @version after hc hrest =>
      subst hrest
      have hdigit : after.dropWhile Char.isDigit = [] →
          ∀ e ∈ (d :: u).head?, e.isDigit = false := by
        intro hnil e he
        cases he
        simpa [Piece.endsBefore] using hend hnil
      obtain ⟨htake, hdrop⟩ := takeWhile_append_of_rest hdigit
      have happ : Cuts versioned c ('*' :: '!' :: (after ++ d :: u)) _ := .version hc rfl
      rwa [htake, hdrop] at happ
  | @block after hc hrest hbang =>
      subst hrest
      have hclosed : (readBlock after).2.1 = true := closed_of_end hend readBlock_of_not_closed
      have hbang' : (after ++ d :: u).head? ≠ some '!' := head?_append_ne hbang fun hnil => by
        subst hnil
        cases hclosed
      have happ : Cuts versioned c ('*' :: (after ++ d :: u)) _ := .block hc rfl hbang'
      rw [readBlock_append hclosed] at happ
      rwa [hclosed]
  | close hc hrest hopen =>
      subst hrest
      exact .close hc rfl hopen
  | @dashes after hc hrest hdash =>
      subst hrest
      have hnot : after.dropWhile (· != '\n') ≠ [] :=
        fun hnil => absurd (hend hnil) (by simp [Piece.endsBefore])
      obtain ⟨htake, hdrop⟩ := takeWhile_append_of_rest (u := d :: u) fun hrest =>
        absurd hrest hnot
      have hdash' : opensDashComment (after ++ d :: u) = true := by
        cases after with
        | nil => exact absurd rfl hnot
        | cons e more => exact hdash
      have happ : Cuts versioned c ('-' :: (after ++ d :: u)) _ := .dashes hc rfl hdash'
      rwa [htake, hdrop] at happ
  | @minus after hc hrest hdash =>
      subst hrest
      refine .minus hc rfl ?_
      cases after with
      | nil => cases hdash
      | cons e more => exact hdash
  | plain hquote hhash hslash hstar hminus =>
      have hends : rest = [] → (c = '/' → d ≠ '*') ∧ (c = '*' → d = '/' → versioned = false) ∧
          (c = '-' → d ≠ '-') := by
        intro hrest
        simpa [Piece.endsBefore, imp_iff_not_or, and_assoc, or_assoc] using hend hrest
      refine .plain hquote hhash ?_ ?_ ?_
      · exact fun hc => head?_append_ne (hslash hc) fun hnil => by simpa using (hends hnil).1 hc
      · intro hc hhead
        by_cases hnil : rest = []
        · subst hnil
          exact (hends rfl).2.1 hc (by simpa using hhead)
        · rw [List.head?_append_of_ne_nil _ hnil] at hhead
          exact hstar hc hhead
      · exact fun hc => head?_append_ne (hminus hc) fun hnil => by simpa using (hends hnil).2.2 hc

/-- **What is appended to a text reaches its last piece at most.** -/
theorem pieces_append_last {versioned : Bool} {cs : List Char} {before : List Piece}
    {last : Piece} (h : pieces versioned cs = before ++ [last]) :
    ∃ c rest, last.source = c :: rest ∧
      Cuts (before.foldl Piece.versionedAfter versioned) c rest
        ⟨last, last.versionedAfter (before.foldl Piece.versionedAfter versioned), []⟩ ∧
      ∀ u, pieces versioned (cs ++ u) = before ++
        pieces (before.foldl Piece.versionedAfter versioned) (c :: (rest ++ u)) := by
  induction before generalizing versioned cs with
  | nil =>
      cases cs with
      | nil =>
          rw [pieces] at h
          cases h
      | cons c rest =>
          rw [pieces] at h
          obtain ⟨hpiece, hnil⟩ := List.cons.inj h
          have hcuts := cuts_nextPiece versioned c rest
          have hsource := source_nextPiece versioned c rest
          have hrest := Piece.source_pieces (nextPiece versioned c rest).versioned
            (nextPiece versioned c rest).rest
          generalize nextPiece versioned c rest = step at hcuts hpiece hsource hrest hnil
          rw [hnil] at hrest
          rw [← hrest, hpiece] at hsource
          refine ⟨c, rest, by simpa using hsource, ?_, fun u => rfl⟩
          have hversioned := hcuts.versioned_eq
          obtain ⟨piece, versioned', last'⟩ := step
          simp only [List.flatMap_nil] at hpiece hrest hversioned
          subst hpiece hrest hversioned
          exact hcuts
  | cons p before ih =>
      cases cs with
      | nil =>
          rw [pieces] at h
          cases h
      | cons c rest =>
          rw [pieces, List.cons_append, List.cons.injEq] at h
          obtain ⟨hpiece, hpieces⟩ := h
          have hcuts := cuts_nextPiece versioned c rest
          generalize nextPiece versioned c rest = step at hcuts hpiece hpieces
          subst hpiece
          obtain ⟨d, more, hsource, hlast, happend⟩ := ih hpieces
          rw [List.foldl_cons, ← hcuts.versioned_eq]
          refine ⟨d, more, hsource, hlast, fun u => ?_⟩
          have hrest : step.rest ≠ [] := by
            rintro hnil
            rw [hnil, pieces] at hpieces
            cases before <;> cases hpieces
          have happ := nextPiece_eq_iff.mpr (hcuts.append (u := u) fun hnil => absurd hnil hrest)
          rw [List.cons_append, pieces, happ, List.cons_append]
          exact congrArg _ (happend u)

/-- A last piece that ends in front of what is appended is a piece of the whole. -/
theorem pieces_of_endsBefore {versioned : Bool} {c : Char} {rest u : List Char} {last : Piece}
    (h : Cuts versioned c rest ⟨last, last.versionedAfter versioned, []⟩)
    (hend : ∀ d ∈ u.head?, last.endsBefore (last.versionedAfter versioned) d = true) :
    pieces versioned (c :: (rest ++ u)) = last :: pieces (last.versionedAfter versioned) u := by
  rw [pieces, nextPiece_eq_iff.mpr (h.append fun _ => hend)]
  rfl

/-- Whether a character belongs to no piece in front of it that is not open. -/
def standsApart (d : Char) : Bool :=
  !isQuote d && !d.isDigit && d != '*' && d != '/' && d != '-'

/-- A piece that is not open ends in front of a character that stands apart. -/
theorem Cuts.endsBefore_of_standsApart {versioned : Bool} {c d : Char} {rest : List Char}
    {step : PieceStep} (h : Cuts versioned c rest step) (hopen : step.piece.isOpen = false)
    (hd : standsApart d = true) : step.piece.endsBefore step.versioned d = true := by
  simp only [standsApart, Bool.and_eq_true, Bool.not_eq_true', bne_iff_ne] at hd
  obtain ⟨⟨⟨⟨hquote, hdigit⟩, hstar⟩, hslash⟩, hminus⟩ := hd
  cases h with
  | quoted hc =>
      have hne : d ≠ c := by
        rintro rfl
        rw [hquote] at hc
        cases hc
      simpa [Piece.endsBefore, Piece.isOpen, hne] using hopen
  | hash hc => cases hopen
  | dashes hc hrest hdash => cases hopen
  | block hc hrest hbang => simpa [Piece.endsBefore, Piece.isOpen] using hopen
  | version hc hrest => simp [Piece.endsBefore, hdigit]
  | plain hc => simp [Piece.endsBefore, hstar, hslash, hminus]
  | _ => rfl

/-- The pieces of a text are those at the front of any text that goes on with a character that
stands apart. -/
theorem pieces_append {versioned : Bool} {cs u : List Char}
    (hu : ∀ d ∈ u.head?, standsApart d = true)
    (hlast : (pieces versioned cs).getLast?.any Piece.isOpen = false) :
    pieces versioned (cs ++ u) = pieces versioned cs ++
      pieces ((pieces versioned cs).foldl Piece.versionedAfter versioned) u := by
  rcases List.eq_nil_or_concat (pieces versioned cs) with hnil | ⟨before, last, heq⟩
  · have hcs := Piece.source_pieces versioned cs
    rw [hnil] at hcs
    rw [hnil, ← hcs]
    rfl
  · rw [List.concat_eq_append] at heq
    obtain ⟨c, rest, -, hcuts, happend⟩ := pieces_append_last heq
    rw [heq, List.getLast?_concat] at hlast
    rw [happend u, pieces_of_endsBefore hcuts, heq, List.foldl_concat, List.append_assoc]
    · rfl
    · exact fun d hd => hcuts.endsBefore_of_standsApart hlast (hu d hd)

/-- A semicolon outside quotes and comments is a piece. -/
theorem pieces_semicolon (versioned : Bool) (rest : List Char) :
    pieces versioned (';' :: rest) = .plain ';' :: pieces versioned rest := by
  have hcuts : Cuts versioned ';' rest ⟨.plain ';', versioned, rest⟩ :=
    .plain (by decide) (by decide) (by simp) (by simp) (by simp)
  rw [pieces, nextPiece_eq_iff.mpr hcuts]

/-- **Comments are removed on both sides of a semicolon** that stands outside. -/
theorem stripComments_append {a : List Char} (ha : EndsOutside a) (b : List Char) :
    stripComments (a ++ ';' :: b) = stripComments a ++ ';' :: stripComments b := by
  have hpieces : pieces false (a ++ ';' :: b) =
      pieces false a ++ .plain ';' :: pieces false b := by
    rw [pieces_append (by simp [standsApart, isQuote]) ha.last_closed, ha.version_closed,
      pieces_semicolon]
  rw [stripComments, hpieces, List.flatMap_append]
  rfl

/-! ### What is left of a text -/

/-- What stays of a piece has no characters of its own but the space. -/
theorem Piece.mem_kept {p : Piece} {c : Char} (h : c ∈ p.kept) : c ∈ p.source ∨ c = ' ' := by
  cases p with
  | plain d => exact .inl h
  | quoted quote body closed => exact .inl h
  | lineComment text => cases h
  | minus => simpa [Piece.kept, Piece.source] using h
  | blockComment body closed => exact .inr (by simpa [Piece.kept] using h)
  | versionOpen digits => exact .inr (by simpa [Piece.kept] using h)
  | versionClose => exact .inr (by simpa [Piece.kept] using h)

/-- What is left of a text has no characters of its own but the space. -/
theorem mem_stripComments {cs : List Char} {c : Char} (h : c ∈ stripComments cs) :
    c ∈ cs ∨ c = ' ' := by
  obtain ⟨p, hp, hc⟩ := List.mem_flatMap.mp h
  refine (Piece.mem_kept hc).imp_left fun hsource => ?_
  rw [← Piece.source_pieces false cs]
  exact List.mem_flatMap.mpr ⟨p, hp, hsource⟩

/-- The segments of what stays of a piece. -/
def Piece.segments : Piece → List Segment
  | .quoted quote body closed => [.quoted quote body closed]
  | p => p.kept.map .plain

/-- What is left of a text starts as the text does, or with a space or a line break. -/
theorem head?_kept {versioned : Bool} {cs : List Char} {q : Char} (hspace : q ≠ ' ')
    (hbreak : q ≠ '\n')
    (h : ((pieces versioned cs).flatMap Piece.kept).head? = some q) : cs.head? = some q := by
  -- A comment to the end of a line leaves nothing, but the line break behind it is left.
  have hline : ∀ rest : List Char,
      ((pieces versioned (rest.dropWhile (· != '\n'))).flatMap Piece.kept).head? ≠ some q := by
    intro rest hhead
    have hend := List.head?_dropWhile_not (· != '\n') rest
    cases hdrop : rest.dropWhile (· != '\n') with
    | nil =>
        rw [hdrop, pieces] at hhead
        cases hhead
    | cons d more =>
        rw [hdrop] at hhead hend
        obtain rfl : d = '\n' := by simpa using hend
        have hcuts : Cuts versioned '\n' more ⟨.plain '\n', versioned, more⟩ :=
          .plain (by decide) (by decide) (by simp) (by simp) (by simp)
        rw [pieces, nextPiece_eq_iff.mpr hcuts] at hhead
        exact hbreak (by simpa [Piece.kept] using hhead.symm)
  cases cs with
  | nil =>
      rw [pieces] at h
      cases h
  | cons c rest =>
      rw [pieces] at h
      have hcuts := cuts_nextPiece versioned c rest
      generalize nextPiece versioned c rest = step at h hcuts
      cases hcuts with
      | quoted hquote => simpa [Piece.kept, quotedSource] using h
      | hash hc => exact absurd (by simpa [Piece.kept] using h) (hline rest)
      | @dashes after hc hrest hdash =>
          exact absurd (by simpa [Piece.kept] using h) (hline after)
      | version hc hrest => exact absurd (by simpa [Piece.kept] using h.symm) hspace
      | block hc hrest hbang => exact absurd (by simpa [Piece.kept] using h.symm) hspace
      | close hc hrest hopen => exact absurd (by simpa [Piece.kept] using h.symm) hspace
      | minus hc hrest hdash =>
          subst hc
          simpa [Piece.kept] using h
      | plain hquote => simpa [Piece.kept] using h

/-- What is left of a text starts with a quote only if the text does. -/
theorem head?_kept_of_isQuote {versioned : Bool} {cs : List Char} {q : Char}
    (hq : isQuote q = true)
    (h : ((pieces versioned cs).flatMap Piece.kept).head? = some q) : cs.head? = some q := by
  refine head?_kept ?_ ?_ h
  · rintro rfl
    exact absurd hq (by decide)
  · rintro rfl
    exact absurd hq (by decide)

/-- A closed section in front of a text is a segment. -/
theorem segments_quotedSource {quote : Char} (hquote : isQuote quote = true) {body : List Char}
    (hbody : IsBody quote body) {u : List Char} (hu : u.head? ≠ some quote) :
    segments (quotedSource quote body true ++ u) = .quoted quote body true :: segments u := by
  have hsource : quotedSource quote body true ++ u = quote :: (body ++ quote :: u) := by
    simp [quotedSource]
  rw [hsource, segments_of_quote hquote, hbody u hu]

/-- What is left of pieces has the quoted sections among them. -/
theorem segments_kept (versioned : Bool) (cs : List Char) :
    segments ((pieces versioned cs).flatMap Piece.kept) =
      (pieces versioned cs).flatMap Piece.segments := by
  fun_induction pieces versioned cs with
  | case1 => simp [Sql.segments]
  | case2 versioned c rest step hlt ih =>
      have hcuts := cuts_nextPiece versioned c rest
      rw [List.flatMap_cons, List.flatMap_cons, ← ih]
      have hplain : ∀ p : Piece, (∀ d ∈ p.kept, isQuote d = false) →
          ∀ u, Sql.segments (p.kept ++ u) = p.kept.map .plain ++ Sql.segments u :=
        fun p hp u => segments_append hp u
      change Cuts versioned c rest step at hcuts
      generalize step = step at hcuts
      cases hcuts with
      | quoted hquote =>
          by_cases hclosed : (readQuoted c rest).closed = true
          · have hbody := isBody_readQuoted (ne_backslash_of_isQuote hquote) hclosed
            rw [hclosed]
            refine segments_quotedSource hquote hbody fun hhead => ?_
            exact head?_rest_readQuoted hclosed (head?_kept_of_isQuote hquote hhead)
          · rw [Bool.not_eq_true] at hclosed
            obtain ⟨hbody, hrest⟩ := readQuoted_of_not_closed hclosed
            have hsegments := segments_of_quote hquote rest
            rw [hbody, hclosed, hrest] at hsegments ⊢
            simpa [pieces, Piece.kept, quotedSource, Piece.segments] using hsegments
      | hash hc => exact hplain _ (by simp [Piece.kept]) _
      | version hc hrest => exact hplain _ (by simp [Piece.kept, isQuote]) _
      | block hc hrest hbang => exact hplain _ (by simp [Piece.kept, isQuote]) _
      | close hc hrest hopen => exact hplain _ (by simp [Piece.kept, isQuote]) _
      | dashes hc hrest hdash => exact hplain _ (by simp [Piece.kept]) _
      | minus hc hrest hdash => exact hplain _ (by simp [Piece.kept, isQuote]) _
      | plain hquote => exact hplain _ (by simp [Piece.kept, hquote]) _

/-- **What is left of a text has the quoted sections of the text itself.** -/
theorem segments_stripComments (cs : List Char) :
    segments (stripComments cs) = (pieces false cs).flatMap Piece.segments :=
  segments_kept false cs

end SqlGateway.Sql
