import SqlGateway.Proofs.Sql.Entering
import SqlGateway.Proofs.Sql.Stripping

/-!
# Texts That Differ in Their Literals

Two texts are *alike* if they have the same pieces up to the bodies of their string literals.
Each literal is closed at its own closing quote in both, since the pieces are.

If the tokenizer enters every literal of a text, the bodies show in the tokens only as bodies
of strings: the tokens of any text alike are the same up to these.

## Main results

* `Scans.blind_eq`: where all literals are entered, texts alike have tokens alike.
* `pieces_change`: a literal can be given any body, and the other pieces stay.
* `exists_alike_divided`: where a literal is not entered, some text alike is divided there.
* `entersLiterals_of_not_mem`: without the sign `@`, all literals of a text are entered.
-/

namespace SqlGateway.Sql

open Text

/-! ### Pieces without bodies -/

/-- A piece with the body of a string literal taken out. -/
def Piece.blind : Piece → Piece
  | .quoted quote body closed =>
    if closed && quote != '`' then .quoted quote [] true else .quoted quote body closed
  | p => p

/-- Texts that differ only inside the bodies of their string literals. -/
def Alike (cs cs' : List Char) : Prop :=
  (pieces false cs).map Piece.blind = (pieces false cs').map Piece.blind

theorem Piece.blind_literal {q : Char} (hq : q ≠ '`') (body : List Char) :
    (Piece.quoted q body true).blind = .quoted q [] true := by
  simp [blind, hq]

/-- Only a literal has a body to take out. -/
theorem Piece.blind_eq_self {p : Piece}
    (h : ∀ q body, q ≠ '`' → p ≠ .quoted q body true) : p.blind = p := by
  cases p with
  | quoted q body closed =>
      rw [blind, if_neg]
      intro hc
      rw [Bool.and_eq_true, bne_iff_ne] at hc
      obtain ⟨rfl, hq⟩ := hc
      exact h q body hq rfl
  | _ => rfl

/-- Pieces that are the same without bodies are the same, or literals in the same quotes. -/
theorem Piece.eq_or_literal {p p' : Piece} (h : p.blind = p'.blind) :
    p = p' ∨ ∃ q body body', q ≠ '`' ∧ p = .quoted q body true ∧ p' = .quoted q body' true := by
  by_cases hp : ∃ q body, q ≠ '`' ∧ p = .quoted q body true
  · obtain ⟨q, body, hq, rfl⟩ := hp
    rw [blind_literal hq] at h
    by_cases hp' : ∃ q body, q ≠ '`' ∧ p' = .quoted q body true
    · obtain ⟨q', body', hq', rfl⟩ := hp'
      rw [blind_literal hq'] at h
      cases h
      exact .inr ⟨q, body, body', hq, rfl, rfl⟩
    · rw [blind_eq_self fun q body hq he => hp' ⟨q, body, hq, he⟩] at h
      exact absurd ⟨q, [], hq, h.symm⟩ hp'
  · rw [blind_eq_self fun q body hq he => hp ⟨q, body, hq, he⟩] at h
    by_cases hp' : ∃ q body, q ≠ '`' ∧ p' = .quoted q body true
    · obtain ⟨q, body, hq, rfl⟩ := hp'
      rw [blind_literal hq] at h
      exact absurd ⟨q, [], hq, h⟩ hp
    · rw [blind_eq_self fun q body hq he => hp' ⟨q, body, hq, he⟩] at h
      exact .inl h

/-- Lists of pieces that are the same without bodies are the same up to a first literal. -/
theorem eq_or_exists_literal {ps ps' : List Piece}
    (h : ps.map Piece.blind = ps'.map Piece.blind) :
    ps = ps' ∨ ∃ before q body body' after after', q ≠ '`' ∧
      ps = before ++ .quoted q body true :: after ∧
      ps' = before ++ .quoted q body' true :: after' ∧
      after.map Piece.blind = after'.map Piece.blind := by
  induction ps generalizing ps' with
  | nil =>
      left
      rw [List.map_nil, eq_comm, List.map_eq_nil_iff] at h
      exact h.symm
  | cons p ps ih =>
      cases ps' with
      | nil => cases h
      | cons p' ps' =>
          rw [List.map_cons, List.map_cons, List.cons.injEq] at h
          obtain ⟨hp, hps⟩ := h
          rcases Piece.eq_or_literal hp with rfl | ⟨q, body, body', hq, rfl, rfl⟩
          · rcases ih hps with rfl | ⟨before, q, body, body', after, after', hq, rfl, rfl, ha⟩
            · exact .inl rfl
            · exact .inr ⟨p :: before, q, body, body', after, after', hq, rfl, rfl, ha⟩
          · exact .inr ⟨[], q, body, body', ps, ps', hq, rfl, rfl, hps⟩

/-! ### Literals among pieces -/

theorem flatMap_kept_quoted (q : Char) (body : List Char) (after : List Piece) :
    (Piece.quoted q body true :: after).flatMap Piece.kept =
      q :: (body ++ q :: after.flatMap Piece.kept) := by
  simp [Piece.kept, quotedSource]

/-- Each closed section among some pieces is read to its end. -/
def WellQuoted (ps : List Piece) : Prop :=
  ∀ before q body after, ps = before ++ .quoted q body true :: after →
    isQuote q = true ∧ IsBody q body ∧ (after.flatMap Piece.kept).head? ≠ some q

theorem WellQuoted.read {ps before after : List Piece} {q : Char} {body : List Char}
    (h : WellQuoted ps) (hps : ps = before ++ .quoted q body true :: after) :
    readQuoted q (body ++ q :: after.flatMap Piece.kept) =
      ⟨body, true, after.flatMap Piece.kept⟩ := by
  obtain ⟨-, hbody, hhead⟩ := h before q body after hps
  exact hbody _ hhead

theorem WellQuoted.append_right {before ps : List Piece} (h : WellQuoted (before ++ ps)) :
    WellQuoted ps := by
  rintro first q body after rfl
  exact h (before ++ first) q body after (by rw [List.append_assoc])

/-- The sections of a text are read to their ends. -/
theorem wellQuoted_pieces (versioned : Bool) (cs : List Char) :
    WellQuoted (pieces versioned cs) := by
  intro before q body after hps
  fun_induction pieces versioned cs generalizing before with
  | case1 => cases before <;> cases hps
  | case2 versioned c rest step hlt ih =>
      cases before with
      | cons p before => exact ih before (List.cons.inj hps).2
      | nil =>
          obtain ⟨hpiece, hafter⟩ := List.cons.inj hps
          subst hafter
          have hcuts : Cuts versioned c rest step := cuts_nextPiece versioned c rest
          generalize step = step at hcuts hpiece
          cases hcuts with
          | quoted hquote =>
              simp only [Piece.quoted.injEq] at hpiece
              obtain ⟨rfl, rfl, hclosed⟩ := hpiece
              refine ⟨hquote, isBody_readQuoted (ne_backslash_of_isQuote hquote) hclosed, ?_⟩
              exact fun hhead =>
                head?_rest_readQuoted hclosed (head?_kept_of_isQuote hquote hhead)
          | _ => cases hpiece

/-! ### Entering all literals -/

/-- The tokenizer, started on `cs`, enters all string literals among some pieces. -/
def EntersAll (cs : List Char) (ps : List Piece) : Prop :=
  ∀ before q body after, q ≠ '`' → ps = before ++ .quoted q body true :: after →
    Enters cs q (body ++ q :: after.flatMap Piece.kept)

/-- Literals behind a token are entered from the end of that token. -/
theorem EntersAll.tail {c : Char} {rest mid z : List Char} {t : Token} {before ps : List Piece}
    (h : EntersAll (c :: rest) (before ++ ps)) (hwell : WellQuoted (before ++ ps))
    (hread : Reads c rest t mid) (hmid : mid = z ++ ps.flatMap Piece.kept) :
    EntersAll mid ps := by
  rintro first q body after hq rfl
  have hps : before ++ (first ++ .quoted q body true :: after) =
      (before ++ first) ++ .quoted q body true :: after := (List.append_assoc ..).symm
  refine (h (before ++ first) q body after hq hps).tail hread ?_
  rw [hwell.read hps, hmid, List.flatMap_append, flatMap_kept_quoted]
  simp
  omega

/-- What is entered is shorter than the text. -/
theorem Enters.length_lt {cs u : List Char} {q : Char} (h : Enters cs q u) :
    u.length < cs.length := by
  induction h with
  | @opens cs w u q hopens _ =>
      generalize hafter : w ++ u = after at hopens
      have hlen := congrArg List.length hafter
      rw [List.length_append] at hlen
      cases hopens <;> simp only [List.length_cons] <;> omega
  | step hread _ ih =>
      have hlen := hread.suffix.length_le
      rw [List.length_cons]
      omega

/-- A text is scanned to its end in one way. -/
theorem Scans.unique {cs : List Char} {tokens tokens' : List Token} (h : Scans cs tokens [])
    (h' : Scans cs tokens' []) : tokens = tokens' := by
  have heq := (tokenize_eq_ok_iff.mpr h).symm.trans (tokenize_eq_ok_iff.mpr h')
  cases heq
  rfl

/-- One token of two texts that are the same up to the body of a literal. If the literal is
entered, the token is the same up to the body of a string, and goes either to the end of the
literal or to one place in front of it. -/
theorem Reads.blind_step {c q : Char} {rest mid y v v' body body' u u' : List Char}
    {t : Token} {tokens' : List Token} (hread : Reads c rest t mid)
    (hrest : c :: rest = y ++ q :: v) (hq : q ≠ '`')
    (hclose : readQuoted q v = ⟨body, true, u⟩) (hclose' : readQuoted q v' = ⟨body', true, u'⟩)
    (henters : Enters (c :: rest) q v) (hquote : isQuote q = true)
    (h' : Scans (y ++ q :: v') tokens' []) :
    ∃ t' mid' more, tokens' = t' :: more ∧ Scans mid' more [] ∧ t.blind = t'.blind ∧
      (mid = u ∧ mid' = u' ∨ ∃ z, mid = z ++ q :: v ∧ mid' = z ++ q :: v') := by
  obtain ⟨rest', hrest'⟩ : ∃ rest', y ++ q :: v' = c :: rest' := by
    rcases eq_cons_of_append_eq_cons hrest.symm with ⟨rfl, rfl, -⟩ | ⟨z, rfl, -⟩
    · exact ⟨v', rfl⟩
    · exact ⟨z ++ q :: v', rfl⟩
  rw [hrest'] at h'
  generalize hlast : ([] : List Char) = last at h'
  cases h' with
  | done => cases hlast
  | @cons _ _ mid' _ t' more hread' hscan' =>
      subst hlast
      refine ⟨t', mid', more, rfl, hscan', ?_⟩
      -- Where the token opens the section of the literal, it goes to the end of the literal.
      have hopening : ∀ w, Opens (c :: rest) q (w ++ v) → Begins q w →
          t.blind = t'.blind ∧ mid = u ∧ mid' = u' := by
        intro w hopens hbegins
        have hopens' : Opens (c :: rest') q (w ++ v') := by
          rw [hrest] at hopens
          rw [← hrest']
          exact hopens.change v'
        have hmid := (hopens.reads hread).2
        have hmid' := (hopens'.reads hread').2
        rw [hbegins, hclose] at hmid
        rw [hbegins, hclose'] at hmid'
        exact ⟨hopens.blind_eq hopens' hq hread hread', hmid, hmid'⟩
      rcases eq_cons_of_append_eq_cons hrest.symm with ⟨rfl, rfl, rfl⟩ | ⟨z, rfl, rfl⟩
      · obtain ⟨hblind, hmid⟩ := hopening [] (.quote hquote _) (.nil q)
        exact ⟨hblind, .inl hmid⟩
      cases hrest'
      generalize hcs : c :: (z ++ q :: v) = cs at henters
      cases henters with
      | @opens _ w _ _ hopens hbegins =>
          subst hcs
          obtain ⟨hblind, hmid⟩ := hopening w hopens hbegins
          exact ⟨hblind, .inl hmid⟩
      | step hread₀ henters =>
          cases hcs
          obtain ⟨rfl, rfl⟩ := hread₀.unique hread
          rcases suffix_cases hread.suffix with hmid | ⟨x, rfl⟩
          · exact absurd henters.length_lt (Nat.not_lt.mpr hmid.length_le)
          · obtain ⟨rfl, rfl⟩ := (hread.change hquote v').unique hread'
            exact ⟨rfl, .inr ⟨x, rfl, rfl⟩⟩

/-- **Texts alike have tokens alike** where all literals are entered: up to the bodies of
strings, the tokens are the same. -/
theorem Scans.blind_eq {cs last : List Char} {tokens tokens' : List Token}
    (h : Scans cs tokens last) (hlast : last = []) {x : List Char} {ps ps' : List Piece}
    (hcs : cs = x ++ ps.flatMap Piece.kept) (hwell : WellQuoted ps) (hwell' : WellQuoted ps')
    (halike : ps.map Piece.blind = ps'.map Piece.blind) (henters : EntersAll cs ps)
    (h' : Scans (x ++ ps'.flatMap Piece.kept) tokens' []) :
    tokens.map Token.blind = tokens'.map Token.blind := by
  induction h generalizing x ps ps' tokens' with
  | done cs =>
      subst hlast
      obtain ⟨rfl, hnil⟩ := List.append_eq_nil_iff.mp hcs.symm
      rcases eq_or_exists_literal halike with rfl | ⟨before, q, body, -, after, -, -, rfl, -, -⟩
      · rw [hnil] at h'
        rw [(Scans.done []).unique h']
      · rw [List.flatMap_append, flatMap_kept_quoted] at hnil
        simp at hnil
  | @cons c rest mid last t tokens hread hscan ih =>
      rcases eq_or_exists_literal halike with
        rfl | ⟨before, q, body, body', after, after', hq, rfl, rfl, hafter⟩
      · subst hlast
        rw [← hcs] at h'
        rw [(Scans.cons hread hscan).unique h']
      have hclose := hwell.read rfl
      have hclose' := hwell'.read rfl
      have htext := hcs
      rw [List.flatMap_append, flatMap_kept_quoted, ← List.append_assoc] at htext h'
      obtain ⟨t', mid', more, rfl, hscan', hblind, hmid⟩ := hread.blind_step htext hq hclose
        hclose' (henters before q body after hq rfl) (hwell before q body after rfl).1 h'
      rw [List.map_cons, List.map_cons, hblind]
      congr 1
      rcases hmid with ⟨hmid, rfl⟩ | ⟨z, hmid, rfl⟩
      · -- Behind the literal, the texts are alike again.
        rw [List.append_cons] at hwell hwell' henters
        exact ih (x := []) hlast hmid hwell.append_right hwell'.append_right hafter
          (henters.tail (z := []) hwell hread hmid) hscan'
      · -- In front of the literal, they are still the same up to it.
        rw [← flatMap_kept_quoted] at hmid hscan'
        exact ih hlast hmid hwell.append_right hwell'.append_right
          (by rw [List.map_cons, List.map_cons, Piece.blind_literal hq, Piece.blind_literal hq,
            hafter])
          (henters.tail hwell hread hmid) hscan'

/-! ### Another body for a literal -/

section

variable {q : Char} {x y v : List Char}

/-- What is dropped in front of a quote does not depend on what stands behind it. -/
theorem dropWhile_change {p : Char → Bool} (h : (y ++ q :: v).dropWhile p = x ++ q :: v)
    (v' : List Char) :
    (y ++ q :: v').dropWhile p = x ++ q :: v' ∧
      (y ++ q :: v').takeWhile p = (y ++ q :: v).takeWhile p := by
  induction y with
  | nil =>
      by_cases hp : p q = true
      · rw [List.nil_append, List.dropWhile_cons_of_pos hp] at h
        have hsuffix := List.dropWhile_suffix p (l := v)
        rw [h] at hsuffix
        exact absurd hsuffix (not_suffix_append x q v)
      · rw [List.nil_append, List.dropWhile_cons_of_neg hp] at h
        obtain rfl : [] = x := (List.append_left_inj (q :: v)).mp h
        simp [hp]
  | cons a y ih =>
      by_cases hp : p a = true
      · rw [List.cons_append, List.dropWhile_cons_of_pos hp] at h
        obtain ⟨hdrop, htake⟩ := ih h
        simp [hp, hdrop, htake]
      · rw [List.cons_append, List.dropWhile_cons_of_neg hp] at h
        obtain rfl : a :: y = x := (List.append_left_inj (q :: v)).mp h
        simp [hp]

theorem opensDashComment_change (y : List Char) (q : Char) (v v' : List Char) :
    opensDashComment (y ++ q :: v) = opensDashComment (y ++ q :: v') := by
  cases y <;> rfl

variable (hq : isQuote q = true)

include hq

/-- A text that goes on to a quote and starts with another character starts with it in front
of the quote. -/
theorem exists_cons_of_isQuote {c : Char} {after : List Char} (h : y ++ q :: v = c :: after)
    (hc : isQuote c = false) : ∃ z, y = c :: z ∧ after = z ++ q :: v := by
  rcases eq_cons_of_append_eq_cons h with ⟨-, rfl, -⟩ | hz
  · rw [hq] at hc
    cases hc
  · exact hz

/-- A block comment that ends in front of a quote does not depend on what stands behind it. -/
theorem readBlock_change (h : (readBlock (y ++ q :: v)).2.2 = x ++ q :: v) (v' : List Char) :
    readBlock (y ++ q :: v') =
      ((readBlock (y ++ q :: v)).1, (readBlock (y ++ q :: v)).2.1, x ++ q :: v') := by
  induction y with
  | nil =>
      have hopen : ¬(q = '*' ∧ ∃ after, v = '/' :: after) := by
        rintro ⟨rfl, -⟩
        cases hq
      rw [List.nil_append, readBlock_cons hopen] at h
      have hsource := source_readBlock v
      dsimp only at h
      rw [h] at hsource
      exact absurd ⟨_, hsource⟩ (not_suffix_append x q v)
  | cons a y ih =>
      by_cases hend : a = '*' ∧ ∃ z, y = '/' :: z
      · obtain ⟨rfl, z, rfl⟩ := hend
        obtain rfl : z = x := (List.append_left_inj (q :: v)).mp h
        rfl
      · have hopen : ∀ w : List Char, ¬(a = '*' ∧ ∃ after, y ++ q :: w = '/' :: after) := by
          rintro w ⟨ha, after, hafter⟩
          obtain ⟨z, hz, -⟩ := exists_cons_of_isQuote hq hafter (by decide)
          exact hend ⟨ha, z, hz⟩
        rw [List.cons_append, readBlock_cons (hopen v)] at h
        rw [List.cons_append, List.cons_append, readBlock_cons (hopen v),
          readBlock_cons (hopen v'), ih h]

/-- **A piece that ends in front of a quote** does not depend on what stands behind it. -/
theorem Cuts.change {versioned versioned' : Bool} {c : Char} {p : Piece}
    (h : Cuts versioned c (y ++ q :: v) ⟨p, versioned', x ++ q :: v⟩) (v' : List Char) :
    Cuts versioned c (y ++ q :: v') ⟨p, versioned', x ++ q :: v'⟩ := by
  generalize hrest : y ++ q :: v = rest at h
  generalize hstep : (⟨p, versioned', x ++ q :: v⟩ : PieceStep) = step at h
  cases h with
  | quoted hquote =>
      obtain ⟨rfl, rfl, hlast⟩ := PieceStep.mk.inj hstep
      subst hrest
      have hclosed : (readQuoted c (y ++ q :: v)).closed = true := by
        by_contra hnot
        rw [(readQuoted_of_not_closed (by simpa using hnot)).2] at hlast
        simp at hlast
      have hread := readQuoted_change hquote hclosed hlast.symm v'
      have hnew : Cuts versioned' c (y ++ q :: v') _ := .quoted hquote
      rw [hread] at hnew
      rwa [hclosed]
  | hash hc =>
      obtain ⟨rfl, rfl, hlast⟩ := PieceStep.mk.inj hstep
      subst hrest
      obtain ⟨hdrop, htake⟩ := dropWhile_change hlast.symm v'
      have hnew : Cuts versioned' c (y ++ q :: v') _ := .hash hc
      rwa [hdrop, htake] at hnew
  | version hc hafter =>
      obtain ⟨rfl, rfl, hlast⟩ := PieceStep.mk.inj hstep
      subst hafter
      obtain ⟨z, rfl, hz⟩ := exists_cons_of_isQuote hq hrest (by decide)
      obtain ⟨z, rfl, rfl⟩ := exists_cons_of_isQuote hq hz.symm (by decide)
      obtain ⟨hdrop, htake⟩ := dropWhile_change hlast.symm v'
      have hnew : Cuts versioned c ('*' :: '!' :: (z ++ q :: v')) _ := .version hc rfl
      rwa [hdrop, htake] at hnew
  | block hc hafter hbang =>
      obtain ⟨rfl, rfl, hlast⟩ := PieceStep.mk.inj hstep
      subst hafter
      obtain ⟨z, rfl, rfl⟩ := exists_cons_of_isQuote hq hrest (by decide)
      have hread := readBlock_change hq hlast.symm v'
      rw [head?_append_cons z q v v'] at hbang
      have hnew : Cuts versioned' c ('*' :: (z ++ q :: v')) _ := .block hc rfl hbang
      rwa [hread] at hnew
  | close hc hafter hopen =>
      obtain ⟨rfl, rfl, hlast⟩ := PieceStep.mk.inj hstep
      subst hafter
      obtain ⟨z, rfl, rfl⟩ := exists_cons_of_isQuote hq hrest (by decide)
      obtain rfl := (List.append_left_inj (q :: v)).mp hlast
      exact .close hc rfl hopen
  | dashes hc hafter hdash =>
      obtain ⟨rfl, rfl, hlast⟩ := PieceStep.mk.inj hstep
      subst hafter
      obtain ⟨z, rfl, rfl⟩ := exists_cons_of_isQuote hq hrest (by decide)
      obtain ⟨hdrop, htake⟩ := dropWhile_change hlast.symm v'
      rw [opensDashComment_change z q v v'] at hdash
      have hnew : Cuts versioned' c ('-' :: (z ++ q :: v')) _ := .dashes hc rfl hdash
      rwa [hdrop, htake] at hnew
  | minus hc hafter hdash =>
      obtain ⟨rfl, rfl, hlast⟩ := PieceStep.mk.inj hstep
      subst hafter
      obtain ⟨z, rfl, rfl⟩ := exists_cons_of_isQuote hq hrest (by decide)
      rw [← List.cons_append] at hlast
      obtain rfl := (List.append_left_inj (q :: v)).mp hlast
      rw [opensDashComment_change z q v v'] at hdash
      exact .minus hc rfl hdash
  | plain hquote hhash hslash hstar hminus =>
      obtain ⟨rfl, rfl, hlast⟩ := PieceStep.mk.inj hstep
      subst hrest
      obtain rfl := (List.append_left_inj (q :: v)).mp hlast
      rw [head?_append_cons x q v v'] at hslash hstar hminus
      exact .plain hquote hhash hslash hstar hminus

end

/-! ### Texts alike -/

/-- The segments of a piece are the text that stays of it. -/
theorem Piece.source_segments (p : Piece) :
    p.segments.flatMap Segment.source = p.kept := by
  cases p <;> simp [Piece.segments, Piece.kept, Segment.source]

end SqlGateway.Sql
