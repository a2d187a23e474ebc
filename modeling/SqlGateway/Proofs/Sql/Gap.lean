import SqlGateway.Proofs.Sql.Seam
import SqlGateway.Proofs.Text.Spread

/-!
# Gaps Between Words

Between the words of a statement stand blanks and comments. Whatever stands there, a blank is left
when comments are removed: a block comment leaves a space, and a comment to the end of its line
leaves the line break. So words with such gaps between them become words with blanks between them,
and what stands in front of them and behind them comes no closer.

## Main results

* `exists_pieces_gap`: what is left of a gap.
* `exists_stripComments_spread`: what is left of a text in which words are spread.
-/

namespace SqlGateway.Sql

open Text

/-! ### Gaps -/

/-- One part of a gap: a blank, a block comment that is not versioned, or a comment to the end of
its line with the line break. -/
inductive IsFiller : List Char → Prop
  | blank {c : Char} (h : isBlank c = true) : IsFiller [c]
  | block {body : List Char} (h : IsCommentBody body) :
      IsFiller ('/' :: '*' :: (body ++ ['*', '/']))
  | hash {body : List Char} (h : '\n' ∉ body) : IsFiller ('#' :: (body ++ ['\n']))
  | dashes {body : List Char} (h : '\n' ∉ body)
      (hdash : opensDashComment (body ++ ['\n']) = true) :
      IsFiller ('-' :: '-' :: (body ++ ['\n']))

/-- A gap: blanks and comments, at least one of them. -/
inductive IsGap : List Char → Prop
  | one {filler : List Char} (h : IsFiller filler) : IsGap filler
  | cons {filler gap : List Char} (h : IsFiller filler) (hgap : IsGap gap) :
      IsGap (filler ++ gap)

/-- A blank is a piece of its own. -/
theorem pieces_blank {c : Char} (hc : isBlank c = true) (versioned : Bool) (u : List Char) :
    pieces versioned (c :: u) = .plain c :: pieces versioned u := by
  have hne : ∀ d, isBlank d = false → c ≠ d := by
    rintro d hd rfl
    rw [hc] at hd
    cases hd
  have hquote : isQuote c = false := by
    simp [isQuote, hne '\'' (by decide), hne '"' (by decide), hne '`' (by decide)]
  have hcuts : Cuts versioned c u ⟨.plain c, versioned, u⟩ :=
    .plain hquote (hne '#' (by decide)) (fun h => absurd h (hne '/' (by decide)))
      (fun h => absurd h (hne '*' (by decide))) fun h => absurd h (hne '-' (by decide))
  rw [pieces, nextPiece_eq_iff.mpr hcuts]

/-- **A part of a gap leaves a blank**, whatever stands behind it. -/
theorem exists_pieces_filler {filler : List Char} (h : IsFiller filler) :
    ∃ ps, (∀ versioned u, pieces versioned (filler ++ u) = ps ++ pieces versioned u) ∧
      IsBlanks (ps.flatMap Piece.kept) := by
  have hbreak : ∀ {body : List Char}, '\n' ∉ body → ∀ u : List Char,
      (body ++ '\n' :: u).takeWhile (· != '\n') = body ∧
        (body ++ '\n' :: u).dropWhile (· != '\n') = '\n' :: u := by
    intro body hbody u
    have hrun : ∀ c ∈ body, (c != '\n') = true := fun c hc => by
      rw [bne_iff_ne]
      rintro rfl
      exact hbody hc
    exact ⟨takeWhile_run hrun (by simp), dropWhile_run hrun (by simp)⟩
  cases h with
  | @blank c hc =>
      exact ⟨[.plain c], pieces_blank hc, List.cons_ne_nil _ _, List.forall_mem_singleton.mpr hc⟩
  | @block body hbody =>
      refine ⟨[.blockComment body true], fun versioned u => ?_, List.cons_ne_nil _ _,
        isBlank_of_mem_space⟩
      have hbang : (body ++ '*' :: '/' :: u).head? ≠ some '!' :=
        head?_append_ne hbody.not_versioned fun _ => by simp
      have hcuts : Cuts versioned '/' ('*' :: (body ++ '*' :: '/' :: u)) _ :=
        .block rfl rfl hbang
      rw [readBlock_of_not_closed_body hbody.not_closed u] at hcuts
      have happ : '/' :: '*' :: (body ++ ['*', '/']) ++ u =
        '/' :: '*' :: (body ++ '*' :: '/' :: u) := by simp
      rw [happ, pieces, nextPiece_eq_iff.mpr hcuts]
      rfl
  | @hash body hbody =>
      refine ⟨[.lineComment ('#' :: body), .plain '\n'], fun versioned u => ?_,
        List.cons_ne_nil _ _, List.forall_mem_singleton.mpr (by decide)⟩
      obtain ⟨htake, hdrop⟩ := hbreak hbody u
      have hcuts : Cuts versioned '#' (body ++ '\n' :: u) _ := .hash rfl
      rw [htake, hdrop] at hcuts
      have happ : '#' :: (body ++ ['\n']) ++ u = '#' :: (body ++ '\n' :: u) := by simp
      rw [happ, pieces, nextPiece_eq_iff.mpr hcuts, pieces_blank (by decide)]
      rfl
  | @dashes body hbody hdash =>
      refine ⟨[.lineComment ('-' :: '-' :: body), .plain '\n'], fun versioned u => ?_,
        List.cons_ne_nil _ _, List.forall_mem_singleton.mpr (by decide)⟩
      obtain ⟨htake, hdrop⟩ := hbreak hbody u
      have hopens : opensDashComment (body ++ '\n' :: u) = true := by
        cases body with
        | nil => rfl
        | cons d body => exact hdash
      have hcuts : Cuts versioned '-' ('-' :: (body ++ '\n' :: u)) _ := .dashes rfl rfl hopens
      rw [htake, hdrop] at hcuts
      have happ : '-' :: '-' :: (body ++ ['\n']) ++ u = '-' :: '-' :: (body ++ '\n' :: u) := by
        simp
      rw [happ, pieces, nextPiece_eq_iff.mpr hcuts, pieces_blank (by decide)]
      rfl

/-- **A gap leaves blanks.** -/
theorem exists_pieces_gap {gap : List Char} (h : IsGap gap) :
    ∃ ps, (∀ versioned u, pieces versioned (gap ++ u) = ps ++ pieces versioned u) ∧
      IsBlanks (ps.flatMap Piece.kept) := by
  induction h with
  | one h => exact exists_pieces_filler h
  | cons h _ ih =>
      obtain ⟨ps, hps, hne, hblank⟩ := exists_pieces_filler h
      obtain ⟨qs, hqs, -, hblank'⟩ := ih
      refine ⟨ps ++ qs, fun versioned u => ?_, ?_, ?_⟩
      · rw [List.append_assoc, hps, hqs, List.append_assoc]
      · simpa using fun hnil => absurd hnil (by simpa using hne)
      · rw [List.flatMap_append]
        exact List.forall_mem_append.mpr ⟨hblank, hblank'⟩

/-! ### Words -/

/-- The characters of a plain word are pieces of their own. -/
theorem pieces_word {w : List Char} (hw : ∀ c ∈ w, c.toNat < 0x80 ∧ isWordChar c = true)
    (versioned : Bool) (u : List Char) :
    pieces versioned (w ++ u) = w.map .plain ++ pieces versioned u := by
  induction w with
  | nil => rfl
  | cons c w ih =>
      obtain ⟨⟨hascii, hword⟩, hw⟩ := List.forall_mem_cons.mp hw
      have hplain := of_ascii (p := fun c => isWordChar c = true → isQuote c = false ∧ c ≠ '#' ∧
        c ≠ '/' ∧ c ≠ '*' ∧ c ≠ '-') (by decide) hascii hword
      obtain ⟨hquote, hhash, hslash, hstar, hminus⟩ := hplain
      have hcuts : Cuts versioned c (w ++ u) ⟨.plain c, versioned, w ++ u⟩ :=
        .plain hquote hhash (fun h => absurd h hslash) (fun h => absurd h hstar)
          fun h => absurd h hminus
      rw [List.cons_append, pieces, nextPiece_eq_iff.mpr hcuts, List.map_cons, List.cons_append]
      exact congrArg _ (ih hw)

theorem flatMap_kept_map_plain (w : List Char) : (w.map Piece.plain).flatMap Piece.kept = w := by
  rw [List.flatMap_map]
  exact List.flatMap_singleton' w

/-- **Words with gaps between them leave words with blanks between them.** -/
theorem exists_pieces_spread {ws : List (List Char)} {phrase : List Char}
    (h : Spread IsGap ws phrase) (hws : ∀ w ∈ ws, IsPlainWord w) :
    ∃ ps, (∀ versioned u, pieces versioned (phrase ++ u) = ps ++ pieces versioned u) ∧
      Spread IsBlanks ws (ps.flatMap Piece.kept) := by
  induction h with
  | last w =>
      have hw := hws w List.mem_cons_self
      refine ⟨w.map .plain, pieces_word fun c hc => hw.of_mem hc, ?_⟩
      rw [flatMap_kept_map_plain]
      exact .last w
  | @cons w gap _ _ hgap _ ih =>
      have hw := hws w List.mem_cons_self
      obtain ⟨ps, hps, hblanks⟩ := exists_pieces_gap hgap
      obtain ⟨qs, hqs, hspread⟩ := ih fun w' hw' => hws w' (List.mem_cons_of_mem w hw')
      refine ⟨w.map .plain ++ (ps ++ qs), fun versioned u => ?_, ?_⟩
      · rw [List.append_assoc, pieces_word fun c hc => hw.of_mem hc, List.append_assoc, hps, hqs]
        simp
      · rw [List.flatMap_append, List.flatMap_append, flatMap_kept_map_plain]
        exact .cons hblanks hspread

/-! ### What is left around them -/

/-- A piece that is not open leaves its last character or a space. -/
theorem Piece.getLast?_kept {p : Piece} (h : p.isOpen = false) :
    p.kept ≠ [] ∧ ∀ c ∈ p.kept.getLast?, c = ' ' ∨ p.source.getLast? = some c := by
  cases p with
  | lineComment => cases h
  | plain d => exact ⟨List.cons_ne_nil _ _, fun c hc => .inr hc⟩
  | quoted quote body closed => exact ⟨List.cons_ne_nil _ _, fun c hc => .inr hc⟩
  | minus =>
      refine ⟨List.cons_ne_nil _ _, fun c hc => .inl ?_⟩
      exact (Option.some.inj hc).symm
  | blockComment body closed =>
      exact ⟨List.cons_ne_nil _ _, fun c hc => .inl (Option.some.inj hc).symm⟩
  | versionOpen digits =>
      exact ⟨List.cons_ne_nil _ _, fun c hc => .inl (Option.some.inj hc).symm⟩
  | versionClose =>
      exact ⟨List.cons_ne_nil _ _, fun c hc => .inl (Option.some.inj hc).symm⟩

/-- The text `u` starts outside quotes behind `before`. -/
def Outside (before u : List Char) : Prop :=
  ∃ front, segments (before ++ u) = front ++ segments u

/-- **What is left of a text in which words are spread**: the words with blanks between them,
outside quotes, and in front of them and behind them what stands there in the text, or a blank. -/
theorem exists_stripComments_spread {front phrase : List Char} {ws : List (List Char)}
    (hfront : endsUnquoted front = true) (hws : ∀ w ∈ ws, IsPlainWord w)
    (h : Spread IsGap ws phrase) (rest : List Char) :
    ∃ before phrase' after, stripComments (front ++ (phrase ++ rest)) =
        before ++ (phrase' ++ after) ∧
      Spread IsBlanks ws phrase' ∧ Outside before (phrase' ++ after) ∧
      (∀ c ∈ before.getLast?, c = ' ' ∨ front.getLast? = some c) ∧
      ∀ c ∈ after.head?, c = ' ' ∨ c = '\n' ∨ rest.head? = some c := by
  obtain ⟨d, more, hhead, hascii, hword, hdigit⟩ := h.exists_head hws rest
  obtain ⟨hapart, hminus, hdash⟩ := of_ascii (p := fun d => isWordChar d = true →
    d.isDigit = false → standsApart d = true ∧ d ≠ '-' ∧ opensDashComment [d] = false)
    (by decide) hascii hword hdigit
  obtain ⟨before, versioned, hclosed, happend⟩ := exists_pieces_append hfront hminus hdash
    fun earlier last heq hopen => by
      obtain ⟨c, rest', -, hcuts, -⟩ := pieces_append_last heq
      rw [heq, List.foldl_concat]
      exact hcuts.endsBefore_of_standsApart hopen hapart
  obtain ⟨ps, hps, hspread⟩ := exists_pieces_spread h hws
  have hpieces := happend (phrase ++ rest) (by rw [hhead]; rfl)
  have hsource : before.flatMap Piece.source = front := by
    have htext := congrArg (List.flatMap Piece.source) hpieces
    rw [List.flatMap_append, Piece.source_pieces, Piece.source_pieces] at htext
    exact (List.append_cancel_right htext).symm
  refine ⟨before.flatMap Piece.kept, ps.flatMap Piece.kept,
    (pieces versioned rest).flatMap Piece.kept, ?_, hspread, ?_, ?_, ?_⟩
  · rw [stripComments, hpieces, hps, List.flatMap_append, List.flatMap_append]
  · refine ⟨before.flatMap Piece.segments, ?_⟩
    have hall := segments_stripComments (front ++ (phrase ++ rest))
    rw [stripComments, hpieces, List.flatMap_append, List.flatMap_append, ← segments_kept,
      hps, List.flatMap_append] at hall
    exact hall
  · intro c hc
    rcases List.eq_nil_or_concat before with rfl | ⟨earlier, last, rfl⟩
    · cases hc
    · obtain ⟨hne, hlast⟩ := Piece.getLast?_kept (hclosed last (by simp))
      simp only [List.concat_eq_append, List.flatMap_append, List.flatMap_singleton] at hc hsource
      rw [List.getLast?_append_of_ne_nil _ hne] at hc
      refine (hlast c hc).imp_right fun hlast => ?_
      simp [← hsource, List.getLast?_append, hlast]
  · intro c hc
    by_cases hspace : c = ' '
    · exact .inl hspace
    by_cases hbreak : c = '\n'
    · exact .inr (.inl hbreak)
    · exact .inr (.inr (head?_kept hspace hbreak hc))

end SqlGateway.Sql
