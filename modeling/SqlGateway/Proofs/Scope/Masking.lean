import SqlGateway.Proofs.Sql.Stripping
import SqlGateway.Scope.Reference

/-!
# What Masking Leaves of a Text

Masking removes comments, empties string literals and blanks variables out; it drops the
backticks of an identifier and keeps what stands between them. So a text without the
characters that open any of these stays as it is, and a name in backticks becomes part of the
text around it, whatever characters it has.

## Main results

* `maskQuotes_append`, `maskQuotes_backticks`: what masking leaves, part by part.
* `blankVariables_append`: what blanking out variables leaves, up to the first of them.
* `exists_piece_append`: what stands in the first piece of a text.
* `mem_pieces_of_isPlain`: texts that are searched as they are.
-/

namespace SqlGateway.Scope

open Text Sql

/-- A text with its comments removed, its string literals emptied and its backticks dropped:
what masking leaves before it comes to the variables. -/
def maskQuotes (cs : List Char) : List Char :=
  (maskLiterals (stripComments cs)).filter (· != '`')

theorem maskSql_eq (sql : String) : maskSql sql = blankVariables (maskQuotes sql.toList) :=
  rfl

/-- Whether a character opens no comment, no quoted section and no variable. -/
def isUnmasked (c : Char) : Bool :=
  !isQuote c && c != '#' && c != '/' && c != '-' && c != '@'

/-- The characters that open a comment, a quoted section or a variable, and the one that ends a
piece. -/
def markCharacters : List Char :=
  ['\'', '"', '`', '#', '/', '-', '@', ';']

/-- Whether a character stays wherever it stands and ends no piece. -/
def isPlain (c : Char) : Bool :=
  !markCharacters.contains c

theorem isUnmasked_of_isPlain {c : Char} (h : isPlain c = true) : isUnmasked c = true := by
  simp only [isPlain, markCharacters, List.contains_cons, List.contains_nil, Bool.not_eq_true',
    Bool.or_eq_false_iff] at h
  simp [isUnmasked, isQuote, bne, h]

/-- A character of a kind that none of the special characters has is plain. -/
theorem isPlain_of_kind {kind : Char → Bool} (hkind : markCharacters.any kind = false) {c : Char}
    (h : kind c = true) : isPlain c = true := by
  by_contra hplain
  rw [isPlain, Bool.not_eq_true', Bool.not_eq_false, List.contains_iff_mem] at hplain
  exact List.any_eq_false.mp hkind c hplain h

theorem isPlain_of_isNameChar {c : Char} (h : isNameChar c = true) : isPlain c = true :=
  isPlain_of_kind (by decide) h

theorem isPlain_of_isBlank {c : Char} (h : isBlank c = true) : isPlain c = true :=
  isPlain_of_kind (by decide) h

theorem mark_notMem {mark : Char} (hmark : mark ∈ markCharacters) {cs : List Char}
    (hcs : ∀ c ∈ cs, isPlain c = true) : mark ∉ cs := by
  intro hmem
  have hplain := hcs mark hmem
  rw [isPlain, List.contains_iff_mem.mpr hmark] at hplain
  cases hplain

@[simp] theorem maskQuotes_nil : maskQuotes [] = [] := by
  simp [maskQuotes, stripComments, pieces, maskLiterals, segments]

/-- Comments are removed behind a text that opens none. -/
theorem stripComments_append_of_isUnmasked {a : List Char}
    (ha : ∀ c ∈ a, isUnmasked c = true) (b : List Char) :
    stripComments (a ++ b) = a ++ stripComments b := by
  induction a with
  | nil => rfl
  | cons c a ih =>
      obtain ⟨hc, ha⟩ := List.forall_mem_cons.mp ha
      simp only [isUnmasked, Bool.and_eq_true, Bool.not_eq_true', bne_iff_ne] at hc
      obtain ⟨⟨⟨⟨hquote, hhash⟩, hslash⟩, hminus⟩, -⟩ := hc
      have hcuts : Cuts false c (a ++ b) ⟨.plain c, false, a ++ b⟩ :=
        .plain hquote hhash (fun h => absurd h hslash) (fun _ _ => rfl) (fun h => absurd h hminus)
      have hstrip := ih ha
      rw [stripComments] at hstrip ⊢
      rw [List.cons_append, pieces, nextPiece_eq_iff.mpr hcuts, List.flatMap_cons, hstrip]
      rfl

/-- **A text that opens nothing stays**, and masking goes on behind it. -/
theorem maskQuotes_append {a : List Char} (ha : ∀ c ∈ a, isUnmasked c = true) (b : List Char) :
    maskQuotes (a ++ b) = a ++ maskQuotes b := by
  have hquote : ∀ c ∈ a, isQuote c = false := by
    intro c hc
    have := ha c hc
    simp only [isUnmasked, Bool.and_eq_true, Bool.not_eq_true'] at this
    exact this.1.1.1.1
  have hbacktick : ∀ c ∈ a, (c != '`') = true := by
    intro c hc
    have := hquote c hc
    simp only [isQuote, Bool.or_eq_false_iff] at this
    simpa using this.2
  have hmap (a : List Char) : (a.map Segment.plain).flatMap Segment.mask = a := by
    induction a with
    | nil => rfl
    | cons c a ih => rw [List.map_cons, List.flatMap_cons, ih, Segment.mask, List.singleton_append]
  rw [maskQuotes, stripComments_append_of_isUnmasked ha, maskLiterals, segments_append hquote,
    List.flatMap_append, hmap, List.filter_append, List.filter_eq_self.mpr hbacktick]
  rfl

/-- A text without backticks is the body of a section in backticks. -/
theorem isBody_backtick {body : List Char} (h : '`' ∉ body) : IsBody '`' body := by
  induction body with
  | nil =>
      intro rest hrest
      exact readQuoted_quote (by decide) hrest
  | cons c body ih =>
      obtain ⟨hc, hbody⟩ := not_or.mp (List.mem_cons.not.mp h)
      exact (ih hbody).cons (Ne.symm hc) fun _ => rfl

/-- **A name in backticks stays without them**, whatever characters it has. -/
theorem maskQuotes_backticks {name : List Char} (hname : '`' ∉ name) {b : List Char}
    (hb : b.head? ≠ some '`') :
    maskQuotes ('`' :: (name ++ '`' :: b)) = name ++ maskQuotes b := by
  have hquote : isQuote '`' = true := by decide
  have hread := isBody_backtick hname b hb
  have hcuts : Cuts false '`' (name ++ '`' :: b) ⟨.quoted '`' name true, false, b⟩ := by
    have hsection : Cuts false '`' (name ++ '`' :: b) _ := .quoted hquote
    rwa [hread] at hsection
  have hstrip : stripComments ('`' :: (name ++ '`' :: b)) =
      quotedSource '`' name true ++ stripComments b := by
    rw [stripComments, pieces, nextPiece_eq_iff.mpr hcuts, List.flatMap_cons]
    rfl
  have hhead : (stripComments b).head? ≠ some '`' := fun h => hb (head?_kept_of_isQuote hquote h)
  have hfilter : name.filter (· != '`') = name := by
    refine List.filter_eq_self.mpr fun c hc => ?_
    rw [bne_iff_ne]
    rintro rfl
    exact hname hc
  rw [maskQuotes, hstrip, maskLiterals, segments_quotedSource hquote (isBody_backtick hname) hhead,
    List.flatMap_cons, List.filter_append]
  simp only [Segment.mask, beq_self_eq_true, if_true, quotedSource, List.filter_append,
    List.cons_append, List.filter_cons, bne_self_eq_false, Bool.false_eq_true, if_false, hfilter,
    List.filter_nil, List.append_nil]
  rfl

/-! ### Variables -/

/-- No variable starts in a text without the sign of a variable. -/
theorem blankVariables_append {a : List Char} (ha : '@' ∉ a) (b : List Char) :
    blankVariables (a ++ b) = a ++ blankVariables b := by
  rw [blankVariables, blankVariables]
  induction a with
  | nil => rfl
  | cons c a ih =>
      obtain ⟨hc, ha⟩ := not_or.mp (List.mem_cons.not.mp ha)
      have hnone : variableName? none (c :: (a ++ b)) = none := by
        rw [variableName?]
        rintro _ hcons
        exact hc (List.cons.inj hcons).1.symm
      rw [List.cons_append, blankVariablesFrom, hnone]
      exact congrArg (c :: ·) (ih ha)

theorem blankVariables_eq_self {cs : List Char} (h : '@' ∉ cs) : blankVariables cs = cs := by
  have happend := blankVariables_append h []
  rw [List.append_nil] at happend
  exact happend.trans (List.append_nil cs)

/-- In place of a variable stands a blank. -/
theorem head?_blankVariables {cs : List Char} :
    ∀ c ∈ (blankVariables cs).head?, c ∈ cs.head? ∨ c = ' ' := by
  cases cs with
  | nil => simp [blankVariables, blankVariablesFrom]
  | cons d cs =>
      rw [blankVariables, blankVariablesFrom]
      split <;> simp

/-- **Texts that masking does not change.** -/
theorem maskSql_eq_self {cs : List Char} (h : ∀ c ∈ cs, isUnmasked c = true) :
    maskSql (String.ofList cs) = cs := by
  have hat : '@' ∉ cs := fun hmem => absurd (h '@' hmem) (by decide)
  have hquotes := maskQuotes_append h []
  rw [List.append_nil, maskQuotes_nil, List.append_nil] at hquotes
  rw [maskSql_eq, String.toList_ofList, hquotes, blankVariables_eq_self hat]

/-- A text without a semicolon is its own only piece. -/
theorem cutAt_eq_singleton {cs : List Char} (h : ';' ∉ cs) : cutAt (· == ';') cs = [cs] :=
  cutAt_of_forall fun _ hc => beq_false_of_ne (ne_of_mem_of_not_mem hc h)

/-- A text without a semicolon stands in the first piece, and what follows it there follows it
in the text. -/
theorem exists_piece_append {a : List Char} (ha : ';' ∉ a) (b : List Char) :
    ∃ more, a ++ more ∈ cutAt (· == ';') (a ++ b) ∧ ∀ c ∈ more.head?, c ∈ b.head? := by
  suffices hfirst : ∃ more pieces, cutAt (· == ';') (a ++ b) = (a ++ more) :: pieces ∧
      ∀ c ∈ more.head?, c ∈ b.head? by
    obtain ⟨more, pieces, heq, hhead⟩ := hfirst
    exact ⟨more, heq ▸ List.mem_cons_self, hhead⟩
  induction a with
  | nil =>
      cases b with
      | nil => exact ⟨[], [], rfl, by simp⟩
      | cons d b =>
          rw [List.nil_append, cutAt]
          split
          · exact ⟨[], _, rfl, by simp⟩
          · split
            · exact ⟨[d], [], rfl, by simp⟩
            · exact ⟨d :: _, _, rfl, by simp⟩
  | cons c a ih =>
      obtain ⟨hc, ha⟩ := not_or.mp (List.mem_cons.not.mp ha)
      obtain ⟨more, pieces, heq, hhead⟩ := ih ha
      refine ⟨more, pieces, ?_, hhead⟩
      rw [List.cons_append, cutAt, if_neg (by simpa using Ne.symm hc), heq]
      rfl

/-- **A text of plain characters** is searched as it is, in one piece. -/
theorem mem_pieces_of_isPlain {cs : List Char} (h : ∀ c ∈ cs, isPlain c = true) :
    cs ∈ cutAt (· == ';') (maskSql (String.ofList cs)) := by
  rw [maskSql_eq_self fun c hc => isUnmasked_of_isPlain (h c hc),
    cutAt_eq_singleton (mark_notMem (by decide) h)]
  exact List.mem_singleton_self cs

/-- `SELECT * FROM` and a blank. -/
def selectStart : List Char :=
  ['S', 'E', 'L', 'E', 'C', 'T', ' ', '*', ' ', 'F', 'R', 'O', 'M', ' ']

end SqlGateway.Scope
