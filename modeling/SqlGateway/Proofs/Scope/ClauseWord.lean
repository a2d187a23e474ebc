import SqlGateway.Proofs.Scope.QualifiedName
import SqlGateway.Proofs.Scope.Masking

/-!
# A Clause Word in Place of a Database

A clause word such as `ORDER` can be the name of a database if it stands in backticks, and
masking drops them. In `SELECT * FROM order.t` the walk through the tables ends before such a
word, since it starts no table there; the search for qualified names finds it if it starts like
a qualifier, and nothing else in the statement names a database.

## Main results

* `tablePlaces_of_clauseWord`: the walk gives no database and declares nothing.
* `eq_of_qualified?`: a qualified name is read in one place only.
* `pieceReferences_of_clauseWord`, `mem_pieceReferences_of_clauseWord`: a clause word is
  referenced exactly if it starts like a qualifier.
-/

namespace SqlGateway.Scope

open Text

/-! ### Table position -/

/-- A clause word has no dollar sign. -/
theorem isWordChar_of_isClauseWord {word : List Char} (hclause : isClauseWord word = true)
    (hword : ∀ c ∈ word, isNameChar c = true) : ∀ c ∈ word, isWordChar c = true := by
  intro c hc
  have hchar := hword c hc
  rw [isNameChar, Bool.or_eq_true, beq_iff_eq] at hchar
  refine hchar.resolve_right ?_
  rintro rfl
  have hdollar : ∀ w ∈ clauseWords, w.toList.contains '$' = false := by decide
  have hmem : String.ofList (upper word) ∈ clauseWords := List.contains_iff_mem.mp hclause
  have hnot := hdollar _ hmem
  rw [String.toList_ofList] at hnot
  have hupper : '$' ∈ upper word := List.mem_flatMap.mpr ⟨'$', hc, by decide⟩
  rw [List.contains_iff_mem.mpr hupper] at hnot
  cases hnot

/-- Behind or in front of an alias stands a parenthesis. -/
theorem paren_of_derivedAlias? {before : Option Char} {cs name rest : List Char}
    (h : derivedAlias? before cs = some (name, rest)) : '(' ∈ cs ∨ ')' ∈ cs := by
  unfold derivedAlias? at h
  split at h
  · exact .inr List.mem_cons_self
  · split at h
    · obtain ⟨⟨name', after⟩, hname, h⟩ := Option.bind_eq_some_iff.mp h
      obtain ⟨after', hgap, h⟩ := Option.bind_eq_some_iff.mp h
      obtain ⟨after'', hword, h⟩ := Option.bind_eq_some_iff.mp h
      split at h
      · rename_i last hlast
        obtain ⟨rfl, -⟩ := takeName?_eq_some_iff.mp hname
        obtain ⟨gap, rfl, -⟩ := dropBlanks?_eq_some_iff.mp hgap
        obtain ⟨word, rfl, -⟩ := dropLetters?_eq_some_iff.mp hword
        have hmem : '(' ∈ after'' :=
          (List.dropWhile_suffix isBlank).subset (hlast ▸ List.mem_cons_self)
        exact .inl (by simp [hmem])
      · cases h
    · cases h

/-- A text without parentheses has no derived tables. -/
theorem findAll_derivedAlias?_eq_nil {cs : List Char} (hopen : '(' ∉ cs) (hclose : ')' ∉ cs) :
    findAll derivedAlias? cs = [] := by
  refine findAll_eq_nil_iff.mpr fun pre c rest heq => Option.eq_none_iff_forall_not_mem.mpr ?_
  rintro ⟨name, after⟩ hread
  rw [heq] at hopen hclose
  rcases paren_of_derivedAlias? hread with h | h
  · exact hopen (List.mem_append_right _ h)
  · exact hclose (List.mem_append_right _ h)

/-- Places that give nothing, together with no derived tables, give nothing. -/
theorem tablePlaces_eq_nil {piece : List Char}
    (hplaces : ∀ places ∈ findAll tablePlace? piece, places = ⟨[], []⟩)
    (haliases : findAll derivedAlias? piece = []) : tablePlaces piece = ⟨[], []⟩ := by
  have hflat {β : Type} (f : TablePlaces → List β) (hf : f ⟨[], []⟩ = []) :
      (findAll tablePlace? piece).flatMap f = [] :=
    List.flatMap_eq_nil_iff.mpr fun places hmem => hplaces places hmem ▸ hf
  rw [tablePlaces, foldl_append, haliases, hflat _ rfl, hflat _ rfl]
  rfl

/-- Only word characters stand in a word. -/
theorem notMem_of_isWordChar {word : List Char} (hword : ∀ c ∈ word, isWordChar c = true)
    {c : Char} (hc : isWordChar c = false) : c ∉ word := by
  intro hmem
  rw [hword c hmem] at hc
  cases hc

/-- The places of a list that starts with a clause word. -/
theorem listedTables_of_clauseWord {cs : List Char}
    (h : ∀ item rest, tableItem? cs = some (item, rest) → isClauseWord item.first = true)
    (marker : String) (n : Nat) : listedTables marker n cs = ⟨[], []⟩ := by
  cases n with
  | zero => rfl
  | succ n =>
      rw [listedTables]
      split
      · rfl
      · rename_i item rest hitem
        rw [if_pos (h item rest hitem)]

/-- The first name of a list that is read. -/
theorem first_of_tableItem? {gap name rest after : List Char} {item : TableItem}
    (hgap : ∀ c ∈ gap, isBlank c = true) (hname : IsName name)
    (hrest : ∀ c ∈ rest.head?, isNameChar c = false)
    (h : tableItem? (gap ++ (name ++ rest)) = some (item, after)) : item.first = name := by
  have hfirst := takeName?_eq_some_iff.mpr ⟨rfl, hname.ne_nil, hname.isNameChar_of_mem, hrest⟩
  rw [tableItem?, dropWhile_run hgap (hname.isBlank_of_head rest), hfirst, Option.bind_eq_bind,
    Option.bind_some] at h
  obtain ⟨rfl, -⟩ := Prod.mk.inj (Option.some.inj h)
  rfl

variable {database table : List Char} (hdatabase : ∀ c ∈ database, isWordChar c = true)
  (hne : database ≠ []) (htable : ∀ c ∈ table, isWordChar c = true)

section

include hdatabase hne htable

/-- Where a word can end in the statement that reads: behind the table, behind the database, or
in front of a character of `SELECT * FROM` that is none of a word. -/
theorem cases_of_wordEnd {front after : List Char}
    (heq : selectStart ++ (database ++ '.' :: table) = front ++ after)
    (hafter : ∀ c ∈ after.head?, isWordChar c = false) :
    after = [] ∨ after = '.' :: table ∨
      ∃ s ∈ [[' '], [' ', 'F', 'R', 'O', 'M', ' '], ['*', ' ', 'F', 'R', 'O', 'M', ' '],
        [' ', '*', ' ', 'F', 'R', 'O', 'M', ' ']], after = s ++ (database ++ '.' :: table) := by
  have hnot {c : Char} {more : List Char} (hmore : after = c :: more)
      (hc : isWordChar c = true) : False := by
    rw [hafter c (by rw [hmore]; rfl)] at hc
    cases hc
  rcases List.append_eq_append_iff.mp heq with ⟨v, -, hv⟩ | ⟨s, hs, rfl⟩
  · rcases List.append_eq_append_iff.mp hv with ⟨w, -, hw⟩ | ⟨w, hw, rfl⟩
    · cases w with
      | nil => exact .inr (.inl hw.symm)
      | cons c w =>
          obtain ⟨-, rfl⟩ := List.cons.inj hw
          cases hcs : after with
          | nil => exact .inl rfl
          | cons d more =>
              exact (hnot hcs (htable d (by simp [hcs]))).elim
    · cases w with
      | nil => exact .inr (.inl rfl)
      | cons c w => exact (hnot rfl (hdatabase c (by simp [hw]))).elim
  · have hstart : ∀ s ∈ selectStart.tails, startsWord s = false → s = [] ∨
        s ∈ [[' '], [' ', 'F', 'R', 'O', 'M', ' '], ['*', ' ', 'F', 'R', 'O', 'M', ' '],
          [' ', '*', ' ', 'F', 'R', 'O', 'M', ' ']] := by
      decide
    cases s with
    | nil =>
        obtain ⟨c, more, rfl⟩ := List.exists_cons_of_ne_nil hne
        exact (hnot rfl (hdatabase c List.mem_cons_self)).elim
    | cons c s =>
        have hmem := (hstart (c :: s) ((List.mem_tails _ _).mpr ⟨front, hs.symm⟩)
          (hafter c rfl)).resolve_left (List.cons_ne_nil c s)
        exact .inr (.inr ⟨c :: s, hmem, rfl⟩)

/-- Behind a whole word no table is read, or one with a clause word in place of its first name. -/
theorem isClauseWord_of_tableItem? (hclause : isClauseWord database = true)
    {front after : List Char} (heq : selectStart ++ (database ++ '.' :: table) = front ++ after)
    (hafter : ∀ c ∈ after.head?, isWordChar c = false) :
    ∀ item rest, tableItem? after = some (item, rest) → isClauseWord item.first = true := by
  intro item rest hitem
  -- a point and a star start no name
  have hnone {gap cs : List Char} {c : Char} (hgap : ∀ d ∈ gap, isBlank d = true)
      (hblank : isBlank c = false) (hc : isNameChar c = false)
      (hitem : tableItem? (gap ++ c :: cs) = some (item, rest)) :
      isClauseWord item.first = true := by
    rw [tableItem?_eq_none hgap hblank hc] at hitem
    cases hitem
  rcases cases_of_wordEnd hdatabase hne htable heq hafter with rfl | rfl | ⟨s, hs, rfl⟩
  · cases hitem
  · exact hnone (List.forall_mem_nil _) (by decide) (by decide) hitem
  · simp only [List.mem_cons, List.not_mem_nil, or_false] at hs
    rcases hs with rfl | rfl | rfl | rfl
    · have hname : IsName database :=
        ⟨hne, fun c hc => isNameChar_of_isWordChar (hdatabase c hc)⟩
      rw [first_of_tableItem? isBlank_of_mem_space hname (by rintro c ⟨⟩; decide) hitem]
      exact hclause
    · have hfrom : IsName ['F', 'R', 'O', 'M'] := ⟨by decide, List.all_eq_true.mp (by decide)⟩
      have hgap : ∀ c ∈ (' ' :: (database ++ '.' :: table)).head?, isNameChar c = false := by
        rintro c ⟨⟩
        decide
      rw [first_of_tableItem? isBlank_of_mem_space hfrom hgap hitem]
      decide +kernel
    · exact hnone (List.forall_mem_nil _) (by decide) (by decide) hitem
    · exact hnone isBlank_of_mem_space (by decide) (by decide) hitem

/-- A clause word in place of the database gives no database in table position and declares
nothing. -/
theorem tablePlaces_of_clauseWord (hclause : isClauseWord database = true) :
    tablePlaces (selectStart ++ (database ++ '.' :: table)) = ⟨[], []⟩ := by
  have hplaces : ∀ places ∈ findAll tablePlace? (selectStart ++ (database ++ '.' :: table)),
      places = ⟨[], []⟩ := by
    intro places hmem
    obtain ⟨pre, c, rest, after, heq, hread⟩ := exists_of_mem_findAll hmem
    rw [tablePlace?_eq] at hread
    obtain ⟨⟨w, after'⟩, hword, hpair⟩ := Option.map_eq_some_iff.mp hread
    obtain ⟨rfl, rfl⟩ := Prod.mk.inj hpair
    obtain ⟨-, word, hcons, -, hafter⟩ := wholeWord?_eq_some hword
    rw [hcons] at heq
    exact listedTables_of_clauseWord (isClauseWord_of_tableItem? hdatabase hne htable hclause
      (heq.trans (List.append_assoc _ _ _).symm) hafter) _ _
  have hparen {paren : Char} (hword : isWordChar paren = false) (hstart : paren ∉ selectStart)
      (hpoint : paren ≠ '.') : paren ∉ selectStart ++ (database ++ '.' :: table) := by
    simp only [List.mem_append, List.mem_cons, not_or]
    exact ⟨hstart, notMem_of_isWordChar hdatabase hword, hpoint, notMem_of_isWordChar htable hword⟩
  exact tablePlaces_eq_nil hplaces (findAll_derivedAlias?_eq_nil
    (hparen (by decide) (by decide) (by decide)) (hparen (by decide) (by decide) (by decide)))

end

/-! ### Qualified names -/

section

include hdatabase

/-- A name at a word boundary that reaches to the end of the database is the database. -/
theorem eq_of_append_eq {pre name rest : List Char} (heq : selectStart ++ database = pre ++ name)
    (hname : IsName name) (hboundary : atBoundary (lastOf? none pre) (name ++ rest) = true) :
    pre = selectStart ∧ name = database := by
  rcases List.append_eq_append_iff.mp heq with ⟨v, rfl, hv⟩ | ⟨v, hv, rfl⟩
  · cases hlast : v.getLast? with
    | none =>
        obtain rfl := List.getLast?_eq_none_iff.mp hlast
        exact ⟨List.append_nil _, hv.symm⟩
    | some d =>
        -- inside the database is no word boundary
        obtain ⟨c, more, rfl⟩ := List.exists_cons_of_ne_nil hname.ne_nil
        have hd := hdatabase d (hv ▸ List.mem_append_left _ (List.mem_of_getLast? hlast))
        have hc := hdatabase c (hv ▸ List.mem_append_right _ List.mem_cons_self)
        rw [lastOf?_append, lastOf?, hlast, Option.some_or, atBoundary, isWordBoundary,
          Option.any_some, hd, List.cons_append, startsWord, hc] at hboundary
        cases hboundary
  · cases v with
    | nil =>
        rw [List.append_nil] at hv
        exact ⟨hv.symm, rfl⟩
    | cons d v =>
        have hblank : ∀ v ∈ selectStart.tails, v ≠ [] → ' ' ∈ v := by decide
        have hmem := hblank (d :: v) ((List.mem_tails _ _).mpr ⟨pre, hv.symm⟩)
          (List.cons_ne_nil d v)
        have hspace := hname.isNameChar_of_mem ' ' (List.mem_append_left _ hmem)
        exact absurd hspace (by decide)

include hne htable

/-- What stands in front of the one point of the text ends with the database. -/
theorem append_eq_of_point {pre name gap rest : List Char}
    (heq : selectStart ++ (database ++ '.' :: table) = pre ++ (name ++ (gap ++ '.' :: rest)))
    (hgap : ∀ c ∈ gap, isBlank c = true) : selectStart ++ database = pre ++ name := by
  have hsplit : (selectStart ++ database) ++ '.' :: table =
      (pre ++ name ++ gap) ++ '.' :: rest := by
    simpa using heq
  have hstart : '.' ∉ selectStart ++ database := by
    rw [List.mem_append, not_or]
    exact ⟨by decide, notMem_of_isWordChar hdatabase (by decide)⟩
  obtain ⟨hfront, -, -⟩ := (List.append_cons_inj_of_notMem hstart
    (notMem_of_isWordChar htable (by decide))).mp hsplit
  cases gap with
  | nil => rwa [List.append_nil] at hfront
  | cons b gap =>
      -- the last character is one of the database, and no blank
      have hlast := congrArg List.getLast? hfront
      rw [List.getLast?_append_of_ne_nil _ hne,
        List.getLast?_append_of_ne_nil _ (List.cons_ne_nil b gap),
        List.getLast?_eq_some_getLast hne,
        List.getLast?_eq_some_getLast (List.cons_ne_nil b gap)] at hlast
      have hword := isNameChar_of_isWordChar (hdatabase _ (List.getLast_mem hne))
      rw [Option.some.inj hlast, isNameChar_of_isBlank (hgap _ (List.getLast_mem _))] at hword
      cases hword

/-- A qualified name is read in one place only: where the database stands. -/
theorem eq_of_qualified? {pre cs name after : List Char} {three : Bool}
    (heq : selectStart ++ (database ++ '.' :: table) = pre ++ cs)
    (h : qualified? (lastOf? none pre) cs = some ((name, three), after)) :
    pre = selectStart ∧ name = database := by
  obtain ⟨hboundary, ⟨c, more, rfl, hc, hmore⟩, gap, run, rfl, hgap, -⟩ := qualified?_eq_some h
  have hname : IsName (c :: more) :=
    ⟨List.cons_ne_nil c more, List.forall_mem_cons.mpr ⟨isNameChar_of_isQualifierStart hc, hmore⟩⟩
  have hfront := append_eq_of_point hdatabase hne htable heq hgap
  exact eq_of_append_eq hdatabase hfront hname hboundary

end

/-! ### Phrases of several words -/

/-- The words with which the phrases start that name a database elsewhere than before a point. -/
def phraseStarts : List String :=
  ["USE", "CREATE", "DROP", "ALTER", "SHOW"]

/-- None of these words stands in front of a blank in the statement that reads. -/
theorem dropWordGap?_selectStart {w : String} (hw : w ∈ phraseStarts) {rest pre cs : List Char}
    (hrest : ∀ c ∈ rest, isBlank c = false) (heq : selectStart ++ rest = pre ++ cs) :
    dropWordGap? w cs = none := by
  refine Option.eq_none_iff_forall_not_mem.mpr fun after hafter => ?_
  obtain ⟨word, gap, rfl, hspells, hne, hblank, -⟩ := dropWordGap?_eq_some_iff.mp hafter
  obtain ⟨b, more, rfl⟩ := List.exists_cons_of_ne_nil hne
  have hb : isBlank b = true := hblank b List.mem_cons_self
  have hstart : ∀ w ∈ phraseStarts, ∀ front ∈ selectStart.inits, ∀ word ∈ front.tails,
      (selectStart.drop front.length).head?.any isBlank = true →
        dropLetters? w.toList word ≠ some [] := by
    decide +kernel
  have hsplit : selectStart ++ rest = (pre ++ word) ++ b :: (more ++ after) := by
    simpa using heq
  rcases List.append_eq_append_iff.mp hsplit with ⟨v, -, hv⟩ | ⟨v, hv, hcons⟩
  · have hnot := hrest b (hv ▸ List.mem_append_right _ List.mem_cons_self)
    rw [hb] at hnot
    cases hnot
  · cases v with
    | nil =>
        rw [List.nil_append] at hcons
        have hnot := hrest b (hcons ▸ List.mem_cons_self)
        rw [hb] at hnot
        cases hnot
    | cons d v =>
        obtain ⟨rfl, -⟩ := List.cons.inj hcons
        refine hstart w hw (pre ++ word) ((List.mem_inits _ _).mpr ⟨_, hv.symm⟩) word
          ((List.mem_tails _ _).mpr ⟨pre, rfl⟩) ?_
          (dropLetters?_eq_some_iff.mpr ⟨word, by simp, hspells⟩)
        rw [hv, List.drop_left]
        simp [hb]

section

variable {rest : List Char} (hrest : ∀ c ∈ rest, isBlank c = false)

include hrest

theorem useDatabase?_selectStart : useDatabase? (selectStart ++ rest) = none := by
  have hdrop : (selectStart ++ rest).dropWhile isBlank = selectStart ++ rest :=
    dropWhile_of_head (by rintro c ⟨⟩; decide)
  have hnone := dropWordGap?_selectStart (w := "USE") (by decide) hrest
    (List.nil_append (selectStart ++ rest)).symm
  rw [useDatabase?, hdrop, hnone]
  rfl

theorem databaseStatement?_selectStart :
    findAll databaseStatement? (selectStart ++ rest) = [] := by
  refine findAll_eq_nil_iff.mpr fun pre c after heq => ?_
  have hnone {w : String} (hw : w ∈ phraseStarts) := dropWordGap?_selectStart hw hrest heq
  simp [databaseStatement?, hnone (w := "CREATE") (by decide), hnone (w := "DROP") (by decide),
    hnone (w := "ALTER") (by decide)]

theorem showPhrase?_selectStart {pre cs : List Char} (heq : selectStart ++ rest = pre ++ cs)
    (before : Option Char) : showPhrase? before cs = none := by
  rw [showPhrase?, dropWordGap?_selectStart (w := "SHOW") (by decide) hrest heq]
  split <;> rfl

theorem showFrom?_selectStart : findAll showFrom? (selectStart ++ rest) = [] := by
  refine findAll_eq_nil_iff.mpr fun pre c after heq => ?_
  rw [showFrom?, showPhrase?_selectStart hrest heq]
  rfl

theorem showColumnsFrom?_selectStart : findAll showColumnsFrom? (selectStart ++ rest) = [] := by
  refine findAll_eq_nil_iff.mpr fun pre c after heq => ?_
  rw [showColumnsFrom?, showPhrase?_selectStart hrest heq]
  rfl

end

section

include hdatabase hne htable

/-- **What a clause word in place of a database gives**: a reference to it where it starts like
a qualifier, and nothing else. -/
theorem pieceReferences_of_clauseWord (hclause : isClauseWord database = true) {r : Reference}
    (h : r ∈ pieceReferences (selectStart ++ (database ++ '.' :: table))) :
    ∀ c ∈ database.head?, isQualifierStart c = true := by
  have hrest : ∀ c ∈ database ++ '.' :: table, isBlank c = false := by
    intro c hc
    simp only [List.mem_append, List.mem_cons] at hc
    rcases hc with hc | rfl | hc
    · exact isBlank_of_isNameChar (isNameChar_of_isWordChar (hdatabase c hc))
    · decide
    · exact isBlank_of_isNameChar (isNameChar_of_isWordChar (htable c hc))
  simp only [pieceReferences, useDatabase?_selectStart hrest, databaseStatement?_selectStart hrest,
    showFrom?_selectStart hrest, showColumnsFrom?_selectStart hrest,
    tablePlaces_of_clauseWord hdatabase hne htable hclause, Option.toList_none, List.map_nil,
    List.filterMap_nil, List.append_nil, List.nil_append, List.mem_map, List.mem_filter] at h
  obtain ⟨⟨name, three⟩, ⟨hfound, -⟩, -⟩ := h
  obtain ⟨pre, d, rest, after, heq, hread⟩ := exists_of_mem_findAll hfound
  obtain ⟨-, rfl⟩ := eq_of_qualified? hdatabase hne htable heq hread
  obtain ⟨-, ⟨c, more, rfl, hc, -⟩, -⟩ := qualified?_eq_some hread
  rintro e ⟨⟩
  exact hc

/-- A clause word that starts like a qualifier is found. -/
theorem mem_pieceReferences_of_clauseWord (hclause : isClauseWord database = true)
    (hstart : ∀ c ∈ database.head?, isQualifierStart c = true) {e : Char} {more : List Char}
    (htableEq : table = e :: more) (he : isQualifierStart e = true) :
    ⟨String.ofList database, .qualifier, isDefinition (selectStart ++ (database ++ '.' :: table))⟩ ∈
      pieceReferences (selectStart ++ (database ++ '.' :: table)) := by
  have hstops : StopsBefore qualified? none selectStart (database ++ '.' :: table) := by
    rintro a c b heq ⟨name, three⟩ after hfound
    have htext : selectStart ++ (database ++ '.' :: table) =
        a ++ (c :: b ++ (database ++ '.' :: table)) := by
      rw [heq, List.append_assoc]
    obtain ⟨rfl, -⟩ := eq_of_qualified? hdatabase hne htable htext hfound
    simp at heq
  have hlast : ∀ c ∈ lastOf? none selectStart, isWordChar c = false := by
    rintro c ⟨⟩
    decide
  obtain ⟨d, others, rfl⟩ := List.exists_cons_of_ne_nil hne
  subst htableEq
  have hname : ∀ c ∈ others, isNameChar c = true := fun c hc =>
    isNameChar_of_isWordChar (hdatabase c (List.mem_cons_of_mem d hc))
  have hboundary := atBoundary_append hne hdatabase hlast ('.' :: e :: more)
  obtain ⟨three, after, hread⟩ := qualified?_append hboundary (hstart d rfl) hname he
  refine mem_pieceReferences_of_qualified (mem_findAll_of_stopsBefore hstops hread) ?_
  rw [tablePlaces_of_clauseWord hdatabase hne htable hclause]
  exact List.not_mem_nil

end

end SqlGateway.Scope
