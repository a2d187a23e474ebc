import SqlGateway.Proofs.Scope.ClauseWord
import SqlGateway.Proofs.Scope.Isolation
import SqlGateway.Proofs.Scope.ReferenceName

/-!
# Databases in Backticks

Masking drops the backticks of an identifier, and the phrases read what stood between them as
part of the text. A database in backticks is therefore found if its name is what a phrase reads
as a name: a run of name characters. With any other character, such as a hyphen, a blank or a
point, it is not, and a part of it is read in its place: `USE` reads the run of name characters
with which it starts, and the search for qualified names the one with which it ends. Where that
part is the name of a database that the session may read, the text can pass.

Of the names that consist of name characters, a clause word is no table to the walk; the search
for qualified names finds it where it starts like a qualifier.

## Main results

* `maskSql_useQuoted`, `maskSql_selectQuoted`: the two statements without their backticks.
* `exists_reference_useQuoted`: what is read behind `USE`.
* `exists_reference_selectQuoted`, `exists_reference_of_end`: what is read in front of the point.
* `quoted_referenced_iff`: which databases in backticks are referenced, and which are denied for
  their own name or for a part of it.
-/

namespace SqlGateway.Scope

open Text

/-- The statement that switches to a database in backticks. -/
def useQuoted (database : String) : String :=
  "USE `" ++ database ++ "`"

/-- The statement that reads a table of a database, both in backticks. -/
def selectQuoted (database table : String) : String :=
  "SELECT * FROM `" ++ database ++ "`.`" ++ table ++ "`"

/-- `USE` and a blank. -/
def useStart : List Char :=
  ['U', 'S', 'E', ' ']

/-! ### Without the backticks -/

/-- The statement that switches, without the backticks. -/
theorem maskSql_useQuoted {database : String} (h : '`' ∉ database.toList) :
    maskSql (useQuoted database) = useStart ++ blankVariables database.toList := by
  have htext : (useQuoted database).toList =
      useStart ++ '`' :: (database.toList ++ '`' :: []) := by
    simp [useQuoted, useStart]
  rw [maskSql_eq, htext, maskQuotes_append (List.all_eq_true.mp (by decide)),
    maskQuotes_backticks h (by simp), maskQuotes_nil, List.append_nil]
  exact blankVariables_append (by decide) _

/-- The statement that reads, without the backticks. -/
theorem maskSql_selectQuoted {database table : String} (h : '`' ∉ database.toList)
    (htable : '`' ∉ table.toList) :
    maskSql (selectQuoted database table) =
      selectStart ++ blankVariables (database.toList ++ '.' :: table.toList) := by
  have htext : (selectQuoted database table).toList = selectStart ++ '`' :: (database.toList ++
      '`' :: (['.'] ++ '`' :: (table.toList ++ '`' :: []))) := by
    have happend (a b c d e : String) : (a ++ b ++ c ++ d ++ e).toList =
        a.toList ++ (b.toList ++ (c.toList ++ (d.toList ++ e.toList))) := by
      simp
    have hstart : "SELECT * FROM `".toList = selectStart ++ ['`'] := by decide
    have hpoint : "`.`".toList = ['`', '.', '`'] := by decide
    have hend : "`".toList = ['`'] := by decide
    refine (happend _ _ _ _ _).trans ?_
    rw [hstart, hpoint, hend, List.append_assoc]
    rfl
  rw [maskSql_eq, htext, maskQuotes_append (List.all_eq_true.mp (by decide)),
    maskQuotes_backticks h (by simp), maskQuotes_append (List.all_eq_true.mp (by decide)),
    maskQuotes_backticks htable (by simp), maskQuotes_nil, List.append_nil]
  exact blankVariables_append (by decide) _

/-! ### Policies -/

/-- A policy under which the session may not read a database. -/
structure Forbids (policy : Policy) (database : String) : Prop where
  isolation : policy.isolation = true
  level : policy.accessLevel ≠ .permissive
  primary : policy.database ≠ ""
  foreign : ¬ SameInLowerCase database policy.database
  not_system : lowerString database ∉ systemDatabases

theorem Forbids.isAuthorized {policy : Policy} {database : String} (h : Forbids policy database) :
    isAuthorized policy (lowerString database) = false := by
  have hsystem : ∀ a ∈ systemDatabases, lowerString a = a := by decide +kernel
  apply isAuthorized_eq_false
  intro a ha hsame
  have hlower : lowerString database = lowerString a :=
    (lowerString_lowerString database).symm.trans hsame
  rw [allowedDatabases, if_neg h.primary, List.mem_append, List.mem_singleton] at ha
  rcases ha with rfl | ha
  · exact h.foreign hlower
  · have hmem : a ∈ systemDatabases := by
      split at ha
      · exact ha
      · cases ha
    rw [hsystem a hmem] at hlower
    exact h.not_system (hlower ▸ hmem)

/-- A text that switches to a forbidden database is denied. -/
theorem Forbids.check_ne_nil_of_use {policy : Policy} {name sql : String} (h : Forbids policy name)
    (hreference : ∃ r ∈ references sql, r.kind = .use ∧ r.lowerName = lowerString name) :
    check sql policy ≠ [] := by
  obtain ⟨r, hr, hkind, hlower⟩ := hreference
  exact check_ne_nil_of_reference h.isolation h.level hr (.inr hkind) (hlower ▸ h.isAuthorized)

/-- A text that names a forbidden database in front of a point is denied. -/
theorem Forbids.check_ne_nil_of_qualifier {policy : Policy} {name sql : String}
    (h : Forbids policy name)
    (hreference : ∃ r ∈ references sql, r.kind = .qualifier ∧ r.lowerName = lowerString name) :
    check sql policy ≠ [] := by
  obtain ⟨r, hr, hkind, hlower⟩ := hreference
  exact check_ne_nil_of_reference h.isolation h.level hr (.inl hkind) (hlower ▸ h.isAuthorized)

/-! ### Switching to a database -/

/-- The name with which a text starts, behind blanks. -/
def StartsWithName (text name : String) : Prop :=
  ∃ gap rest, text.toList = gap ++ (name.toList ++ rest) ∧ (∀ c ∈ gap, isBlank c = true) ∧
    IsName name.toList ∧ ∀ c ∈ rest.head?, isNameChar c = false

/-- Whether a text is read as one name. -/
def IsReadAsName (name : String) : Prop :=
  ∀ c ∈ name.toList, isNameChar c = true

theorem IsReadAsName.isName {name : String} (h : IsReadAsName name) (hne : name ≠ "") :
    IsName name.toList :=
  ⟨fun hnil => hne (String.toList_eq_nil_iff.mp hnil), h⟩

theorem IsReadAsName.startsWithName {name : String} (h : IsReadAsName name) (hne : name ≠ "") :
    StartsWithName name name :=
  ⟨[], [], by simp, List.forall_mem_nil _, h.isName hne, by simp⟩

/-- The name behind `USE` is read. -/
theorem useDatabase?_append {gap name rest : List Char} (hgap : ∀ c ∈ gap, isBlank c = true)
    (hname : IsName name) (hrest : ∀ c ∈ rest.head?, isNameChar c = false) :
    useDatabase? (useStart ++ gap ++ name ++ rest) = some name := by
  have htext : useStart ++ gap ++ name ++ rest =
      ['U', 'S', 'E'] ++ (' ' :: gap ++ (name ++ rest)) := by
    simp [useStart]
  have hdrop : (['U', 'S', 'E'] ++ (' ' :: gap ++ (name ++ rest))).dropWhile isBlank =
      ['U', 'S', 'E'] ++ (' ' :: gap ++ (name ++ rest)) :=
    dropWhile_of_head (by rintro c ⟨⟩; decide)
  have hword : dropWordGap? "USE" (['U', 'S', 'E'] ++ (' ' :: gap ++ (name ++ rest))) =
      some (name ++ rest) :=
    dropWordGap?_eq_some_iff.mpr ⟨['U', 'S', 'E'], ' ' :: gap, rfl, by decide +kernel, by simp,
      List.forall_mem_cons.mpr ⟨by decide, hgap⟩, hname.isBlank_of_head rest⟩
  have htake := takeName?_eq_some_iff.mpr ⟨rfl, hname.ne_nil, hname.isNameChar_of_mem, hrest⟩
  rw [htext, useDatabase?, hdrop, hword, Option.bind_eq_bind, Option.bind_some, htake]
  rfl

theorem mem_pieceReferences_of_use {piece name : List Char} (h : useDatabase? piece = some name) :
    ⟨String.ofList name, .use, isDefinition piece⟩ ∈ pieceReferences piece := by
  simp only [pieceReferences, h, Option.toList_some, List.map_cons, List.append_assoc]
  exact List.mem_append_left _ List.mem_cons_self

/-- **The name with which a database in backticks starts** is switched to. -/
theorem exists_reference_useQuoted {database name : String} (hquote : '`' ∉ database.toList)
    (hstarts : StartsWithName database name) :
    ∃ r ∈ references (useQuoted database), r.kind = .use ∧ r.lowerName = lowerString name := by
  obtain ⟨gap, rest, heq, hgap, hname, hrest⟩ := hstarts
  have hplain : ∀ c ∈ gap ++ name.toList, isPlain c = true :=
    List.forall_mem_append.mpr ⟨fun c hc => isPlain_of_isBlank (hgap c hc),
      fun c hc => isPlain_of_isNameChar (hname.isNameChar_of_mem c hc)⟩
  have hmask : maskSql (useQuoted database) =
      (useStart ++ gap ++ name.toList) ++ blankVariables rest := by
    rw [maskSql_useQuoted hquote, heq, ← List.append_assoc gap,
      blankVariables_append (mark_notMem (by decide) hplain)]
    simp
  have hsemicolon : ';' ∉ useStart ++ gap ++ name.toList := by
    rw [List.append_assoc, List.mem_append, not_or]
    exact ⟨by decide, mark_notMem (by decide) hplain⟩
  obtain ⟨more, hpiece, hmore⟩ := exists_piece_append hsemicolon (blankVariables rest)
  rw [← hmask] at hpiece
  have hstop : ∀ c ∈ more.head?, isNameChar c = false := by
    intro c hc
    rcases head?_blankVariables c (hmore c hc) with hc | rfl
    · exact hrest c hc
    · decide
  have huse := useDatabase?_append hgap hname hstop
  have hr := mem_pieceReferences_of_use huse
  rw [String.ofList_toList] at hr
  exact ⟨_, mem_references_of_piece hpiece hr, rfl, rfl⟩

/-! ### Reading a table of a database -/

/-- A name that the search for qualified names reads: word characters, the first of which starts
like a qualifier. -/
structure IsSearchName (name : String) : Prop where
  ne_empty : name ≠ ""
  isWordChar_of_mem : ∀ c ∈ name.toList, isWordChar c = true
  start : ∀ c ∈ name.toList.head?, isQualifierStart c = true

theorem IsSearchName.isReadAsName {name : String} (h : IsSearchName name) : IsReadAsName name :=
  fun c hc => isNameChar_of_isWordChar (h.isWordChar_of_mem c hc)

theorem IsSearchName.isName {name : String} (h : IsSearchName name) : IsName name.toList :=
  h.isReadAsName.isName h.ne_empty

/-- A text that masking leaves whole where it stands in backticks, and that is not cut. -/
structure StaysWhole (text : String) : Prop where
  backtick : '`' ∉ text.toList
  variableSign : '@' ∉ text.toList
  semicolon : ';' ∉ text.toList

theorem IsReadAsName.staysWhole {name : String} (h : IsReadAsName name) : StaysWhole name := by
  have hplain : ∀ c ∈ name.toList, isPlain c = true := fun c hc => isPlain_of_isNameChar (h c hc)
  exact ⟨mark_notMem (by decide) hplain, mark_notMem (by decide) hplain,
    mark_notMem (by decide) hplain⟩

/-- What is searched of the statement that reads. -/
def searchedSelect (database table : String) : List Char :=
  selectStart ++ (database.toList ++ '.' :: table.toList)

/-- The statement that reads has one piece. -/
theorem cutAt_selectQuoted {database table : String} (hdatabase : StaysWhole database)
    (htable : StaysWhole table) :
    cutAt (· == ';') (maskSql (selectQuoted database table)) = [searchedSelect database table] := by
  have hat : '@' ∉ database.toList ++ '.' :: table.toList := by
    simp only [List.mem_append, List.mem_cons, not_or]
    exact ⟨hdatabase.variableSign, by decide, htable.variableSign⟩
  rw [maskSql_selectQuoted hdatabase.backtick htable.backtick, blankVariables_eq_self hat,
    cutAt_eq_singleton, searchedSelect]
  simp only [List.mem_append, List.mem_cons, not_or]
  exact ⟨by decide, hdatabase.semicolon, by decide, htable.semicolon⟩

/-- What is referenced by the statement that reads. -/
theorem mem_references_selectQuoted {database table : String} (hdatabase : StaysWhole database)
    (htable : StaysWhole table) {r : Reference} :
    r ∈ references (selectQuoted database table) ↔
      r ∈ pieceReferences (searchedSelect database table) := by
  rw [references, cutAt_selectQuoted hdatabase htable, List.flatMap_singleton]

/-- Whether a text is read as one name, and as a database where a table is expected: a clause
word only if it starts like a qualifier. -/
def IsReadAsDatabase (name : String) : Prop :=
  IsReadAsName name ∧
    (isClauseWord name.toList = true → ∀ c ∈ name.toList.head?, isQualifierStart c = true)

/-- **A database in backticks that is read as a database** is one in front of a point. -/
theorem exists_reference_selectQuoted {database table : String} (hne : database ≠ "")
    (hdatabase : IsReadAsDatabase database) (htable : IsSearchName table) :
    ∃ r ∈ references (selectQuoted database table),
      r.kind = .qualifier ∧ r.lowerName = lowerString database := by
  obtain ⟨hname, hclause⟩ := hdatabase
  suffices hr : ⟨String.ofList database.toList, .qualifier,
      isDefinition (searchedSelect database table)⟩ ∈
        pieceReferences (searchedSelect database table) by
    rw [String.ofList_toList] at hr
    exact ⟨_, (mem_references_selectQuoted hname.staysWhole
      htable.isReadAsName.staysWhole).mpr hr, rfl, rfl⟩
  by_cases hword : isClauseWord database.toList = true
  · have hwordChars := isWordChar_of_isClauseWord hword hname
    obtain ⟨e, more, htableEq⟩ := List.exists_cons_of_ne_nil htable.isName.ne_nil
    exact mem_pieceReferences_of_clauseWord hwordChars (hname.isName hne).ne_nil
      htable.isWordChar_of_mem hword (hclause hword) htableEq
      (htable.start e (by rw [htableEq]; rfl))
  · let p : TablePosition (searchedSelect database table) :=
      { front := ['S', 'E', 'L', 'E', 'C', 'T', ' ', '*', ' ']
        word := ['F', 'R', 'O', 'M']
        gap := [' ']
        database := database.toList
        beforePoint := []
        behindPoint := []
        table := table.toList
        back := []
        eq_append := by simp [searchedSelect, selectStart]
        spells := ⟨"FROM", by decide, by decide +kernel⟩
        wordBefore := by rintro c ⟨⟩; decide
        wordBehind := by rintro c ⟨⟩; decide
        gap_blank := isBlank_of_mem_space
        beforePoint_blank := by simp
        behindPoint_blank := by simp
        database_name := hname.isName hne
        table_name := htable.isName }
    exact p.mem_pieceReferences (Bool.not_eq_true _ ▸ hword)

/-- The name with which a text ends, behind a character that stands in no qualified name. -/
def EndsWithName (text name : String) : Prop :=
  ∃ front c, text.toList = front ++ [c] ++ name.toList ∧ isQualifiedChar c = false ∧
    IsSearchName name

/-- **The name with which a database in backticks ends** is one in front of a point, if the piece
does not declare it. -/
theorem exists_reference_of_end {database name table : String} (hwhole : StaysWhole database)
    (hends : EndsWithName database name) (htable : IsSearchName table)
    (hdeclared : localName name.toList ∉ (tablePlaces (searchedSelect database table)).declared) :
    ∃ r ∈ references (selectQuoted database table),
      r.kind = .qualifier ∧ r.lowerName = lowerString name := by
  obtain ⟨front, c, heq, hc, hname⟩ := hends
  obtain ⟨d, others, hchars⟩ := List.exists_cons_of_ne_nil hname.isName.ne_nil
  obtain ⟨e, more, htableEq⟩ := List.exists_cons_of_ne_nil htable.isName.ne_nil
  have htext : searchedSelect database table =
      (selectStart ++ front ++ [c]) ++ d :: (others ++ '.' :: e :: more) := by
    simp [searchedSelect, heq, hchars, htableEq]
  have hlast : lastOf? none (selectStart ++ front ++ [c]) = some c := by
    rw [lastOf?, List.getLast?_concat]
    rfl
  have hstops : StopsBefore qualified? none (selectStart ++ front ++ [c])
      (d :: (others ++ '.' :: e :: more)) := by
    refine stopsBefore_qualified? ?_
    rw [List.getLast?_concat]
    rintro _ ⟨⟩
    exact hc
  have hboundary : atBoundary (some c) (d :: others ++ '.' :: e :: more) = true := by
    refine atBoundary_append (List.cons_ne_nil d others) (hchars ▸ hname.isWordChar_of_mem) ?_ _
    rintro _ ⟨⟩
    by_contra hword
    rw [isQualifiedChar, isNameChar_of_isWordChar (Bool.not_eq_false _ ▸ hword)] at hc
    cases hc
  have hothers : ∀ x ∈ others, isNameChar x = true := fun x hx =>
    hname.isName.isNameChar_of_mem x (hchars ▸ List.mem_cons_of_mem d hx)
  obtain ⟨three, after, hread⟩ := qualified?_append hboundary
    (hname.start d (by rw [hchars]; rfl)) hothers (htable.start e (by rw [htableEq]; rfl))
  have hfound := mem_findAll_of_stopsBefore hstops (hlast ▸ hread)
  rw [← htext, ← hchars] at hfound
  have hr := mem_pieceReferences_of_qualified hfound hdeclared
  rw [String.ofList_toList] at hr
  exact ⟨_, (mem_references_selectQuoted hwhole htable.isReadAsName.staysWhole).mpr hr, rfl, rfl⟩

/-! ### Which databases are found -/

/-- **Which databases in backticks are found.** One is referenced by a statement that switches
to it exactly if it is read as a name, and by one that reads a table of it exactly if it is read
as a database; where it is, every policy that forbids it denies the statement.

Of any other database a part is read in its place: the name with which it starts by a statement
that switches, and the name with which it ends by one that reads, if the piece does not declare
it. A policy that forbids that name denies the statement. -/
theorem quoted_referenced_iff {database table : String} (hquote : '`' ∉ database.toList)
    (hne : database ≠ "") (htable : IsSearchName table) :
    (lowerString database ∈ (referencedDatabases (useQuoted database)).names ↔
      IsReadAsName database) ∧
    (lowerString database ∈ (referencedDatabases (selectQuoted database table)).names ↔
      IsReadAsDatabase database) ∧
    ∀ policy,
      (∀ name, StartsWithName database name → Forbids policy name →
        check (useQuoted database) policy ≠ []) ∧
      (IsReadAsName database → Forbids policy database → check (useQuoted database) policy ≠ []) ∧
      (IsReadAsDatabase database → Forbids policy database →
        check (selectQuoted database table) policy ≠ []) ∧
      (∀ name, StaysWhole database → EndsWithName database name → localName name.toList ∉
        (tablePlaces (searchedSelect database table)).declared → Forbids policy name →
          check (selectQuoted database table) policy ≠ []) := by
  refine ⟨⟨isNameChar_of_mem_referenced, fun hname => ?_⟩, ⟨fun hmem => ?_, fun hdatabase => ?_⟩,
    fun policy => ⟨fun name hstarts hforbids => ?_, fun hname hforbids => ?_,
      fun hdatabase hforbids => ?_, fun name hwhole hends hdeclared hforbids => ?_⟩⟩
  · obtain ⟨r, hr, -, hlower⟩ := exists_reference_useQuoted hquote (hname.startsWithName hne)
    exact mem_referenced_iff.mpr ⟨r, hr, hlower⟩
  · have hname : IsReadAsName database := isNameChar_of_mem_referenced hmem
    refine ⟨hname, fun hclause => ?_⟩
    obtain ⟨r, hr, -⟩ := mem_referenced_iff.mp hmem
    rw [mem_references_selectQuoted hname.staysWhole htable.isReadAsName.staysWhole] at hr
    exact pieceReferences_of_clauseWord (isWordChar_of_isClauseWord hclause hname)
      (hname.isName hne).ne_nil htable.isWordChar_of_mem hclause hr
  · obtain ⟨r, hr, -, hlower⟩ := exists_reference_selectQuoted hne hdatabase htable
    exact mem_referenced_iff.mpr ⟨r, hr, hlower⟩
  · exact hforbids.check_ne_nil_of_use (exists_reference_useQuoted hquote hstarts)
  · exact hforbids.check_ne_nil_of_use
      (exists_reference_useQuoted hquote (hname.startsWithName hne))
  · exact hforbids.check_ne_nil_of_qualifier (exists_reference_selectQuoted hne hdatabase htable)
  · exact hforbids.check_ne_nil_of_qualifier
      (exists_reference_of_end hwhole hends htable hdeclared)

/-- A database in backticks whose name starts with that of the session's own, and one of whose
name two others are read. -/
theorem quoted_referenced_of_prefix :
    lowerString "AppDb2" ∈ (referencedDatabases (selectQuoted "AppDb2" "t")).names ∧
      check (useQuoted "AppDb2") isolatedPolicy ≠ [] ∧
      check (selectQuoted "AppDb2" "t") isolatedPolicy ≠ [] ∧
      check (useQuoted "old-db") isolatedPolicy ≠ [] ∧
      check (selectQuoted "old-db" "t") isolatedPolicy ≠ [] := by
  have htable : IsSearchName "t" :=
    ⟨by decide, List.all_eq_true.mp (by decide), by rintro c ⟨⟩; decide⟩
  have hforbids : Forbids isolatedPolicy "AppDb2" ∧ Forbids isolatedPolicy "old" ∧
      Forbids isolatedPolicy "db" := by
    refine ⟨⟨by decide, by decide, by decide, ?_, ?_⟩, ⟨by decide, by decide, by decide, ?_, ?_⟩,
      ⟨by decide, by decide, by decide, ?_, ?_⟩⟩ <;> decide +kernel
  obtain ⟨happdb, hold, hdb⟩ := hforbids
  have hname : IsReadAsName "AppDb2" := List.all_eq_true.mp (by decide)
  have hdatabase : IsReadAsDatabase "AppDb2" := ⟨hname, fun _ => by rintro c ⟨⟩; decide⟩
  have hstarts : StartsWithName "old-db" "old" :=
    ⟨[], ['-', 'd', 'b'], by decide, List.forall_mem_nil _,
      ⟨by decide, List.all_eq_true.mp (by decide)⟩, by rintro c ⟨⟩; decide⟩
  have hends : EndsWithName "old-db" "db" :=
    ⟨['o', 'l', 'd'], '-', by decide, by decide, by decide, List.all_eq_true.mp (by decide),
      by rintro c ⟨⟩; decide⟩
  obtain ⟨-, hreferenced, hdenied⟩ := quoted_referenced_iff hname.staysWhole.backtick
    (by decide) htable
  obtain ⟨-, -, hdenied'⟩ := quoted_referenced_iff (show '`' ∉ "old-db".toList by decide)
    (by decide) htable
  obtain ⟨-, huse, hselect, -⟩ := hdenied isolatedPolicy
  obtain ⟨huse', -, -, hselect'⟩ := hdenied' isolatedPolicy
  exact ⟨hreferenced.mpr hdatabase, huse hname happdb, hselect hdatabase happdb,
    huse' _ hstarts hold, hselect' _ ⟨by decide, by decide, by decide⟩ hends
      (by decide +kernel) hdb⟩

/-- A hyphen in the name of a database lets the rest of it pass for the session's own. -/
theorem quoted_allowed_of_hyphen :
    Forbids isolatedPolicy "appdb-x" ∧ check (useQuoted "appdb-x") isolatedPolicy = [] ∧
      Forbids isolatedPolicy "x-appdb" ∧ check (selectQuoted "x-appdb" "t") isolatedPolicy = [] :=
  ⟨⟨by decide, by decide, by decide, by decide +kernel, by decide +kernel⟩, by decide +kernel,
    ⟨by decide, by decide, by decide, by decide +kernel, by decide +kernel⟩, by decide +kernel⟩

end SqlGateway.Scope
