import SqlGateway.Proofs.Scope.Isolation
import SqlGateway.Proofs.Scope.QualifiedName
import SqlGateway.Proofs.Scope.Masking

/-!
# Lists of Tables

What stands behind `FROM` is a list of tables, qualified tables and derived tables, each with
its alias. The walk through such a list reads one table after the other, and it ends at the
first derived table, since a parenthesis starts no name. What comes behind is found by the
search for qualified names, unless the piece declares the qualifier as a local name.

## Main results

* `tableItem?_text`: what is read of a table with its alias.
* `listedTables_listText`: the walk comes to the tables before the first derived table.
* `mem_findAll_of_comma`: a qualified table behind a comma is found.
* `database_referenced`: where the walk comes to, or what is not declared, is referenced.
-/

namespace SqlGateway.Scope

open Text

/-! ### Lists as text -/

/-- Whether a character can start a plain identifier. -/
def isIdentifierStart (c : Char) : Bool :=
  c.isAlpha || c == '_'

/-- Whether a character can stand in a plain identifier. -/
def isIdentifierChar (c : Char) : Bool :=
  c.isAlphanum || c == '_'

/-- A plain identifier: a letter or an underscore, then letters, digits and underscores, all in
ASCII. It is no clause word. -/
structure Identifier where
  first : Char
  more : List Char
  first_start : isIdentifierStart first = true
  more_plain : ∀ c ∈ more, isIdentifierChar c = true
  not_clauseWord : isClauseWord (first :: more) = false

/-- The characters of an identifier. -/
def Identifier.chars (i : Identifier) : List Char :=
  i.first :: i.more

/-- An alias, with or without `AS` in front. -/
structure Alias where
  withAs : Bool
  name : Identifier

/-- The text of an alias, with a blank in front. -/
def Alias.text (a : Alias) : List Char :=
  ' ' :: ((if a.withAs then "AS ".toList else []) ++ a.name.chars)

/-- What can stand in a list behind `FROM`. -/
inductive FromItem where
  | table (name : Identifier) (asName : Option Alias)
  | qualified (database name : Identifier) (asName : Option Alias)
  /-- What stands in the parentheses of a derived table can be anything. -/
  | derived (query : List Char) (asName : Alias)

/-- Whether an item is a derived table. -/
def FromItem.isDerived : FromItem → Bool
  | .derived .. => true
  | _ => false

/-- What stands in the parentheses of an item. -/
def FromItem.query : FromItem → List Char
  | .derived query _ => query
  | _ => []

/-- The text of an alias if there is one. -/
def aliasText (a : Option Alias) : List Char :=
  (a.map Alias.text).getD []

/-- The text of an item. -/
def FromItem.text : FromItem → List Char
  | .table name asName => name.chars ++ aliasText asName
  | .qualified database name asName =>
    database.chars ++ '.' :: (name.chars ++ aliasText asName)
  | .derived query asName => '(' :: (query ++ ')' :: asName.text)

/-- The items behind the first, each with a comma and a gap in front. -/
def moreItems (gap : List Char) : List FromItem → List Char
  | [] => []
  | i :: rest => ',' :: (gap ++ (i.text ++ moreItems gap rest))

/-- The text of a list of items. -/
def listText (gap : List Char) : List FromItem → List Char
  | [] => []
  | i :: rest => i.text ++ moreItems gap rest

/-- The statement that reads from a list. -/
def selectFrom (gap : List Char) (items : List FromItem) : List Char :=
  selectStart ++ listText gap items

/-! ### Identifiers -/

theorem isIdentifierChar_of_start {c : Char} (h : isIdentifierStart c = true) :
    isIdentifierChar c = true := by
  simp only [isIdentifierStart, isIdentifierChar, Char.isAlphanum, Bool.or_eq_true] at h ⊢
  exact h.imp_left .inl

theorem isWordChar_of_isIdentifierChar {c : Char} (h : isIdentifierChar c = true) :
    isWordChar c = true := by
  simp only [isIdentifierChar, Bool.or_eq_true, beq_iff_eq] at h
  rcases h with h | rfl
  · simp [isWordChar, toNat_lt_of_isAlphanum h, h]
  · decide

namespace Identifier

variable (i : Identifier)

theorem plain : ∀ c ∈ i.chars, isIdentifierChar c = true :=
  List.forall_mem_cons.mpr ⟨isIdentifierChar_of_start i.first_start, i.more_plain⟩

theorem isWordChar : ∀ c ∈ i.chars, isWordChar c = true :=
  fun c hc => isWordChar_of_isIdentifierChar (i.plain c hc)

theorem isName : IsName i.chars :=
  ⟨List.cons_ne_nil _ _, fun c hc => isNameChar_of_isWordChar (i.isWordChar c hc)⟩

theorem isQualifierStart : isQualifierStart i.first = true := by
  have h := i.first_start
  simp only [isIdentifierStart, Bool.or_eq_true, beq_iff_eq] at h
  rcases h with h | h <;> simp [Scope.isQualifierStart, h]

end Identifier

/-! ### Lists in plain characters -/

theorem Alias.isPlain (a : Alias) : ∀ c ∈ a.text, isPlain c = true := by
  have hname : ∀ c ∈ a.name.chars, Scope.isPlain c = true := fun c hc =>
    isPlain_of_isNameChar (a.name.isName.isNameChar_of_mem c hc)
  have has : ∀ c ∈ "AS ".toList, Scope.isPlain c = true := List.all_eq_true.mp (by decide)
  rw [Alias.text, List.forall_mem_cons, List.forall_mem_append]
  refine ⟨by decide, ?_, hname⟩
  split
  · exact has
  · exact List.forall_mem_nil _

theorem isPlain_aliasText (a : Option Alias) : ∀ c ∈ aliasText a, isPlain c = true := by
  cases a with
  | none => exact List.forall_mem_nil _
  | some a => exact a.isPlain

/-- An item is plain if what stands in its parentheses is. -/
theorem FromItem.isPlain {i : FromItem} (h : ∀ c ∈ i.query, isPlain c = true) :
    ∀ c ∈ i.text, isPlain c = true := by
  have hname (name : Identifier) : ∀ c ∈ name.chars, Scope.isPlain c = true := fun c hc =>
    isPlain_of_isNameChar (name.isName.isNameChar_of_mem c hc)
  cases i with
  | table name asName =>
      exact List.forall_mem_append.mpr ⟨hname name, isPlain_aliasText asName⟩
  | qualified database name asName =>
      rw [FromItem.text, List.forall_mem_append, List.forall_mem_cons, List.forall_mem_append]
      exact ⟨hname database, by decide, hname name, isPlain_aliasText asName⟩
  | derived query asName =>
      rw [FromItem.text, List.forall_mem_cons, List.forall_mem_append, List.forall_mem_cons]
      exact ⟨by decide, h, by decide, asName.isPlain⟩

/-- **A list in plain characters is searched as it is written**, in one piece. -/
theorem selectFrom_mem_pieces {gap : List Char} (hgap : ∀ c ∈ gap, isBlank c = true)
    {items : List FromItem} (hitems : ∀ i ∈ items, ∀ c ∈ i.query, isPlain c = true) :
    selectFrom gap items ∈ cutAt (· == ';') (maskSql (String.ofList (selectFrom gap items))) := by
  have hmore (items : List FromItem) (hitems : ∀ i ∈ items, ∀ c ∈ i.query, isPlain c = true) :
      ∀ c ∈ moreItems gap items, isPlain c = true := by
    induction items with
    | nil => exact List.forall_mem_nil _
    | cons i rest ih =>
        obtain ⟨hi, hrest⟩ := List.forall_mem_cons.mp hitems
        rw [moreItems, List.forall_mem_cons, List.forall_mem_append, List.forall_mem_append]
        exact ⟨by decide, fun c hc => isPlain_of_isBlank (hgap c hc), i.isPlain hi, ih hrest⟩
  have hlist : ∀ c ∈ listText gap items, isPlain c = true := by
    cases items with
    | nil => exact List.forall_mem_nil _
    | cons i rest =>
        obtain ⟨hi, hrest⟩ := List.forall_mem_cons.mp hitems
        exact List.forall_mem_append.mpr ⟨i.isPlain hi, hmore rest hrest⟩
  exact mem_pieces_of_isPlain (List.forall_mem_append.mpr
    ⟨List.all_eq_true.mp (by decide), hlist⟩)

/-! ### Reading a table -/

/-- Two identifiers with a point between them are read as a qualified name. -/
theorem qualified?_identifiers {before : Option Char} (hbefore : ∀ c ∈ before, isWordChar c = false)
    (database name : Identifier) (rest : List Char) :
    ∃ three after, qualified? before (database.chars ++ '.' :: (name.chars ++ rest)) =
      some ((database.chars, three), after) := by
  have hboundary := atBoundary_append database.isName.ne_nil database.isWordChar hbefore
    ('.' :: (name.chars ++ rest))
  have hmore : ∀ c ∈ database.more, isNameChar c = true := fun c hc =>
    database.isName.isNameChar_of_mem c (List.mem_cons_of_mem _ hc)
  exact qualified?_append hboundary database.isQualifierStart hmore name.isQualifierStart

/-- A text that a name can stop at, with no alias and no second name behind it. -/
def EndsItem (rest : List Char) : Prop :=
  ∀ c ∈ rest.head?, c = ','

theorem endsItem_moreItems (gap : List Char) (items : List FromItem) :
    EndsItem (moreItems gap items) := by
  cases items with
  | nil => simp [EndsItem, moreItems]
  | cons i rest => simp [EndsItem, moreItems]

section

variable {rest : List Char} (hrest : EndsItem rest)

include hrest

theorem EndsItem.isNameChar : ∀ c ∈ rest.head?, isNameChar c = false := by
  intro c hc
  rw [hrest c hc]
  decide

theorem EndsItem.isBlank : ∀ c ∈ rest.head?, isBlank c = false := by
  intro c hc
  rw [hrest c hc]
  decide

/-- A name at the end of an item is read. -/
theorem takeName?_of_endsItem (i : Identifier) :
    takeName? (i.chars ++ rest) = some (i.chars, rest) :=
  takeName?_eq_some_iff.mpr
    ⟨rfl, i.isName.ne_nil, i.isName.isNameChar_of_mem, hrest.isNameChar⟩

/-- `AS` is read only with a gap behind it. -/
theorem dropWordGap?_as_eq_none (i : Identifier) : dropWordGap? "AS" (i.chars ++ rest) = none := by
  refine Option.eq_none_iff_forall_not_mem.mpr fun after hafter => ?_
  obtain ⟨word, gap, heq, hspells, hne, hblank, -⟩ := dropWordGap?_eq_some_iff.mp hafter
  obtain ⟨b, more, rfl⟩ := List.exists_cons_of_ne_nil hne
  have hb : isBlank b = true := hblank b List.mem_cons_self
  have hword : ∀ c ∈ word, isNameChar c = true := fun c hc =>
    isNameChar_of_isWordChar (hspells.isWordChar (by decide) c hc)
  have hstop : ∀ c ∈ (b :: more ++ after).head?, isNameChar c = false := by
    rintro c ⟨⟩
    exact isNameChar_of_isBlank hb
  -- the word ends where the name ends, but there is no gap
  have hdrop := dropWhile_run i.isName.isNameChar_of_mem hrest.isNameChar
  rw [heq, dropWhile_run hword hstop] at hdrop
  have hcomma := hrest b (by rw [← hdrop]; rfl)
  rw [hcomma] at hb
  revert hb
  decide

/-- The alias of an item is read. -/
theorem aliasName?_text (a : Alias) :
    (dropBlanks? (a.text ++ rest)).bind aliasName? = some (a.name.chars, rest) := by
  have hdrop (cs : List Char) (h : ∀ c ∈ cs.head?, isBlank c = false) :
      dropBlanks? (' ' :: cs) = some cs :=
    dropBlanks?_eq_some_iff.mpr ⟨[' '], rfl, by simp, isBlank_of_mem_space, h⟩
  rw [Alias.text]
  cases a.withAs with
  | false =>
      rw [if_neg Bool.false_ne_true, List.nil_append, List.cons_append,
        hdrop _ (a.name.isName.isBlank_of_head rest), Option.bind_some, aliasName?,
        dropWordGap?_as_eq_none hrest, Option.bind_none, takeName?_of_endsItem hrest]
  | true =>
      have has : dropWordGap? "AS" ("AS ".toList ++ (a.name.chars ++ rest)) =
          some (a.name.chars ++ rest) :=
        dropWordGap?_eq_some_iff.mpr ⟨"AS".toList, [' '], rfl, by decide +kernel, by simp,
          isBlank_of_mem_space, a.name.isName.isBlank_of_head rest⟩
      have hhead : ∀ c ∈ ("AS ".toList ++ (a.name.chars ++ rest)).head?,
          Text.isBlank c = false := by
        rintro c ⟨⟩
        decide
      rw [if_pos rfl, List.cons_append, List.append_assoc, hdrop _ hhead, Option.bind_some,
        aliasName?, has, Option.bind_some, takeName?_of_endsItem hrest]

/-- What follows the name of an item: no point, and the alias if there is one. -/
theorem dropPoint?_aliasText (a : Option Alias) : dropPoint? (aliasText a ++ rest) = none := by
  have hnone (cs : List Char) (h : ∀ c ∈ (cs.dropWhile Text.isBlank).head?, c ≠ '.') :
      dropPoint? cs = none := by
    rw [dropPoint?]
    split
    · rename_i heq
      rw [heq] at h
      exact absurd rfl (h '.' rfl)
    · rfl
  apply hnone
  cases a with
  | none =>
      have hdrop : rest.dropWhile Text.isBlank = rest :=
        dropWhile_of_head hrest.isBlank
      rw [aliasText, Option.map_none, Option.getD_none, List.nil_append, hdrop]
      intro c hc
      rw [hrest c hc]
      decide
  | some a =>
      rw [aliasText, Option.map_some, Option.getD_some, Alias.text, List.cons_append,
        List.append_assoc, ← List.singleton_append (x := ' ')]
      cases a.withAs with
      | false =>
          rw [if_neg Bool.false_ne_true, List.nil_append,
            dropWhile_run isBlank_of_mem_space (a.name.isName.isBlank_of_head rest)]
          rintro _ ⟨⟩ heq
          have hpoint : isIdentifierChar a.name.first = true := a.name.plain _ List.mem_cons_self
          rw [heq] at hpoint
          revert hpoint
          decide
      | true =>
          rw [if_pos rfl, dropWhile_run isBlank_of_mem_space]
          · rintro c ⟨⟩
            decide
          · rintro c ⟨⟩
            decide

/-- What is read of the text behind a name: the alias if there is one. -/
theorem aliasName?_aliasText (a : Option Alias) :
    (dropBlanks? (aliasText a ++ rest)).bind aliasName? = a.map fun a => (a.name.chars, rest) := by
  cases a with
  | none =>
      have hnone : dropBlanks? rest = none := by
        cases rest with
        | nil => rfl
        | cons c rest => rw [dropBlanks?, hrest.isBlank c rfl, if_neg Bool.false_ne_true]
      simp [aliasText, hnone]
  | some a => simp [aliasText, aliasName?_text hrest a]

end

/-- What a list gives of an item: a derived table gives nothing. -/
def FromItem.item? : FromItem → Option TableItem
  | .table name asName => some ⟨name.chars, none, asName.map (·.name.chars)⟩
  | .qualified database name asName =>
    some ⟨database.chars, some name.chars, asName.map (·.name.chars)⟩
  | .derived .. => none

/-- **What is read of an item** behind a gap. -/
theorem tableItem?_text {gap rest : List Char} (hgap : ∀ c ∈ gap, isBlank c = true)
    (hrest : EndsItem rest) (i : FromItem) :
    tableItem? (gap ++ (i.text ++ rest)) = i.item?.map (·, rest) := by
  have hend : rest.dropWhile isBlank = rest :=
    dropWhile_of_head hrest.isBlank
  have hstop (a : Option Alias) : ∀ c ∈ (aliasText a ++ rest).head?, isNameChar c = false := by
    cases a with
    | none => exact hrest.isNameChar
    | some a => rintro c ⟨⟩; decide
  cases i with
  | table name asName =>
      have hname := takeName?_eq_some_iff.mpr
        ⟨rfl, name.isName.ne_nil, name.isName.isNameChar_of_mem, hstop asName⟩
      rw [FromItem.text, List.append_assoc, tableItem?,
        dropWhile_run hgap (name.isName.isBlank_of_head _), hname, Option.bind_eq_bind,
        Option.bind_some]
      simp only [dropPoint?_aliasText hrest, Option.bind_none, aliasName?_aliasText hrest]
      cases asName <;> simp [FromItem.item?, aliasText, hend]
  | qualified database name asName =>
      have hpoint : ∀ c ∈ ('.' :: (name.chars ++ (aliasText asName ++ rest))).head?,
          isNameChar c = false := by
        rintro c ⟨⟩
        decide
      have hfirst := takeName?_eq_some_iff.mpr
        ⟨rfl, database.isName.ne_nil, database.isName.isNameChar_of_mem, hpoint⟩
      have hsecond := takeName?_eq_some_iff.mpr
        ⟨rfl, name.isName.ne_nil, name.isName.isNameChar_of_mem, hstop asName⟩
      have hdrop := dropPoint?_cons (name.isName.isBlank_of_head (aliasText asName ++ rest))
      rw [FromItem.text, List.append_assoc, List.cons_append, List.append_assoc, tableItem?,
        dropWhile_run hgap (database.isName.isBlank_of_head _), hfirst, Option.bind_eq_bind,
        Option.bind_some]
      simp only [hdrop, Option.bind_some, hsecond, aliasName?_aliasText hrest]
      cases asName <;> simp [FromItem.item?, aliasText, hend]
  | derived query asName =>
      rw [FromItem.text, List.cons_append, tableItem?_eq_none hgap (by decide) (by decide)]
      rfl

/-! ### The walk -/

/-- The items that the walk comes to. -/
def reached (items : List FromItem) : List FromItem :=
  items.takeWhile fun i => !i.isDerived

/-- What an item gives where the walk comes to it. -/
def FromItem.places (i : FromItem) : TablePlaces :=
  (i.item?.map TableItem.places).getD ⟨[], []⟩

/-- The walk goes on behind a comma. -/
theorem listedTables_of_comma {marker : String} (hmarker : listsTables marker = true)
    {cs more : List Char} {item : TableItem} (hitem : tableItem? cs = some (item, ',' :: more))
    (hclause : isClauseWord item.first = false) (n : Nat) :
    listedTables marker (n + 1) cs = item.places.append (listedTables marker n more) := by
  rw [listedTables, hitem]
  simp only [hclause, hmarker, Bool.false_eq_true, if_false, if_true]

/-- The walk ends with the text. -/
theorem listedTables_of_end {cs : List Char} {item : TableItem}
    (hitem : tableItem? cs = some (item, [])) (hclause : isClauseWord item.first = false)
    (marker : String) (n : Nat) : listedTables marker (n + 1) cs = item.places := by
  rw [listedTables, hitem]
  simp only [hclause, Bool.false_eq_true, if_false]

theorem FromItem.not_clauseWord {i : FromItem} {item : TableItem} (h : i.item? = some item) :
    isClauseWord item.first = false := by
  cases i with
  | table name asName => cases h; exact name.not_clauseWord
  | qualified database name asName => cases h; exact database.not_clauseWord
  | derived query asName => cases h

/-- **The walk through a list** comes to the items before the first derived table. -/
theorem listedTables_listText {marker : String} (hmarker : listsTables marker = true)
    {gap : List Char} (hgap : ∀ c ∈ gap, isBlank c = true) (items : List FromItem) (n : Nat)
    (hn : items.length ≤ n) {before : List Char} (hbefore : ∀ c ∈ before, isBlank c = true) :
    listedTables marker n (before ++ listText gap items) =
      ⟨(reached items).flatMap (·.places.databases),
        (reached items).flatMap (·.places.declared)⟩ := by
  induction items generalizing n before with
  | nil =>
      have hnone : tableItem? (before ++ []) = none := by
        rw [List.append_nil, tableItem?, List.dropWhile_eq_nil_iff.mpr hbefore]
        rfl
      cases n with
      | zero => rfl
      | succ n =>
          rw [listedTables, listText, hnone]
          rfl
  | cons i rest ih =>
      obtain ⟨n, rfl⟩ := Nat.exists_eq_add_of_le' (Nat.lt_of_lt_of_le (Nat.succ_pos _) hn)
      have hread := tableItem?_text hbefore (endsItem_moreItems gap rest) i
      have hrest := ih n (Nat.le_of_succ_le_succ hn) hgap
      rw [listText]
      cases hitem : i.item? with
      | none =>
          -- a derived table ends the walk
          have hderived : reached (i :: rest) = [] := by
            cases i with
            | derived query asName => rfl
            | table name asName => cases hitem
            | qualified database name asName => cases hitem
          rw [listedTables, hread, hitem, hderived]
          rfl
      | some item =>
          have hreached : reached (i :: rest) = i :: reached rest := by
            cases i with
            | derived query asName => cases hitem
            | table name asName => rfl
            | qualified database name asName => rfl
          have hplaces : i.places = item.places := by rw [FromItem.places, hitem]; rfl
          have hclause := FromItem.not_clauseWord hitem
          rw [hitem, Option.map_some] at hread
          rw [hreached, List.flatMap_cons, List.flatMap_cons, hplaces]
          cases rest with
          | nil =>
              rw [moreItems] at hread
              rw [moreItems, listedTables_of_end hread hclause]
              simp [reached]
          | cons j rest =>
              rw [moreItems] at hread
              rw [moreItems, listedTables_of_comma hmarker hread hclause]
              exact congrArg item.places.append hrest

/-- A text is as long as its list. -/
theorem length_le_listText (gap : List Char) (items : List FromItem) :
    items.length ≤ (listText gap items).length := by
  have hmore (items : List FromItem) : items.length ≤ (moreItems gap items).length := by
    induction items with
    | nil => exact Nat.le_refl 0
    | cons i rest ih =>
        rw [moreItems, List.length_cons, List.length_cons, List.length_append, List.length_append]
        omega
  have hpos (i : FromItem) : 0 < i.text.length := by
    cases i <;> simp [FromItem.text, Identifier.chars]
  cases items with
  | nil => exact Nat.le_refl 0
  | cons i rest =>
      rw [listText, List.length_cons, List.length_append]
      have := hmore rest
      have := hpos i
      omega

theorem moreItems_append (gap : List Char) (a b : List FromItem) :
    moreItems gap (a ++ b) = moreItems gap a ++ moreItems gap b := by
  induction a with
  | nil => rfl
  | cons i a ih => simp [moreItems, ih]

theorem listText_append {gap : List Char} {before after : List FromItem} (i : FromItem)
    (hbefore : before ≠ []) :
    listText gap (before ++ i :: after) =
      (listText gap before ++ [',']) ++ gap ++ (i.text ++ moreItems gap after) := by
  obtain ⟨j, before, rfl⟩ := List.exists_cons_of_ne_nil hbefore
  simp [listText, moreItems_append, moreItems]

section

variable {gap : List Char} (hgap : ∀ c ∈ gap, isBlank c = true) {items before after : List FromItem}
  {database name : Identifier} {asName : Option Alias}

include hgap

/-- The places of a list are found. -/
theorem listed_mem_findAll (items : List FromItem) :
    (⟨(reached items).flatMap (·.places.databases), (reached items).flatMap (·.places.declared)⟩ :
      TablePlaces) ∈ findAll tablePlace? (selectFrom gap items) := by
  have hmem : "FROM" ∈ tableWords := by decide
  have hspells : Spells "FROM".toList ['F', 'R', 'O', 'M'] := by decide +kernel
  have hfront : ∀ c ∈ ['S', 'E', 'L', 'E', 'C', 'T', ' ', '*', ' '].getLast?,
      isWordChar c = false := by
    rintro c ⟨⟩
    decide
  have hrest : ∀ c ∈ ([' '] ++ listText gap items).head?, isWordChar c = false := by
    rintro c ⟨⟩
    decide
  have hfound := listedTables_mem_findAll hmem hspells hfront hrest
  have hlength := length_le_listText gap items
  rw [listedTables_listText (by decide) hgap items _
    (by rw [List.length_append]; omega) isBlank_of_mem_space] at hfound
  exact hfound

/-- **A database before the first derived table** is in table position. -/
theorem mem_databases_of_reached (hbefore : ∀ i ∈ before, i.isDerived = false) :
    database.chars ∈ (tablePlaces
      (selectFrom gap (before ++ .qualified database name asName :: after))).databases := by
  rw [databases_tablePlaces, List.mem_flatMap]
  refine ⟨_, listed_mem_findAll hgap _,
    List.mem_flatMap.mpr ⟨.qualified database name asName, ?_, ?_⟩⟩
  · rw [reached, List.takeWhile_append_of_pos fun i hi => by rw [hbefore i hi]; rfl]
    exact List.mem_append_right _ List.mem_cons_self
  · exact List.mem_singleton_self _

/-- The character before what follows a comma and a gap is no word character. -/
theorem isWordChar_of_lastOf?_comma (front : List Char) {before : Option Char} :
    ∀ c ∈ lastOf? before (front ++ [','] ++ gap), isWordChar c = false := by
  intro c hc
  rw [lastOf?_append, lastOf?_append, lastOf?] at hc
  cases hlast : gap.getLast? with
  | none =>
      obtain rfl : ',' = c := by simpa [lastOf?, hlast] using hc
      decide
  | some b =>
      obtain rfl : b = c := by simpa [hlast] using hc
      have hblank := isNameChar_of_isBlank (hgap b (List.mem_of_getLast? hlast))
      by_contra hword
      rw [isNameChar_of_isWordChar (Bool.not_eq_false _ ▸ hword)] at hblank
      cases hblank

/-- **A qualified table behind a comma** is found. -/
theorem mem_findAll_of_comma (database name : Identifier) (front rest : List Char) :
    ∃ three, (database.chars, three) ∈ findAll qualified?
      (front ++ [','] ++ gap ++ (database.chars ++ '.' :: (name.chars ++ rest))) := by
  -- the comma stops the search, and no qualified name starts in the gap
  have hcomma : StopsBefore qualified? none (front ++ [','])
      (gap ++ (database.chars ++ '.' :: (name.chars ++ rest))) := by
    refine stopsBefore_qualified? ?_
    rw [List.getLast?_concat]
    rintro c ⟨⟩
    decide
  have hstops := hcomma.append (stopsBefore_of_none fun c hc => qualified?_of_isBlank (hgap c hc))
  obtain ⟨three, last, hread⟩ := qualified?_identifiers (isWordChar_of_lastOf?_comma hgap front)
    database name rest
  exact ⟨three, mem_findAll_of_stopsBefore hstops hread⟩

end

variable {policy : Policy}

/-- A database that a list qualifies a table with is referenced, where the walk comes to it or
where it is not declared. -/
theorem exists_reference {gap : List Char} (hgap : ∀ c ∈ gap, isBlank c = true)
    {before after : List FromItem} {database name : Identifier} {asName : Option Alias}
    (h : (∀ i ∈ before, i.isDerived = false) ∨ localName database.chars ∉ (tablePlaces
      (selectFrom gap (before ++ .qualified database name asName :: after))).declared) :
    ∃ inDefinition, ⟨String.ofList database.chars, .qualifier, inDefinition⟩ ∈
      pieceReferences (selectFrom gap (before ++ .qualified database name asName :: after)) := by
  refine ⟨isDefinition (selectFrom gap (before ++ .qualified database name asName :: after)), ?_⟩
  by_cases hbefore : ∀ i ∈ before, i.isDerived = false
  · exact mem_pieceReferences_of_database (mem_databases_of_reached hgap hbefore)
  · have hne : before ≠ [] := by
      rintro rfl
      exact hbefore (by simp)
    obtain ⟨three, hfound⟩ := mem_findAll_of_comma hgap database name
      (selectStart ++ listText gap before) (aliasText asName ++ moreItems gap after)
    have htext (start : List Char) :
        start ++ listText gap (before ++ .qualified database name asName :: after) =
          start ++ listText gap before ++ [','] ++ gap ++ (database.chars ++
            '.' :: (name.chars ++ (aliasText asName ++ moreItems gap after))) := by
      rw [listText_append _ hne, FromItem.text]
      simp
    rw [← htext, ← selectFrom] at hfound
    exact mem_pieceReferences_of_qualified hfound (h.resolve_left hbefore)

/-- **No local name hides a database that the walk comes to.** The database of a qualified
table in the list of a piece is referenced if no derived table stands before it, or if the piece
does not declare its name; then the text is denied where the database is none that the session
may read. -/
theorem database_referenced (hisolation : policy.isolation = true)
    (hlevel : policy.accessLevel ≠ .permissive) {gap : List Char}
    (hgap : ∀ c ∈ gap, isBlank c = true) {before after : List FromItem}
    {database name : Identifier} {asName : Option Alias} {sql : String}
    (hpiece : selectFrom gap (before ++ .qualified database name asName :: after) ∈
      cutAt (· == ';') (maskSql sql))
    (h : (∀ i ∈ before, i.isDerived = false) ∨ localName database.chars ∉ (tablePlaces
      (selectFrom gap (before ++ .qualified database name asName :: after))).declared) :
    localName database.chars ∈ (report sql policy).referenced.names ∧
      ((∀ a ∈ allowedDatabases policy, ¬ SameInLowerCase (localName database.chars) a) →
        check sql policy ≠ []) := by
  obtain ⟨inDefinition, hreference⟩ := exists_reference hgap h
  have hr := mem_references_of_piece hpiece hreference
  have hname : Reference.lowerName ⟨String.ofList database.chars, .qualifier, inDefinition⟩ =
      localName database.chars := by
    rw [Reference.lowerName, lowerString, String.toList_ofList, localName]
  exact ⟨mem_referenced_iff.mpr ⟨_, hr, hname⟩, fun hforeign =>
    check_ne_nil_of_reference hisolation hlevel hr (.inl rfl)
      (hname ▸ isAuthorized_eq_false hforeign)⟩

/-- The identifiers of the examples. -/
def exampleDatabase : Identifier :=
  ⟨'d', [], by decide, by simp, by decide +kernel⟩

def exampleTable : Identifier :=
  ⟨'t', [], by decide, by simp, by decide +kernel⟩

/-- An alias in front of a qualified table does not hide its database. -/
theorem database_referenced_of_alias :
    "d" ∈ (report "SELECT * FROM t AS d, d.t" isolatedPolicy).referenced.names ∧
      check "SELECT * FROM t AS d, d.t" isolatedPolicy ≠ [] := by
  let before : List FromItem := [.table exampleTable (some ⟨true, exampleDatabase⟩)]
  have htext : "SELECT * FROM t AS d, d.t" = String.ofList (selectFrom [' ']
      (before ++ .qualified exampleDatabase exampleTable none :: [])) := by
    decide +kernel
  have hplain : ∀ i ∈ before ++ .qualified exampleDatabase exampleTable none :: [],
      ∀ c ∈ i.query, isPlain c = true := by
    simp [before, FromItem.query]
  have hpiece := selectFrom_mem_pieces isBlank_of_mem_space hplain
  rw [← htext] at hpiece
  have hisolation : isolatedPolicy.isolation = true := rfl
  obtain ⟨hreferenced, hdenied⟩ := database_referenced hisolation (by decide)
    isBlank_of_mem_space hpiece (.inl (by simp [before, FromItem.isDerived]))
  refine ⟨hreferenced, hdenied ?_⟩
  have hallowed : allowedDatabases isolatedPolicy = ["appdb"] := by decide
  rw [hallowed]
  exact List.forall_mem_singleton.mpr (by decide +kernel)

/-- A derived table in front of a qualified table hides its database, if its alias is the same. -/
theorem database_hidden_of_derived :
    maskSql "SELECT * FROM (SELECT 1) d, d.t" = selectFrom [' ']
      [.derived ['S', 'E', 'L', 'E', 'C', 'T', ' ', '1'] ⟨false, exampleDatabase⟩,
        .qualified exampleDatabase exampleTable none] ∧
      (report "SELECT * FROM (SELECT 1) d, d.t" isolatedPolicy).referenced.names = [] ∧
      check "SELECT * FROM (SELECT 1) d, d.t" isolatedPolicy = [] := by
  refine ⟨?_, ?_, ?_⟩ <;> decide +kernel

end SqlGateway.Scope
