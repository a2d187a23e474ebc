import SqlGateway.Proofs.Text.Phrase
import SqlGateway.Scope.Reference

/-!
# Databases in Table Position

Behind a word such as `FROM` or `UPDATE` a table is expected, and a name before a point there
is a database, whatever the piece declares: the names of table position are collected apart
from those that a declaration can excuse.

A *table position* of a piece is such a word with a qualified table behind it, put down as the
parts of the text. The word is found wherever it stands, since a find covers a word and stops
before the next, and what is read behind it is the qualified table.

## Main results

* `wholeWord?_eq_some`, `wholeWord?_append`: which whole words are read.
* `tableItem?_qualified`: what is read of a qualified table.
* `databases_tablePlaces`: the databases of a piece are those of its places.
* `TablePosition.mem_pieceReferences`: a database in table position is referenced.
-/

namespace SqlGateway.Scope

open Text

/-! ### Whole words -/

/-- Where a word starts, there is a word boundary. -/
theorem atBoundary_append {word : List Char} (hne : word ≠ [])
    (hword : ∀ c ∈ word, isWordChar c = true) {before : Option Char}
    (hbefore : ∀ c ∈ before, isWordChar c = false) (rest : List Char) :
    atBoundary before (word ++ rest) = true := by
  obtain ⟨first, more, rfl⟩ := List.exists_cons_of_ne_nil hne
  have hany : before.any isWordChar = false := by
    cases before with
    | none => rfl
    | some c => simpa using hbefore c rfl
  rw [atBoundary, isWordBoundary, hany, List.cons_append, startsWord,
    hword first List.mem_cons_self]
  rfl

theorem startsWord_eq_false {rest : List Char} (h : ∀ c ∈ rest.head?, isWordChar c = false) :
    startsWord rest = false := by
  cases rest with
  | nil => rfl
  | cons c rest => exact h c rfl

/-- A whole word that is read is one of the words in some letter case, and it goes as far as
the word characters go. -/
theorem wholeWord?_eq_some {words : List String} {before : Option Char} {cs rest : List Char}
    {w : String} (h : wholeWord? words before cs = some (w, rest)) :
    w ∈ words ∧ ∃ word, cs = word ++ rest ∧ Spells w.toList word ∧
      ∀ c ∈ rest.head?, isWordChar c = false := by
  rw [wholeWord?] at h
  split at h
  · obtain ⟨w', hw', hread⟩ := List.exists_of_findSome?_eq_some h
    split at hread
    · rename_i after hdrop
      split at hread
      · cases hread
      · rename_i hstart
        cases hread
        obtain ⟨word, rfl, hspells⟩ := dropLetters?_eq_some_iff.mp hdrop
        refine ⟨hw', word, rfl, hspells, ?_⟩
        cases rest with
        | nil => simp
        | cons c rest => simpa [startsWord] using hstart
    · cases hread
  · cases h

/-- A whole word is read, and nothing behind it. -/
theorem wholeWord?_append {words : List String} (hwords : ∀ w ∈ words, IsKeyword w) {w : String}
    (hw : w ∈ words) {word rest : List Char} (hspells : Spells w.toList word)
    {before : Option Char} (hbefore : ∀ c ∈ before, isWordChar c = false)
    (hrest : ∀ c ∈ rest.head?, isWordChar c = false) :
    wholeWord? words before (word ++ rest) = some (w, rest) := by
  have hword := hspells.isWordChar (hwords w hw)
  have hboundary := atBoundary_append (hspells.ne_nil (hwords w hw)) hword hbefore rest
  have hsome : (wholeWord? words before (word ++ rest)).isSome = true := by
    rw [wholeWord?, if_pos hboundary, List.findSome?_isSome_iff]
    refine ⟨w, hw, ?_⟩
    have hdrop : dropWord? w (word ++ rest) = some rest :=
      dropLetters?_eq_some_iff.mpr ⟨_, rfl, hspells⟩
    simp only [hdrop, startsWord_eq_false hrest, Bool.false_eq_true, if_false, Option.isSome_some]
  obtain ⟨⟨w', rest'⟩, hread⟩ := Option.isSome_iff_exists.mp hsome
  -- the word that is read ends where the run of word characters ends
  obtain ⟨hw', word', heq, hspells', hrest'⟩ := wholeWord?_eq_some hread
  have hdrop : (word ++ rest).dropWhile isWordChar = rest := dropWhile_run hword hrest
  rw [heq, dropWhile_run (hspells'.isWordChar (hwords w' hw')) hrest'] at hdrop
  subst hdrop
  obtain rfl : word = word' := List.append_cancel_right heq
  rw [hread, hspells.unique (hwords w hw) (hwords w' hw') hspells']

/-- The words after which a table is expected. -/
def tableWords : List String :=
  ["FROM", "JOIN", "UPDATE", "INTO", "TABLE", "TABLES"]

theorem isKeyword_of_mem_tableWords : ∀ w ∈ tableWords, IsKeyword w := by
  decide

/-- A place where tables are expected is a word and what is listed behind it. -/
theorem tablePlace?_eq (before : Option Char) (cs : List Char) :
    tablePlace? before cs = (wholeWord? tableWords before cs).map fun (w, rest) =>
      (listedTables w (rest.length + 1) rest, rest) := by
  have hposition : tablePosition? = wholeWord? tableWords := rfl
  rw [tablePlace?, hposition]
  cases wholeWord? tableWords before cs <;> rfl

/-- The search for places where tables are expected stops before a word. -/
theorem stopsBefore_tablePlace? {before : Option Char} {pre cs : List Char}
    (hpre : ∀ c ∈ pre.getLast?, isWordChar c = false) :
    StopsBefore tablePlace? before pre cs := by
  refine stopsBefore_of_run (fun before cs places rest h => ?_) hpre
  rw [tablePlace?_eq] at h
  obtain ⟨⟨w, after⟩, hword, heq⟩ := Option.map_eq_some_iff.mp h
  obtain ⟨-, rfl⟩ := Prod.mk.inj heq
  obtain ⟨hw, word, rfl, hspells, -⟩ := wholeWord?_eq_some hword
  exact ⟨word, rfl, hspells.isWordChar (isKeyword_of_mem_tableWords w hw)⟩

/-- What is listed behind a word of table position is found. -/
theorem listedTables_mem_findAll {w : String} (hw : w ∈ tableWords) {front word rest : List Char}
    (hspells : Spells w.toList word) (hfront : ∀ c ∈ front.getLast?, isWordChar c = false)
    (hrest : ∀ c ∈ rest.head?, isWordChar c = false) :
    listedTables w (rest.length + 1) rest ∈ findAll tablePlace? (front ++ (word ++ rest)) := by
  have hbefore : ∀ c ∈ lastOf? none front, isWordChar c = false := by
    simpa [lastOf?] using hfront
  have hword := wholeWord?_append isKeyword_of_mem_tableWords hw hspells hbefore hrest
  have hplace : tablePlace? (lastOf? none front) (word ++ rest) =
      some (listedTables w (rest.length + 1) rest, rest) := by
    rw [tablePlace?_eq, hword, Option.map_some]
  obtain ⟨first, more, rfl⟩ := List.exists_cons_of_ne_nil
    (hspells.ne_nil (isKeyword_of_mem_tableWords w hw))
  exact mem_findAll_of_stopsBefore (stopsBefore_tablePlace? hfront) hplace

/-! ### Tables -/

theorem dropPoint?_append {before behind : List Char} (hbefore : ∀ c ∈ before, isBlank c = true)
    (hbehind : ∀ c ∈ behind, isBlank c = true) {rest : List Char}
    (hrest : ∀ c ∈ rest.head?, isBlank c = false) :
    dropPoint? (before ++ '.' :: (behind ++ rest)) = some rest := by
  rw [dropPoint?, dropWhile_run hbefore (by simp [show isBlank '.' = false by decide])]
  exact congrArg some (dropWhile_run hbehind hrest)

theorem dropPoint?_cons {rest : List Char} (hrest : ∀ c ∈ rest.head?, isBlank c = false) :
    dropPoint? ('.' :: rest) = some rest := by
  have hnil : ∀ c ∈ ([] : List Char), isBlank c = true := List.forall_mem_nil _
  exact dropPoint?_append hnil hnil hrest

/-- A name as tables and databases have: one or more name characters. -/
structure IsName (name : List Char) : Prop where
  ne_nil : name ≠ []
  isNameChar_of_mem : ∀ c ∈ name, isNameChar c = true

theorem IsName.isBlank_of_head {name : List Char} (h : IsName name) (post : List Char) :
    ∀ c ∈ (name ++ post).head?, isBlank c = false := by
  obtain ⟨first, more, rfl⟩ := List.exists_cons_of_ne_nil h.ne_nil
  rintro c hc
  cases hc
  exact isBlank_of_isNameChar (h.isNameChar_of_mem _ List.mem_cons_self)

/-- No table starts with a character that stands in no name. -/
theorem tableItem?_eq_none {gap rest : List Char} {c : Char} (hgap : ∀ d ∈ gap, isBlank d = true)
    (hblank : isBlank c = false) (hname : isNameChar c = false) :
    tableItem? (gap ++ c :: rest) = none := by
  rw [tableItem?, dropWhile_run hgap (by rintro d ⟨⟩; exact hblank),
    takeName?_eq_none (by rintro d ⟨⟩; exact hname)]
  rfl

/-- **What is read of a qualified table** behind blanks: its two names. -/
theorem tableItem?_qualified {gap database before behind table : List Char}
    (hgap : ∀ c ∈ gap, isBlank c = true) (hdatabase : IsName database)
    (hbefore : ∀ c ∈ before, isBlank c = true) (hbehind : ∀ c ∈ behind, isBlank c = true)
    (htable : IsName table) (post : List Char) :
    ∃ item rest,
      tableItem? (gap ++ (database ++ (before ++ '.' :: (behind ++ (table ++ post))))) =
        some (item, rest) ∧ item.first = database ∧ item.second.isSome = true := by
  have hpoint : ∀ c ∈ (before ++ '.' :: (behind ++ (table ++ post))).head?,
      isNameChar c = false := by
    cases before with
    | nil => rintro c ⟨⟩; decide
    | cons b before => rintro c ⟨⟩; exact isNameChar_of_isBlank (hbefore b List.mem_cons_self)
  have hfirst := takeName?_eq_some_iff.mpr
    ⟨rfl, hdatabase.ne_nil, hdatabase.isNameChar_of_mem, hpoint⟩
  have hsecond := takeName?_append htable.ne_nil htable.isNameChar_of_mem post
  rw [tableItem?, dropWhile_run hgap (hdatabase.isBlank_of_head _), hfirst,
    Option.bind_eq_bind, Option.bind_some]
  simp only [dropPoint?_append hbefore hbehind (htable.isBlank_of_head post), Option.bind_some,
    hsecond]
  exact ⟨_, _, rfl, rfl, rfl⟩

/-- The first table behind a word counts, unless it is a clause word. -/
theorem first_mem_databases_listedTables (marker : String) (n : Nat) {cs rest : List Char}
    {item : TableItem} (h : tableItem? cs = some (item, rest))
    (hsecond : item.second.isSome = true) (hclause : isClauseWord item.first = false) :
    item.first ∈ (listedTables marker (n + 1) cs).databases := by
  have hmem : item.first ∈ item.places.databases := by
    obtain ⟨table, htable⟩ := Option.isSome_iff_exists.mp hsecond
    rw [TableItem.places, htable]
    exact List.mem_singleton_self _
  rw [listedTables, h]
  simp only [hclause, Bool.false_eq_true, if_false]
  split
  · split
    · exact List.mem_append_left _ hmem
    · exact hmem
  · exact hmem

/-! ### Pieces -/

theorem foldl_append (l : List TablePlaces) (a : TablePlaces) :
    l.foldl TablePlaces.append a =
      ⟨a.databases ++ l.flatMap (·.databases), a.declared ++ l.flatMap (·.declared)⟩ := by
  induction l generalizing a with
  | nil => simp
  | cons b l ih => simp [ih, TablePlaces.append]

/-- The databases in table position are those of the places where tables are expected. -/
theorem databases_tablePlaces (piece : List Char) :
    (tablePlaces piece).databases = (findAll tablePlace? piece).flatMap (·.databases) := by
  rw [tablePlaces, foldl_append, List.nil_append]

/-- A database in table position is referenced. -/
theorem mem_pieceReferences_of_database {piece name : List Char}
    (h : name ∈ (tablePlaces piece).databases) :
    ⟨String.ofList name, .qualifier, isDefinition piece⟩ ∈ pieceReferences piece :=
  List.mem_append_left _ (List.mem_append_right _ (List.mem_map_of_mem h))

/-- A word behind which a table is expected, and behind it a qualified table: the parts of the
text, from its start to its end. -/
structure TablePosition (piece : List Char) where
  front : List Char
  word : List Char
  gap : List Char
  database : List Char
  beforePoint : List Char
  behindPoint : List Char
  table : List Char
  back : List Char
  eq_append : piece = front ++ (word ++ (gap ++ (database ++ (beforePoint ++ '.' ::
    (behindPoint ++ (table ++ back))))))
  /-- The word is one after which a table is expected, in any letter case. -/
  spells : ∃ w ∈ tableWords, Spells w.toList word
  /-- It is a whole word. -/
  wordBefore : ∀ c ∈ front.getLast?, isWordChar c = false
  wordBehind : ∀ c ∈ (gap ++ database).head?, isWordChar c = false
  gap_blank : ∀ c ∈ gap, isBlank c = true
  beforePoint_blank : ∀ c ∈ beforePoint, isBlank c = true
  behindPoint_blank : ∀ c ∈ behindPoint, isBlank c = true
  database_name : IsName database
  table_name : IsName table

/-- **A database in table position is referenced**, whatever else stands in the piece. -/
theorem TablePosition.mem_pieceReferences {piece : List Char} (p : TablePosition piece)
    (hclause : isClauseWord p.database = false) :
    ⟨String.ofList p.database, .qualifier, isDefinition piece⟩ ∈ pieceReferences piece := by
  apply mem_pieceReferences_of_database
  rw [databases_tablePlaces, List.mem_flatMap]
  obtain ⟨w, hw, hspells⟩ := p.spells
  obtain ⟨item, rest, hitem, hfirst, hsecond⟩ := tableItem?_qualified p.gap_blank
    p.database_name p.beforePoint_blank p.behindPoint_blank p.table_name p.back
  have hbehind : ∀ c ∈ (p.gap ++ (p.database ++ (p.beforePoint ++ '.' ::
      (p.behindPoint ++ (p.table ++ p.back))))).head?, isWordChar c = false := by
    intro c hc
    refine p.wordBehind c ?_
    rw [← List.append_assoc, List.head?_append_of_ne_nil] at hc
    · exact hc
    · simp [p.database_name.ne_nil]
  have hfound := listedTables_mem_findAll hw hspells p.wordBefore hbehind
  rw [← p.eq_append] at hfound
  have hdatabase (n : Nat) := first_mem_databases_listedTables w n hitem hsecond
    (hfirst ▸ hclause)
  rw [hfirst] at hdatabase
  exact ⟨_, hfound, hdatabase _⟩

end SqlGateway.Scope
