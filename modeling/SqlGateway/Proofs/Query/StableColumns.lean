import SqlGateway.Proofs.Statement.Representation
import SqlGateway.Proofs.Text.NameMap
import SqlGateway.Query.Shape

/-!
# Columns with Fixed Names

Shaping a result adds columns behind those that the server returned, and behind each row its values
for them. The values are taken from the row at positions that are looked up before anything is
added, so they are those of the row as it came (`shape_eq_grow`): what is added first is never
looked at when more is added. All that callers rely on follows from this form.

Columns are looked up without regard to the case of letters in ASCII, so a `TABLE_NAME` counts as a
`table_name`; but a record has the names as they are written, and of two columns with one name the
later counts. The added columns come last, so a record has their values under their names, whatever
else the server called by these names.

## Main results

* `shape_eq_grow`: shaping adds columns with values of the rows as they came.
* `stableColumns_grow`: nothing is added twice.
* `recordsHave_grow`: what the records have under the name of an added column.
* `shape_parse`: what shaping does to the result of any text.
-/

namespace SqlGateway

open Text
open NameMap (get?_ofList_append_cons)
open Statement (parse)

namespace Column

/-- A column has a name, whatever the case of the letters in ASCII. -/
def IsNamed (name : String) (c : Column) : Prop :=
  sameName c.name name = true

/-- A column of `SHOW TABLES`, with the name of the database behind its start. -/
def IsTablesOf (database : String) (c : Column) : Prop :=
  ∃ start, c.name = start ++ database ∧ sameName start QueryResult.tablesStart = true

/-- A column of `SHOW TABLES`. -/
def IsTables (c : Column) : Prop :=
  ∃ database, c.IsTablesOf database

end Column

namespace QueryResult

variable {r : QueryResult} {s : Statement}

/-! ### Looking columns up -/

/-- The first column of some kind, and its position. -/
def IsFirst (kind : Column → Prop) (columns : List Column) (i : Nat) (c : Column) : Prop :=
  ∃ before after, columns = before ++ c :: after ∧ before.length = i ∧ kind c ∧
    ∀ d ∈ before, ¬ kind d

theorem IsFirst.kind {kind : Column → Prop} {columns : List Column} {i : Nat} {c : Column}
    (h : IsFirst kind columns i c) : kind c := by
  obtain ⟨_, _, -, -, hkind, -⟩ := h
  exact hkind

/-- A result has a column of some kind. -/
def Has (r : QueryResult) (kind : Column → Prop) : Prop :=
  ∃ c ∈ r.columns, kind c

theorem exists_isFirst {kind : Column → Prop} (h : r.Has kind) :
    ∃ i c, IsFirst kind r.columns i c := by
  rw [Has] at h
  generalize r.columns = columns at h ⊢
  induction columns with
  | nil => simp at h
  | cons d columns ih =>
      by_cases hd : kind d
      · exact ⟨0, d, [], columns, rfl, rfl, hd, nofun⟩
      · obtain ⟨i, c, before, after, rfl, hi, hc, hbefore⟩ := ih (by simpa [hd] using h)
        exact ⟨i + 1, c, d :: before, after, rfl, by rw [List.length_cons, hi], hc,
          List.forall_mem_cons.mpr ⟨hd, hbefore⟩⟩

theorem length_of_sameName {a b : String} (h : sameName a b = true) :
    a.toList.length = b.toList.length := by
  rw [sameName, beq_iff_eq] at h
  simpa using congrArg List.length h

theorem tablesColumn?_eq_some_iff {c : Column} {database : String} :
    tablesColumn? c = some database ↔ c.IsTablesOf database := by
  unfold tablesColumn?
  constructor
  · intro h
    dsimp only at h
    split at h
    · rename_i hstart
      refine ⟨_, ?_, hstart⟩
      rw [← Option.some.inj h, ← String.toList_inj, String.toList_append, String.toList_ofList,
        String.toList_ofList, List.take_append_drop]
    · cases h
  · rintro ⟨start, hname, hstart⟩
    have hlength : tablesStart.toList.length = start.toList.length :=
      (length_of_sameName hstart).symm
    have htake : c.name.toList.take tablesStart.toList.length = start.toList := by
      rw [hname, String.toList_append, hlength, List.take_left]
    have hdrop : c.name.toList.drop tablesStart.toList.length = database.toList := by
      rw [hname, String.toList_append, hlength, List.drop_left]
    dsimp only
    rw [htake, hdrop, String.ofList_toList, String.ofList_toList, if_pos hstart]

theorem tablesColumn?_eq_none_iff {c : Column} : tablesColumn? c = none ↔ ¬ c.IsTables := by
  simp only [Column.IsTables, not_exists, ← tablesColumn?_eq_some_iff,
    Option.eq_none_iff_forall_ne_some, ne_eq]

theorem findTables?_of_first {n : Nat} {before after : List Column} {c : Column}
    {database : String} (hbefore : ∀ d ∈ before, ¬ d.IsTables) (hc : c.IsTablesOf database) :
    findTables? n (before ++ c :: after) = some (n + before.length, c, database) := by
  induction before generalizing n with
  | nil => rw [List.nil_append, findTables?, tablesColumn?_eq_some_iff.mpr hc]; rfl
  | cons d before ih =>
      obtain ⟨hd, hbefore⟩ := List.forall_mem_cons.mp hbefore
      rw [List.cons_append, findTables?, tablesColumn?_eq_none_iff.mpr hd, ih hbefore,
        List.length_cons, Nat.add_assoc, Nat.add_comm 1]

theorem findTables?_eq_none_iff {n : Nat} {columns : List Column} :
    findTables? n columns = none ↔ ∀ c ∈ columns, ¬ c.IsTables := by
  induction columns generalizing n with
  | nil => simp [findTables?]
  | cons c columns ih =>
      rw [findTables?, List.forall_mem_cons, ← ih (n := n + 1), ← tablesColumn?_eq_none_iff]
      cases tablesColumn? c <;> simp

theorem columnIndex?_of_first {name : String} {i : Nat} {c : Column}
    (h : IsFirst (·.IsNamed name) r.columns i c) : r.columnIndex? name = some i := by
  obtain ⟨before, after, hcolumns, rfl, hc, hbefore⟩ := h
  have hnone : before.findIdx? (fun c => sameName c.name name) = none := by
    simpa [List.findIdx?_eq_none_iff, Column.IsNamed] using hbefore
  have hsome : sameName c.name name = true := hc
  rw [columnIndex?, hcolumns, List.findIdx?_append, hnone, List.findIdx?_cons, hsome]
  simp

theorem columnIndex?_eq_none_iff {name : String} :
    r.columnIndex? name = none ↔ ¬ r.Has (·.IsNamed name) := by
  simp [columnIndex?, List.findIdx?_eq_none_iff, Has, Column.IsNamed]

theorem isSome_columnIndex? {name : String} :
    (r.columnIndex? name).isSome = true ↔ r.Has (·.IsNamed name) := by
  rw [Option.isSome_iff_ne_none, Ne, columnIndex?_eq_none_iff, not_not]

/-! ### Growing -/

/-- Columns to be added, each with its value for a row. -/
abbrev Addition := Column × (Row → Value)

/-- A result with columns added; their values are taken from the rows as they are. -/
def grow (r : QueryResult) (added : List Addition) : QueryResult :=
  { r with
    columns := r.columns ++ added.map (·.1)
    rows := r.rows.map fun row => row ++ added.map (·.2 row) }

/-- Every row is as long as the list of columns. -/
def IsAligned (r : QueryResult) : Prop :=
  ∀ row ∈ r.rows, row.length = r.columns.length

section

variable {added : List Addition}

@[simp] theorem columns_grow : (r.grow added).columns = r.columns ++ added.map (·.1) := rfl

@[simp] theorem rows_grow :
    (r.grow added).rows = r.rows.map fun row => row ++ added.map (·.2 row) := rfl

theorem grow_nil (r : QueryResult) : r.grow [] = r := by
  simp [grow]

/-- A column that is added to a result that has grown, with values that the rows had before. -/
theorem pushColumn_grow {c : Column} {value value' : Row → Value}
    (h : ∀ row ∈ r.rows, value (row ++ added.map (·.2 row)) = value' row) :
    (r.grow added).pushColumn c value = r.grow (added ++ [(c, value')]) := by
  have hrows : ∀ row ∈ r.rows,
      (row ++ added.map (·.2 row)) ++ [value (row ++ added.map (·.2 row))] =
        row ++ (added ++ [(c, value')]).map (·.2 row) := by
    intro row hrow
    rw [h row hrow, List.map_append, ← List.append_assoc]
    rfl
  rw [pushColumn, grow, grow, List.map_map]
  congr 1
  · simp
  · exact List.map_congr_left hrows

theorem has_grow {kind : Column → Prop} :
    (r.grow added).Has kind ↔ r.Has kind ∨ ∃ e ∈ added, kind e.1 := by
  simp only [Has, columns_grow, List.mem_append, List.mem_map, or_and_right, exists_or]
  refine or_congr_right ⟨?_, ?_⟩
  · rintro ⟨_, ⟨e, he, rfl⟩, hkind⟩
    exact ⟨e, he, hkind⟩
  · rintro ⟨e, he, hkind⟩
    exact ⟨e.1, ⟨e, he, rfl⟩, hkind⟩

theorem IsAligned.grow (h : r.IsAligned) : (r.grow added).IsAligned := by
  intro grown hgrown
  obtain ⟨row, hrow, rfl⟩ := List.mem_map.mp hgrown
  simp [h row hrow]

theorem columnIndex?_grow {name : String} (h : ∀ e ∈ added, ¬ e.1.IsNamed name) :
    (r.grow added).columnIndex? name = r.columnIndex? name := by
  have hnone : (added.map (·.1)).findIdx? (fun c => sameName c.name name) = none := by
    simpa [List.findIdx?_eq_none_iff, Column.IsNamed] using h
  rw [columnIndex?, columns_grow, List.findIdx?_append, hnone, Option.map_none, Option.or_none]
  rfl

theorem lt_of_columnIndex? {name : String} {i : Nat} (h : r.columnIndex? name = some i) :
    i < r.columns.length :=
  (List.findIdx?_eq_some_iff_getElem.mp h).1

/-- A value that a row had is found in the row when it has grown. -/
theorem valueAt_append {i : Nat} {row more : Row} (h : i < row.length) :
    valueAt i (row ++ more) = valueAt i row := by
  rw [valueAt, valueAt, List.getElem?_append_left h]

/-- **What a record has under the name of an added column**, if no later one has the same name. -/
theorem get?_recordOf_grow {before after : List Addition} {e : Addition} {row : Row}
    (hadded : added = before ++ e :: after) (hafter : ∀ f ∈ after, f.1.name ≠ e.1.name)
    (hlength : row.length = r.columns.length) :
    (recordOf (r.grow added).columns (row ++ added.map (·.2 row))).get? e.1.name =
      some (e.2 row) := by
  have hpairs : ((r.grow added).columns.map (·.name)).zip (row ++ added.map (·.2 row)) =
      (r.columns.map (·.name)).zip row ++ added.map fun f => (f.1.name, f.2 row) := by
    rw [columns_grow, List.map_append, List.zip_append (by rw [List.length_map, hlength]),
      List.map_map, List.zip_map']
    rfl
  rw [recordOf, hpairs, hadded, List.map_append, List.map_cons, ← List.append_assoc]
  refine get?_ofList_append_cons fun pair hpair => ?_
  obtain ⟨f, hf, rfl⟩ := List.mem_map.mp hpair
  exact hafter f hf

end

/-! ### What is added -/

/-- The columns that are added for the first column of `SHOW TABLES`. -/
def tableColumns (r : QueryResult) : List Addition :=
  match findTables? 0 r.columns with
  | none => []
  | some (i, column, database) =>
    if (r.columnIndex? "table_name").isSome then []
    else
      [(⟨"table_name", column.dataType⟩, valueAt i),
        (⟨"database", "VARCHAR"⟩, fun _ => .string database)]

/-- The columns that are added for the columns of `DESCRIBE`. -/
def fieldColumns (r : QueryResult) : List Addition :=
  match r.columnIndex? "Field", r.columnIndex? "Type" with
  | some field, some type =>
    if (r.columnIndex? "column_name").isSome then []
    else
      [(⟨"column_name", "VARCHAR"⟩, valueAt field), (⟨"data_type", "VARCHAR"⟩, valueAt type)]
  | _, _ => []

theorem tableColumns_eq_nil_iff :
    r.tableColumns = [] ↔ ¬ r.Has Column.IsTables ∨ r.Has (·.IsNamed "table_name") := by
  have hfind : findTables? 0 r.columns = none ↔ ¬ r.Has Column.IsTables := by
    simp [findTables?_eq_none_iff, Has]
  rw [tableColumns, ← hfind, ← isSome_columnIndex?]
  cases findTables? 0 r.columns with
  | none => simp
  | some found => cases (r.columnIndex? "table_name").isSome <;> simp

theorem tableColumns_of_first {i : Nat} {c : Column} {database : String}
    (hfirst : IsFirst Column.IsTables r.columns i c) (hdatabase : c.IsTablesOf database)
    (hnone : ¬ r.Has (·.IsNamed "table_name")) :
    r.tableColumns = [(⟨"table_name", c.dataType⟩, valueAt i),
      (⟨"database", "VARCHAR"⟩, fun _ => .string database)] := by
  obtain ⟨before, after, hcolumns, rfl, -, hbefore⟩ := hfirst
  rw [tableColumns, hcolumns, findTables?_of_first hbefore hdatabase,
    columnIndex?_eq_none_iff.mpr hnone]
  simp

theorem fieldColumns_eq_nil_iff :
    r.fieldColumns = [] ↔ ¬ r.Has (·.IsNamed "Field") ∨ ¬ r.Has (·.IsNamed "Type") ∨
      r.Has (·.IsNamed "column_name") := by
  rw [fieldColumns, ← columnIndex?_eq_none_iff, ← columnIndex?_eq_none_iff, ← isSome_columnIndex?]
  cases r.columnIndex? "Field" with
  | none => simp
  | some field =>
      cases r.columnIndex? "Type" with
      | none => simp
      | some type => cases (r.columnIndex? "column_name").isSome <;> simp

theorem fieldColumns_of_first {i j : Nat} {c d : Column}
    (hfield : IsFirst (·.IsNamed "Field") r.columns i c)
    (htype : IsFirst (·.IsNamed "Type") r.columns j d)
    (hnone : ¬ r.Has (·.IsNamed "column_name")) :
    r.fieldColumns = [(⟨"column_name", "VARCHAR"⟩, valueAt i),
      (⟨"data_type", "VARCHAR"⟩, valueAt j)] := by
  rw [fieldColumns, columnIndex?_of_first hfield, columnIndex?_of_first htype,
    columnIndex?_eq_none_iff.mpr hnone]
  rfl

/-- The fixed names for tables. -/
def tableNames : List String := ["table_name", "database"]

/-- The fixed names for the columns of a table. -/
def fieldNames : List String := ["column_name", "data_type"]

theorem names_tableColumns : r.tableColumns = [] ∨ r.tableColumns.map (·.1.name) = tableNames := by
  rw [tableColumns]
  cases findTables? 0 r.columns with
  | none => exact .inl rfl
  | some found =>
      cases (r.columnIndex? "table_name").isSome with
      | true => exact .inl rfl
      | false => exact .inr rfl

theorem names_fieldColumns : r.fieldColumns = [] ∨ r.fieldColumns.map (·.1.name) = fieldNames := by
  rw [fieldColumns]
  split
  · split
    · exact .inl rfl
    · exact .inr rfl
  · exact .inl rfl

theorem name_of_mem_tableColumns {e : Addition} (h : e ∈ r.tableColumns) :
    e.1.name ∈ tableNames := by
  rcases names_tableColumns (r := r) with hnil | hnames
  · rw [hnil] at h
    cases h
  · exact hnames ▸ List.mem_map_of_mem h

theorem name_of_mem_fieldColumns {e : Addition} (h : e ∈ r.fieldColumns) :
    e.1.name ∈ fieldNames := by
  rcases names_fieldColumns (r := r) with hnil | hnames
  · rw [hnil] at h
    cases h
  · exact hnames ▸ List.mem_map_of_mem h

/-- A fixed name is not what is looked for. -/
theorem fresh_of_name {c : Column} (h : c.name ∈ tableNames ++ fieldNames) :
    ¬ c.IsTables ∧ ¬ c.IsNamed "Field" ∧ ¬ c.IsNamed "Type" := by
  have hall : ∀ name ∈ tableNames ++ fieldNames,
      sameName (String.ofList (name.toList.take tablesStart.toList.length)) tablesStart = false ∧
        sameName name "Field" = false ∧ sameName name "Type" = false := by
    decide +kernel
  obtain ⟨hstart, hfield, htype⟩ := hall c.name h
  refine ⟨tablesColumn?_eq_none_iff.mp ?_, ?_, ?_⟩
  · rw [tablesColumn?, hstart]
    rfl
  · rw [Column.IsNamed, hfield]
    exact Bool.false_ne_true
  · rw [Column.IsNamed, htype]
    exact Bool.false_ne_true

theorem addTableColumns_eq_grow : r.addTableColumns = r.grow r.tableColumns := by
  rw [addTableColumns, tableColumns]
  cases findTables? 0 r.columns with
  | none => exact (grow_nil r).symm
  | some found =>
      obtain ⟨i, c, database⟩ := found
      dsimp only
      cases (r.columnIndex? "table_name").isSome with
      | true => exact (grow_nil r).symm
      | false =>
          -- the name of the database is no value of the row
          have hpush : (r.grow [(⟨"table_name", c.dataType⟩, valueAt i)]).pushColumn
              ⟨"database", "VARCHAR"⟩ (fun _ => .string database) = r.grow (_ ++ [_]) :=
            pushColumn_grow fun _ _ => rfl
          exact hpush

theorem addFieldColumns_grow {added : List Addition} (haligned : r.IsAligned)
    (hadded : ∀ e ∈ added, ∀ name ∈ ["Field", "Type", "column_name"], ¬ e.1.IsNamed name) :
    (r.grow added).addFieldColumns = r.grow (added ++ r.fieldColumns) := by
  have hlookup : ∀ name ∈ ["Field", "Type", "column_name"],
      (r.grow added).columnIndex? name = r.columnIndex? name := fun name hname =>
    columnIndex?_grow fun e he => hadded e he name hname
  rw [addFieldColumns, fieldColumns, hlookup "Field" (by simp), hlookup "Type" (by simp),
    hlookup "column_name" (by simp)]
  cases hfield : r.columnIndex? "Field" with
  | none => rw [List.append_nil]
  | some field =>
      cases htype : r.columnIndex? "Type" with
      | none => rw [List.append_nil]
      | some type =>
          dsimp only
          cases (r.columnIndex? "column_name").isSome with
          | true => simp
          | false =>
              have hvalue {name : String} {i : Nat} {more : List Addition}
                  (hi : r.columnIndex? name = some i) :
                  ∀ row ∈ r.rows, valueAt i (row ++ more.map (·.2 row)) = valueAt i row :=
                fun row hrow => valueAt_append (by
                  rw [haligned row hrow]
                  exact lt_of_columnIndex? hi)
              have hname : (r.grow added).pushColumn ⟨"column_name", "VARCHAR"⟩ (valueAt field) =
                  r.grow (added ++ [(⟨"column_name", "VARCHAR"⟩, valueAt field)]) :=
                pushColumn_grow (hvalue hfield)
              rw [if_neg Bool.false_ne_true, if_neg Bool.false_ne_true, hname,
                pushColumn_grow (hvalue htype), List.append_assoc]
              rfl

/-- A statement that inspects the server with one of the verbs. -/
def Inspects (s : Statement) (verbs : List String) : Prop :=
  s.category = .metadata ∧ firstWord s.operation ∈ verbs

instance (s : Statement) (verbs : List String) : Decidable (Inspects s verbs) :=
  inferInstanceAs (Decidable (_ ∧ _))

/-- The columns that are added to the result of a statement. -/
def stableColumns (s : Statement) (r : QueryResult) : List Addition :=
  (if Inspects s ["SHOW"] then r.tableColumns else []) ++
    (if Inspects s ["SHOW", "DESC", "DESCRIBE"] then r.fieldColumns else [])

/-- What is added under the fixed names of tables does not count as a column of `DESCRIBE`. -/
theorem addFieldColumns_grow_tableColumns (haligned : r.IsAligned) :
    (r.grow r.tableColumns).addFieldColumns = r.grow (r.tableColumns ++ r.fieldColumns) := by
  have hall : ∀ name ∈ tableNames, ∀ other ∈ ["Field", "Type", "column_name"],
      sameName name other = false := by
    decide +kernel
  refine addFieldColumns_grow haligned fun e he name hname => ?_
  rw [Column.IsNamed, hall e.1.name (name_of_mem_tableColumns he) name hname]
  exact Bool.false_ne_true

/-- **Shaping is growing**, by columns that take their values from the rows as they came. -/
theorem shape_eq_grow (haligned : r.IsAligned) : shape s r = r.grow (stableColumns s r) := by
  have hfields : r.addFieldColumns = r.grow r.fieldColumns := by
    have hgrow := addFieldColumns_grow haligned (List.forall_mem_nil _)
    rwa [grow_nil, List.nil_append] at hgrow
  have htables : r.addTableColumns.addFieldColumns = r.grow (r.tableColumns ++ r.fieldColumns) := by
    rw [addTableColumns_eq_grow, addFieldColumns_grow_tableColumns haligned]
  rw [shape, stableColumns]
  split
  · rename_i hmeta
    rw [beq_iff_eq] at hmeta
    split
    · rename_i hverb
      simp [Inspects, hmeta, hverb, htables]
    · rename_i hverb
      simp [Inspects, hmeta, hverb, hfields]
    · rename_i hverb
      simp [Inspects, hmeta, hverb, hfields]
    · rename_i hshow hdesc hdescribe
      have hnone : firstWord s.operation ∉ ["SHOW", "DESC", "DESCRIBE"] := by
        simpa using ⟨hshow, hdesc, hdescribe⟩
      have hnot : firstWord s.operation ∉ ["SHOW"] := fun h => hnone (by simp_all)
      rw [if_neg fun h => hnot h.2, if_neg fun h => hnone h.2, List.append_nil, grow_nil]
  · rename_i hmeta
    rw [beq_iff_eq] at hmeta
    simp [Inspects, hmeta, grow_nil]

/-! ### Growing twice

Once `table_name` was added it stands in the way of a second time. Where it was not added it still
is not, since no fixed name is one that is looked for; and so for `column_name`. -/

section

variable {added : List Addition}

theorem tableColumns_grow (hadded : ∀ e ∈ added, e.1.name ∈ tableNames ++ fieldNames)
    (hall : ∀ e ∈ r.tableColumns, e ∈ added) : (r.grow added).tableColumns = [] := by
  rw [tableColumns_eq_nil_iff, has_grow, has_grow]
  rcases names_tableColumns (r := r) with hnil | hnames
  · rcases tableColumns_eq_nil_iff.mp hnil with hnone | hhas
    · refine .inl (not_or.mpr ⟨hnone, ?_⟩)
      rintro ⟨e, he, htables⟩
      exact (fresh_of_name (hadded e he)).1 htables
    · exact .inr (.inl hhas)
  · have hname : "table_name" ∈ r.tableColumns.map (·.1.name) := hnames ▸ List.mem_cons_self
    obtain ⟨e, he, hename⟩ := List.mem_map.mp hname
    refine .inr (.inr ⟨e, hall e he, ?_⟩)
    rw [Column.IsNamed, hename]
    decide

theorem fieldColumns_grow (hadded : ∀ e ∈ added, e.1.name ∈ tableNames ++ fieldNames)
    (hall : ∀ e ∈ r.fieldColumns, e ∈ added) : (r.grow added).fieldColumns = [] := by
  rw [fieldColumns_eq_nil_iff, has_grow, has_grow, has_grow]
  rcases names_fieldColumns (r := r) with hnil | hnames
  · rcases fieldColumns_eq_nil_iff.mp hnil with hnone | hnone | hhas
    · refine .inl (not_or.mpr ⟨hnone, ?_⟩)
      rintro ⟨e, he, hfield⟩
      exact (fresh_of_name (hadded e he)).2.1 hfield
    · refine .inr (.inl (not_or.mpr ⟨hnone, ?_⟩))
      rintro ⟨e, he, htype⟩
      exact (fresh_of_name (hadded e he)).2.2 htype
    · exact .inr (.inr (.inl hhas))
  · have hname : "column_name" ∈ r.fieldColumns.map (·.1.name) := hnames ▸ List.mem_cons_self
    obtain ⟨e, he, hename⟩ := List.mem_map.mp hname
    refine .inr (.inr (.inr ⟨e, hall e he, ?_⟩))
    rw [Column.IsNamed, hename]
    decide

end

theorem name_of_mem_stableColumns {e : Addition} (h : e ∈ stableColumns s r) :
    e.1.name ∈ tableNames ++ fieldNames := by
  rcases List.mem_append.mp h with h | h
  · split at h
    · exact List.mem_append_left _ (name_of_mem_tableColumns h)
    · cases h
  · split at h
    · exact List.mem_append_right _ (name_of_mem_fieldColumns h)
    · cases h

/-- **Nothing is added to a result to which everything was added.** -/
theorem stableColumns_grow : stableColumns s (r.grow (stableColumns s r)) = [] := by
  have hnames : ∀ e ∈ stableColumns s r, e.1.name ∈ tableNames ++ fieldNames := fun _ =>
    name_of_mem_stableColumns
  rw [stableColumns, List.append_eq_nil_iff]
  constructor
  · split
    · rename_i hshow
      refine tableColumns_grow hnames fun e he => List.mem_append_left _ ?_
      rwa [if_pos hshow]
    · rfl
  · split
    · rename_i hverb
      refine fieldColumns_grow hnames fun e he => List.mem_append_right _ ?_
      rwa [if_pos hverb]
    · rfl

/-! ### What a result has when it has grown -/

/-- A result has grown from another: the columns and the values of each row come first as they
were, and each row is as long as the list of columns. -/
structure Extends (grown r : QueryResult) : Prop where
  columns : r.columns <+: grown.columns
  rows : List.Forall₂ (· <+: ·) r.rows grown.rows
  aligned : grown.IsAligned
  time_eq : grown.time = r.time
  rowCount_eq : grown.rowCount = r.rowCount

theorem extends_grow (haligned : r.IsAligned) (added : List Addition) :
    (r.grow added).Extends r where
  columns := List.prefix_append _ _
  rows := List.forall₂_map_right_iff.mpr
    (List.forall₂_same.mpr fun _ _ => List.prefix_append _ _)
  aligned := haligned.grow
  time_eq := rfl
  rowCount_eq := rfl

/-- Every record of a grown result has under a name the value that belongs to its row. -/
def RecordsHave (r grown : QueryResult) (name : String) (value : Row → Option Value) : Prop :=
  List.Forall₂ (fun row record => ∃ v, value row = some v ∧ record.get? name = some v)
    r.rows grown.records

theorem recordsHave_grow {added before after : List Addition} {e : Addition}
    {value : Row → Option Value} (haligned : r.IsAligned) (hadded : added = before ++ e :: after)
    (hafter : ∀ f ∈ after, f.1.name ≠ e.1.name)
    (hvalue : ∀ row ∈ r.rows, value row = some (e.2 row)) :
    r.RecordsHave (r.grow added) e.1.name value := by
  rw [RecordsHave, records, rows_grow, List.map_map]
  refine List.forall₂_map_right_iff.mpr (List.forall₂_same.mpr fun row hrow => ?_)
  exact ⟨e.2 row, hvalue row hrow, get?_recordOf_grow hadded hafter (haligned row hrow)⟩

/-- The value of a column is the one that its position has in an aligned row. -/
theorem getElem?_of_first {kind : Column → Prop} {i : Nat} {c : Column} (haligned : r.IsAligned)
    (hfirst : IsFirst kind r.columns i c) : ∀ row ∈ r.rows, row[i]? = some (valueAt i row) := by
  obtain ⟨before, after, hcolumns, rfl, -⟩ := hfirst
  intro row hrow
  have hlt : before.length < row.length := by
    rw [haligned row hrow, hcolumns]
    simp
  rw [valueAt, List.getElem?_eq_getElem hlt]
  rfl

/-! ### Shaping -/

/-- The category of a text is that of its verb. -/
theorem category_parse (sql : String) :
    (parse sql).category = Category.ofOperation (parse sql).operation := by
  obtain ⟨fallback, hpart, hparse⟩ := Statement.parse_eq_combine_parts sql
  rw [hparse]
  match Statement.statements sql, hpart with
  | [], _ => exact (Statement.represents_empty sql).category_eq
  | [s], hpart => exact (hpart s List.mem_cons_self).category_eq
  | first :: second :: more, hpart =>
      exact (hpart _ (Statement.isRiskiest_riskiest first (second :: more)).mem).category_eq

theorem inspects_parse {sql : String} {verbs : List String}
    (hverbs : ∀ verb ∈ verbs, Category.ofVerb verb = .metadata)
    (h : firstWord (parse sql).operation ∈ verbs) : Inspects (parse sql) verbs :=
  ⟨(category_parse sql).trans (hverbs _ h), h⟩

/-- A result of `SHOW` has a column of `SHOW TABLES`, and no `table_name` yet. -/
def ShowsTables (s : Statement) (r : QueryResult) : Prop :=
  firstWord s.operation = "SHOW" ∧ r.Has Column.IsTables ∧ ¬ r.Has (·.IsNamed "table_name")

/-- A result of `SHOW`, `DESC` or `DESCRIBE` has the columns of `DESCRIBE`, and no `column_name`
yet. -/
def ShowsFields (s : Statement) (r : QueryResult) : Prop :=
  firstWord s.operation ∈ ["SHOW", "DESC", "DESCRIBE"] ∧ r.Has (·.IsNamed "Field") ∧
    r.Has (·.IsNamed "Type") ∧ ¬ r.Has (·.IsNamed "column_name")

theorem stableColumns_eq_nil (htables : ¬ ShowsTables s r) (hfields : ¬ ShowsFields s r) :
    stableColumns s r = [] := by
  rw [stableColumns, List.append_eq_nil_iff]
  constructor
  · split
    · rename_i hverb
      rw [tableColumns_eq_nil_iff]
      by_contra hnot
      rw [not_or, not_not] at hnot
      exact htables ⟨List.mem_singleton.mp hverb.2, hnot⟩
    · rfl
  · split
    · rename_i hverb
      rw [fieldColumns_eq_nil_iff]
      by_contra hnot
      rw [not_or, not_or, not_not, not_not] at hnot
      exact hfields ⟨hverb.2, hnot⟩
    · rfl

/-- The result of `SHOW TABLES` gets the names of the tables and of their database. -/
theorem recordsHave_tables {sql : String} (haligned : r.IsAligned)
    (h : ShowsTables (parse sql) r) :
    ∃ i c database, IsFirst Column.IsTables r.columns i c ∧ c.IsTablesOf database ∧
      r.RecordsHave (shape (parse sql) r) "table_name" (·[i]?) ∧
      r.RecordsHave (shape (parse sql) r) "database" fun _ => some (.string database) := by
  obtain ⟨hverb, hhas, hnone⟩ := h
  obtain ⟨i, c, hfirst⟩ := exists_isFirst hhas
  obtain ⟨database, hdatabase⟩ : c.IsTables := hfirst.kind
  have hinspects : Inspects (parse sql) ["SHOW"] :=
    inspects_parse (by decide) (List.mem_singleton.mpr hverb)
  refine ⟨i, c, database, hfirst, hdatabase, ?_⟩
  -- the columns of `DESCRIBE`, if there are any, come later
  have hlater {name : String} (hname : name ∉ fieldNames) :
      ∀ f ∈ (if Inspects (parse sql) ["SHOW", "DESC", "DESCRIBE"] then r.fieldColumns else []),
        f.1.name ≠ name := by
    rintro f hf rfl
    split at hf
    · exact hname (name_of_mem_fieldColumns hf)
    · cases hf
  rw [shape_eq_grow haligned, stableColumns, if_pos hinspects,
    tableColumns_of_first hfirst hdatabase hnone]
  constructor
  · exact recordsHave_grow haligned (show _ = [] ++ _ :: _ from rfl)
      (List.forall_mem_cons.mpr ⟨show "database" ≠ "table_name" by decide,
        hlater (show "table_name" ∉ fieldNames by decide)⟩)
      (getElem?_of_first haligned hfirst)
  · exact recordsHave_grow haligned (show _ = [_] ++ _ :: _ from rfl)
      (hlater (show "database" ∉ fieldNames by decide)) fun _ _ => rfl

/-- A result with the columns of `DESCRIBE` gets the names and the types of the columns. -/
theorem recordsHave_fields {sql : String} (haligned : r.IsAligned)
    (h : ShowsFields (parse sql) r) :
    ∃ i j c d, IsFirst (·.IsNamed "Field") r.columns i c ∧
      IsFirst (·.IsNamed "Type") r.columns j d ∧
      r.RecordsHave (shape (parse sql) r) "column_name" (·[i]?) ∧
      r.RecordsHave (shape (parse sql) r) "data_type" (·[j]?) := by
  obtain ⟨hverb, hfield, htype, hnone⟩ := h
  obtain ⟨i, c, hfield⟩ := exists_isFirst hfield
  obtain ⟨j, d, htype⟩ := exists_isFirst htype
  refine ⟨i, j, c, d, hfield, htype, ?_⟩
  rw [shape_eq_grow haligned, stableColumns, if_pos (inspects_parse (by decide) hverb),
    fieldColumns_of_first hfield htype hnone]
  constructor
  · exact recordsHave_grow haligned rfl
      (List.forall_mem_singleton.mpr (show "data_type" ≠ "column_name" by decide))
      (getElem?_of_first haligned hfield)
  · exact recordsHave_grow haligned (List.append_cons _ _ _) (List.forall_mem_nil _)
      (getElem?_of_first haligned htype)

/-- **What shaping does to the result of a text.** What the server returned stays in front, and a
second time changes nothing. The records of `SHOW` tell a table and its database, and those of
`SHOW`, `DESC` and `DESCRIBE` a column and its type, where the result has the columns that this is
read from and not yet those that tell it. Every other result stays as it is. -/
theorem shape_parse (sql : String) (haligned : r.IsAligned) :
    (shape (parse sql) r).Extends r ∧
      shape (parse sql) (shape (parse sql) r) = shape (parse sql) r ∧
      (ShowsTables (parse sql) r →
        ∃ i c database, IsFirst Column.IsTables r.columns i c ∧ c.IsTablesOf database ∧
          r.RecordsHave (shape (parse sql) r) "table_name" (·[i]?) ∧
          r.RecordsHave (shape (parse sql) r) "database" fun _ => some (.string database)) ∧
      (ShowsFields (parse sql) r →
        ∃ i j c d, IsFirst (·.IsNamed "Field") r.columns i c ∧
          IsFirst (·.IsNamed "Type") r.columns j d ∧
          r.RecordsHave (shape (parse sql) r) "column_name" (·[i]?) ∧
          r.RecordsHave (shape (parse sql) r) "data_type" (·[j]?)) ∧
      (¬ ShowsTables (parse sql) r → ¬ ShowsFields (parse sql) r → shape (parse sql) r = r) := by
  have hshape := shape_eq_grow (s := parse sql) haligned
  refine ⟨?_, ?_, recordsHave_tables haligned, recordsHave_fields haligned, ?_⟩
  · rw [hshape]
    exact extends_grow haligned _
  · rw [hshape, shape_eq_grow haligned.grow, stableColumns_grow, grow_nil]
  · intro htables hfields
    rw [hshape, stableColumns_eq_nil htables hfields, grow_nil]

/-- A result with a column of `SHOW TABLES` and with the columns of `DESCRIBE`. -/
def bothColumns : QueryResult :=
  .ofRows [⟨"TABLES_IN_shop", "VARCHAR"⟩, ⟨"Field", "VARCHAR"⟩, ⟨"type", "BLOB"⟩]
    [[.string "orders", .string "id", .string "int"], [.string "users", .null, .null]]

theorem isAligned_bothColumns : bothColumns.IsAligned :=
  List.forall_mem_cons.mpr ⟨rfl, List.forall_mem_singleton.mpr rfl⟩

theorem showsTables_bothColumns : ShowsTables (parse "show tables") bothColumns := by
  refine ⟨by decide +kernel, ?_, columnIndex?_eq_none_iff.mp (by decide +kernel)⟩
  exact ⟨_, List.mem_cons_self, "shop", tablesColumn?_eq_some_iff.mp (by decide +kernel)⟩

theorem showsFields_bothColumns : ShowsFields (parse "show tables") bothColumns :=
  ⟨by decide +kernel, isSome_columnIndex?.mp (by decide +kernel),
    isSome_columnIndex?.mp (by decide +kernel), columnIndex?_eq_none_iff.mp (by decide +kernel)⟩

/-- A result that gets both kinds of columns. -/
theorem shape_parse_bothColumns :
    bothColumns.IsAligned ∧ ShowsTables (parse "show tables") bothColumns ∧
      ShowsFields (parse "show tables") bothColumns ∧
      (shape (parse "show tables") bothColumns).Extends bothColumns ∧
      (∃ i c database, IsFirst Column.IsTables bothColumns.columns i c ∧ c.IsTablesOf database ∧
        bothColumns.RecordsHave (shape (parse "show tables") bothColumns) "table_name" (·[i]?) ∧
        bothColumns.RecordsHave (shape (parse "show tables") bothColumns) "database"
          fun _ => some (.string database)) ∧
      ∃ i j c d, IsFirst (·.IsNamed "Field") bothColumns.columns i c ∧
        IsFirst (·.IsNamed "Type") bothColumns.columns j d ∧
        bothColumns.RecordsHave (shape (parse "show tables") bothColumns) "column_name" (·[i]?) ∧
        bothColumns.RecordsHave (shape (parse "show tables") bothColumns) "data_type" (·[j]?) := by
  obtain ⟨hextends, -, htables, hfields, -⟩ := shape_parse "show tables" isAligned_bothColumns
  exact ⟨isAligned_bothColumns, showsTables_bothColumns, showsFields_bothColumns, hextends,
    htables showsTables_bothColumns, hfields showsFields_bothColumns⟩

end QueryResult

end SqlGateway
