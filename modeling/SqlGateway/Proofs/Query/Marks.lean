import SqlGateway.Proofs.Query.Balance

/-!
# Placeholders and Values in Number

The server finds the `?` that stand outside quotes and comments. Binding takes those in comments
for placeholders too, and it does not look for a `?` written by hand where values are given by
name. So values and placeholders agree in number only in so far as none of this matters, and this
module says how far that is.

## Main results

* `openMarkCount_eq`: what the server finds, counted over the pieces of a statement.
* `marks_agree_iff`: when the values agree in number with the placeholders.
-/

namespace SqlGateway.Query

open Text Sql

/-- The number of placeholders that the server finds in a statement: the `?` that stand outside
quotes once the comments are removed. -/
def openMarkCount (sql : String) : Nat :=
  (Sql.segments (stripComments sql.toList)).count (.plain '?')

/-- The comments of a statement. -/
def comments (sql : String) : List (List Char) :=
  (pieces false sql.toList).filterMap Piece.comment?

theorem count_segments (p : Piece) :
    p.segments.count (Segment.plain '?') = [p].count (Piece.plain '?') := by
  cases p with
  | plain c => by_cases hc : c = '?' <;> simp [Piece.segments, Piece.kept, hc]
  | quoted quote body closed => simp [Piece.segments]
  | lineComment t => simp [Piece.segments, Piece.kept]
  | blockComment body closed => simp [Piece.segments, Piece.kept]
  | versionOpen digits => simp [Piece.segments, Piece.kept]
  | versionClose => simp [Piece.segments, Piece.kept]
  | minus => simp [Piece.segments, Piece.kept]

theorem openMarkCount_eq (sql : String) :
    openMarkCount sql = openMarks (pieces false sql.toList) := by
  rw [openMarkCount, segments_stripComments, openMarks]
  induction pieces false sql.toList with
  | nil => rfl
  | cons p bs ih =>
      rw [List.flatMap_cons, List.count_append, ih, count_segments, ← List.count_append]
      rfl

/-- **Placeholders and values agree in number**, in an orderly statement with positional values,
exactly if no comment holds a `?`; and with named values, exactly if as many `?` are written
outside comments as named placeholders inside. -/
theorem marks_agree_iff {params : Params} {sql : String} {bound : Bound}
    (h : bind params sql = .ok bound) (horderly : Orderly false none sql.toList) :
    (∀ values, params = .positional values →
      (openMarkCount bound.sql = bound.values.length ↔ ∀ t ∈ comments sql, '?' ∉ t)) ∧
    ∀ values, params = .named values →
      (openMarkCount bound.sql = bound.values.length ↔
        openMarkCount sql = ((comments sql).map fun t => nameCount (parts t)).sum) := by
  obtain ⟨hmarks, hsent⟩ := counts_agree horderly
  rw [← openMarkCount_eq] at hmarks hsent
  refine ⟨?_, ?_⟩
  · rintro values rfl
    rw [bind] at h
    split at h
    · rename_i hcount
      obtain rfl := Except.ok.inj h
      rw [comments, ← commentMarks_eq_zero_iff, ← hcount]
      change openMarkCount sql = (partsFrom none none sql.toList).count .mark ↔ _
      omega
    · cases h
  · rintro values rfl
    obtain ⟨hvalues, rfl⟩ := bind_named_eq_ok_iff.mp h
    have hlength : ((placeholderNames sql).filterMap values.get?).length =
        nameCount (partsFrom none none sql.toList) := by
      have hmap := congrArg List.length (map_some_filterMap hvalues)
      rwa [List.length_map, List.length_map] at hmap
    rw [hlength, openMarkCount_eq, String.toList_ofList]
    change openMarks (pieces false (sentFrom none none sql.toList)) = _ ↔
      _ = commentNames (pieces false sql.toList)
    omega

/-- A comment without marks changes nothing. -/
theorem marks_agree_of_name :
    bind (.named (.ofList [("id", .int 7)])) "SELECT * FROM t WHERE id = :id -- one" =
        .ok ⟨"SELECT * FROM t WHERE id = ? -- one", [.int 7]⟩ ∧
      openMarkCount "SELECT * FROM t WHERE id = ? -- one" = 1 := by
  have hok : bind (.named (.ofList [("id", .int 7)])) "SELECT * FROM t WHERE id = :id -- one" =
      .ok ⟨"SELECT * FROM t WHERE id = ? -- one", [.int 7]⟩ := by decide +kernel
  have hcomments : comments "SELECT * FROM t WHERE id = :id -- one" = ["-- one".toList] := by
    decide +kernel
  have hnames : placeholderNames "SELECT * FROM t WHERE id = :id -- one" = ["id"] := by
    decide +kernel
  have horderly : Orderly false none "SELECT * FROM t WHERE id = :id -- one".toList := by
    constructor
    · change ∀ t ∈ comments "SELECT * FROM t WHERE id = :id -- one", ∀ c ∈ t, isQuote c = false
      rw [hcomments]
      simp [isQuote]
    · change ∀ n ∈ placeholderNames "SELECT * FROM t WHERE id = :id -- one", IsPlainName n
      rw [hnames, List.forall_mem_singleton]
      exact ⟨by simp [sectionSigns], by simp⟩
  exact ⟨hok, ((marks_agree_iff hok horderly).2 _ rfl).mpr (by decide +kernel)⟩

/-- A `?` in a comment takes a value, and one beside a named placeholder takes none. -/
theorem marks_disagree :
    (bind (.positional [.int 1]) "SELECT 1 -- ?" = .ok ⟨"SELECT 1 -- ?", [.int 1]⟩ ∧
      openMarkCount "SELECT 1 -- ?" = 0) ∧
    bind (.named (.ofList [("id", .int 7)])) "SELECT ? FROM t WHERE id = :id" =
        .ok ⟨"SELECT ? FROM t WHERE id = ?", [.int 7]⟩ ∧
      openMarkCount "SELECT ? FROM t WHERE id = ?" = 2 := by
  decide +kernel

end SqlGateway.Query
