import SqlGateway.Proofs.Sql.Stripping
import SqlGateway.Proofs.Statement.Combination

/-!
# Where Statements Are Divided

Two readers of a text without comments look for the semicolons between statements. One cuts
the tokens at semicolon tokens, and the gate describes the pieces; the other walks along
quoted sections and single characters, and decides whether a text has a second statement at
all. For a text in ASCII without `@` the two find the same semicolons, since each token takes
whole segments (`Reads.exists_chunk`): the *marks* of the pieces, which tell the blank ones
from the others, are the same lists.

## Main results

* `Scans.marks_eq`: tokens and segments are divided into pieces with the same marks.
* `statement_boundaries`: the statements that are described are the pieces with something in
  them, and a second one is found by both readers or follows a blank first piece.
-/

namespace SqlGateway

open Text

/-! ### Splitting lists -/

section

variable {α : Type} {p : α → Bool}

/-- What holds no separator stays in one piece with what follows. -/
theorem splitOnP_append_of_forall {xs : List α} (h : ∀ x ∈ xs, p x = false) (ys : List α) :
    (xs ++ ys).splitOnP p = (ys.splitOnP p).modifyHead (xs ++ ·) := by
  induction xs with
  | nil =>
      obtain ⟨head, tail, heq⟩ := List.exists_cons_of_ne_nil (List.splitOnP_ne_nil p ys)
      simp [heq]
  | cons x xs ih =>
      have hx : p x = false := h x List.mem_cons_self
      obtain ⟨head, tail, heq⟩ := List.exists_cons_of_ne_nil (List.splitOnP_ne_nil p ys)
      rw [List.cons_append, List.splitOnP_cons_eq_if_modifyHead, hx,
        ih fun y hy => h y (List.mem_cons_of_mem x hy), heq]
      simp

/-- A piece stands in the list, behind a separator if it is not the first one. -/
theorem exists_of_splitOnP {l piece : List α} {before after : List (List α)}
    (h : l.splitOnP p = before ++ piece :: after) :
    ∃ front back, l = front ++ (piece ++ back) ∧ (before = [] → front = []) ∧
      (before ≠ [] → ∃ more x, front = more ++ [x] ∧ p x = true) := by
  induction l generalizing before piece with
  | nil =>
      rw [List.splitOnP_nil] at h
      cases before with
      | nil =>
          cases h
          exact ⟨[], [], rfl, fun _ => rfl, fun hne => absurd rfl hne⟩
      | cons _ before => cases before <;> cases h
  | cons a l ih =>
      obtain ⟨head, tail, heq⟩ := List.exists_cons_of_ne_nil (List.splitOnP_ne_nil p l)
      rw [List.splitOnP_cons_eq_if_modifyHead] at h
      by_cases ha : p a = true
      · rw [if_pos ha] at h
        cases before with
        | nil =>
            cases h
            exact ⟨[], a :: l, rfl, fun _ => rfl, fun hne => absurd rfl hne⟩
        | cons _ before =>
            obtain ⟨front, back, rfl, hnil, hsep⟩ := ih (List.cons.inj h).2
            refine ⟨a :: front, back, rfl, fun hcons => absurd hcons (List.cons_ne_nil _ _),
              fun _ => ?_⟩
            by_cases hbefore : before = []
            · exact ⟨[], a, by rw [hnil hbefore]; rfl, ha⟩
            · obtain ⟨more, x, rfl, hx⟩ := hsep hbefore
              exact ⟨a :: more, x, rfl, hx⟩
      · rw [if_neg ha, heq] at h
        cases before with
        | nil =>
            cases h
            obtain ⟨front, back, rfl, hnil, -⟩ := ih (show l.splitOnP p = [] ++ head :: after from heq)
            exact ⟨[], back, by rw [hnil rfl]; rfl, fun _ => rfl, fun hne => absurd rfl hne⟩
        | cons _ before =>
            cases h
            obtain ⟨front, back, rfl, -, hsep⟩ :=
              ih (show l.splitOnP p = (head :: before) ++ piece :: after from heq)
            obtain ⟨more, x, rfl, hx⟩ := hsep (List.cons_ne_nil _ _)
            exact ⟨a :: (more ++ [x]), back, rfl, fun hcons => absurd hcons (List.cons_ne_nil _ _),
              fun _ => ⟨a :: more, x, rfl, hx⟩⟩

/-- Something of a list satisfies a test that no separator satisfies, if something of one of
its pieces does. -/
theorem any_splitOnP {q : α → Bool} (hq : ∀ x, p x = true → q x = false) (l : List α) :
    ((l.splitOnP p).map (·.any q)).any id = l.any q := by
  induction l with
  | nil => simp
  | cons x xs ih =>
      obtain ⟨head, tail, heq⟩ := List.exists_cons_of_ne_nil (List.splitOnP_ne_nil p xs)
      rw [List.splitOnP_cons_eq_if_modifyHead, List.any_cons, ← ih]
      by_cases hx : p x = true
      · simp [hx, hq x hx]
      · simp [hx, heq, Bool.or_assoc]

end

/-- Where the head of a list of pieces is extended, its mark is too. -/
theorem map_any_modifyHead {α : Type} {q : α → Bool} (xs : List α) (pieces : List (List α)) :
    (pieces.modifyHead (xs ++ ·)).map (·.any q) =
      (pieces.map (·.any q)).modifyHead (xs.any q || ·) := by
  cases pieces <;> simp

namespace Sql

/-! ### Marks -/

/-- The marks of the pieces of some tokens: whether a piece holds more than blanks. -/
def tokenMarks (tokens : List Token) : List Bool :=
  (tokens.splitOnP (· == .semicolon)).map (·.any (· != .blank))

/-- The marks of the pieces of some segments. -/
def segmentMarks (l : List Segment) : List Bool :=
  (l.splitOnP Segment.isSemicolon).map (·.any Segment.isSubstance)

/-- Tokens and segments that divide no pieces extend the mark of the first piece. -/
theorem tokenMarks_cons {t : Token} (h : t ≠ .semicolon) (tokens : List Token) :
    tokenMarks (t :: tokens) = (tokenMarks tokens).modifyHead ((t != .blank) || ·) := by
  have hsemi : ∀ x ∈ [t], (x == Token.semicolon) = false := by simpa using h
  rw [tokenMarks, ← List.singleton_append, splitOnP_append_of_forall hsemi, map_any_modifyHead]
  simp [tokenMarks]

theorem segmentMarks_append {chunk : List Segment}
    (h : ∀ s ∈ chunk, s.isSemicolon = false) (l : List Segment) :
    segmentMarks (chunk ++ l) =
      (segmentMarks l).modifyHead (chunk.any Segment.isSubstance || ·) := by
  rw [segmentMarks, splitOnP_append_of_forall h, map_any_modifyHead]
  rfl

/-- A token that is no semicolon takes none, and takes something of substance unless it is a
blank. -/
theorem Takes.substance_eq {t : Token} {chunk : List Segment} (h : Takes t chunk)
    (hascii : ∀ c, .plain c ∈ chunk → c.toNat < 0x80) (ht : t ≠ .semicolon) :
    (∀ s ∈ chunk, s.isSemicolon = false) ∧ chunk.any Segment.isSubstance = (t != .blank) := by
  cases h with
  | semicolon => exact absurd rfl ht
  | @blank c hb hasc =>
      have hc : c ≠ ';' := by
        rintro rfl
        cases hb
      exact ⟨by simpa [Segment.isSemicolon] using hc, by simp [Segment.isSubstance, hb]⟩
  | @substance _ c chunk hlayout hsemi hblank hchunk =>
      have hc : isBlank c = false := by
        by_contra hb
        exact hblank ⟨by simpa using hb, hascii c List.mem_cons_self⟩
      have htb : t ≠ .blank := by
        rintro rfl
        cases hlayout
      have hsub : (Segment.plain c).isSubstance = true := by
        simp [Segment.isSubstance, hc, hsemi]
      refine ⟨?_, by simp [hsub, htb]⟩
      intro s hs
      rcases List.mem_cons.mp hs with rfl | hs
      · simpa [Segment.isSemicolon] using hsemi
      · exact hchunk s hs
  | quoted hlayout =>
      have htb : t ≠ .blank := by
        rintro rfl
        cases hlayout
      exact ⟨by simp [Segment.isSemicolon], by simp [Segment.isSubstance, htb]⟩

/-- A segment that is a single character is a character of the text. -/
theorem mem_of_plain_mem_segments {cs : List Char} {c : Char} (h : .plain c ∈ segments cs) :
    c ∈ cs := by
  rw [← Segment.source_segments cs]
  exact List.mem_flatMap.mpr ⟨_, h, by simp [Segment.source]⟩

/-- **Tokens and segments are divided alike**: the tokens of a text in ASCII without `@` and
its segments have pieces with the same marks. -/
theorem Scans.marks_eq {cs last : List Char} {tokens : List Token} (h : Scans cs tokens last)
    (hlast : last = []) (hascii : ∀ c ∈ cs, c.toNat < 0x80) (hat : '@' ∉ cs) :
    tokenMarks tokens = segmentMarks (segments cs) := by
  induction h with
  | done cs =>
      subst hlast
      simp [tokenMarks, segmentMarks, segments]
  | @cons c rest mid _ t tokens hread _ ih =>
      have hc : c ≠ '@' := by
        rintro rfl
        exact hat List.mem_cons_self
      obtain ⟨chunk, hsegments, htakes⟩ := hread.exists_chunk hc
      have hmid : ∀ d ∈ mid, d ∈ c :: rest := fun d hd =>
        List.mem_cons_of_mem c (hread.suffix.subset hd)
      have hmarks := ih hlast (fun d hd => hascii d (hmid d hd)) fun hd => hat (hmid _ hd)
      rw [hsegments]
      by_cases ht : t = .semicolon
      · subst ht
        cases htakes with
        | semicolon =>
            rw [tokenMarks, segmentMarks, List.singleton_append,
              List.splitOnP_cons_eq_if_modifyHead, List.splitOnP_cons_eq_if_modifyHead]
            simpa [Segment.isSemicolon, tokenMarks, segmentMarks] using hmarks
        | substance hlayout => cases hlayout
        | quoted hlayout => cases hlayout
      · have hplain : ∀ d, .plain d ∈ chunk → d.toNat < 0x80 := fun d hd =>
          hascii d (mem_of_plain_mem_segments (by rw [hsegments]; exact List.mem_append_left _ hd))
        obtain ⟨hsemi, hany⟩ := htakes.substance_eq hplain ht
        rw [tokenMarks_cons ht, segmentMarks_append hsemi, hany, hmarks]

/-! ### Pieces as texts -/

/-- The pieces of a text without comments between the semicolons outside quotes. -/
def separatedTexts (cs : List Char) : List (List Char) :=
  ((segments cs).splitOnP Segment.isSemicolon).map (·.flatMap Segment.source)

/-- What stands before the first semicolon outside quotes of a text without comments. -/
def textBeforeSeparator (cs : List Char) : List Char :=
  ((segments cs).takeWhile fun s => !s.isSemicolon).flatMap Segment.source

/-- Whether a text has something besides blanks. -/
def hasContent (cs : List Char) : Bool :=
  cs.any fun c => !isBlank c

/-- A quoted section is opened by a quote. -/
theorem isQuote_of_mem_segments {cs body : List Char} {quote : Char} {closed : Bool}
    (h : .quoted quote body closed ∈ segments cs) : isQuote quote = true := by
  fun_induction segments cs with
  | case1 => cases h
  | case2 c rest hq t _ ih =>
      rcases List.mem_cons.mp h with heq | h
      · cases heq
        exact hq
      · exact ih h
  | case3 c rest hq ih =>
      rcases List.mem_cons.mp h with heq | h
      · cases heq
      · exact ih h

/-- A segment that is no semicolon is of substance if its text is not blank. -/
theorem isSubstance_eq {cs : List Char} {s : Segment} (hs : s ∈ segments cs)
    (hsemi : s.isSemicolon = false) : s.isSubstance = hasContent s.source := by
  cases s with
  | plain c =>
      have hc : c ≠ ';' := by simpa [Segment.isSemicolon] using hsemi
      simp [Segment.isSubstance, Segment.source, hasContent, hc]
  | quoted quote body closed =>
      have hblank : isBlank quote = false := by
        rcases isQuote_iff.mp (isQuote_of_mem_segments hs) with rfl | rfl | rfl <;> decide
      simp [Segment.isSubstance, Segment.source, quotedSource, hasContent, hblank]

/-- The marks of the pieces of a text tell which of them are not blank. -/
theorem segmentMarks_segments (cs : List Char) :
    segmentMarks (segments cs) = (separatedTexts cs).map hasContent := by
  rw [segmentMarks, separatedTexts, List.map_map]
  have key : ∀ l : List Segment,
      (∀ s ∈ l, s.isSemicolon = false → s.isSubstance = hasContent s.source) →
      (l.splitOnP Segment.isSemicolon).map (·.any Segment.isSubstance) =
        (l.splitOnP Segment.isSemicolon).map
          (hasContent ∘ fun piece => piece.flatMap Segment.source) := by
    intro l
    induction l with
    | nil => intro _; simp [hasContent]
    | cons s l ih =>
        intro hl
        have htail := ih fun s' hs' => hl s' (List.mem_cons_of_mem s hs')
        obtain ⟨head, tail, heq⟩ :=
          List.exists_cons_of_ne_nil (List.splitOnP_ne_nil Segment.isSemicolon l)
        rw [List.splitOnP_cons_eq_if_modifyHead]
        rw [heq] at htail ⊢
        by_cases hs : s.isSemicolon = true
        · rw [if_pos hs, List.map_cons, htail]
          rfl
        · rw [Bool.not_eq_true] at hs
          have hsub := hl s List.mem_cons_self hs
          simp only [List.map_cons, List.cons.injEq, Function.comp_apply] at htail
          obtain ⟨hhead, htl⟩ := htail
          simp [hs, htl, hsub, hhead, hasContent, List.any_append]
  exact key _ fun s hs => isSubstance_eq hs

theorem not_isSubstance_of_isSemicolon {s : Segment} (h : s.isSemicolon = true) :
    s.isSubstance = false := by
  cases s with
  | plain c =>
      obtain rfl : c = ';' := by simpa [Segment.isSemicolon] using h
      rfl
  | quoted => cases h

/-- The first piece of a text is what stands before its first separator, and a second
statement is found if some later piece is not blank. -/
theorem segmentMarks_eq_cons (cs : List Char) :
    ∃ later, segmentMarks (segments cs) = hasContent (textBeforeSeparator cs) :: later ∧
      later.any id = separates cs := by
  have hsub : ∀ l : List Segment, (∀ s ∈ l, s ∈ segments cs ∧ s.isSemicolon = false) →
      l.any Segment.isSubstance = hasContent (l.flatMap Segment.source) := by
    intro l hl
    induction l with
    | nil => rfl
    | cons s l ih =>
        obtain ⟨hs, hsemi⟩ := hl s List.mem_cons_self
        rw [List.any_cons, ih fun s' hs' => hl s' (List.mem_cons_of_mem s hs'),
          isSubstance_eq hs hsemi]
        simp [hasContent, List.any_append]
  have hbefore : ∀ s ∈ (segments cs).takeWhile fun s => !s.isSemicolon,
      s.isSemicolon = false := fun s hs => by simpa using List.mem_takeWhile_imp hs
  have hfirst := hsub _ fun s hs => ⟨(List.takeWhile_prefix _).subset hs, hbefore s hs⟩
  have hcut : segments cs = _ ++ _ :=
    (List.takeWhile_append_dropWhile (p := fun s : Segment => !s.isSemicolon)).symm
  have hnot := List.head?_dropWhile_not (fun s : Segment => !s.isSemicolon) (segments cs)
  rw [segmentMarks, textBeforeSeparator, separates]
  rcases hdrop : (segments cs).dropWhile fun s => !s.isSemicolon with _ | ⟨s, later⟩
  · rw [hdrop, List.append_nil] at hcut
    refine ⟨[], ?_, by simp [hdrop]⟩
    rw [← hfirst, ← hcut, List.splitOnP_eq_singleton (by rwa [hcut])]
    rfl
  · rw [hdrop] at hcut hnot
    have hs : s.isSemicolon = true := by simpa using hnot
    refine ⟨segmentMarks later, ?_, ?_⟩
    · conv => lhs; rw [hcut]
      rw [List.splitOnP_append_cons_of_forall_mem hbefore s hs, List.map_cons, hfirst]
      rfl
    · rw [hdrop, List.drop_one, List.tail_cons,
        ← any_splitOnP (fun s => not_isSubstance_of_isSemicolon) later]
      rfl

/-- A blank text has no piece with something in it. -/
theorem any_segmentMarks_of_blank {cs : List Char} (h : ∀ c ∈ cs, isBlank c = true) :
    (segmentMarks (segments cs)).any id = false := by
  rw [segmentMarks, any_splitOnP fun s => not_isSubstance_of_isSemicolon, List.any_eq_false]
  intro s hs
  have hsource : ∀ c ∈ s.source, isBlank c = true := fun c hc => by
    refine h c ?_
    rw [← Segment.source_segments cs]
    exact List.mem_flatMap.mpr ⟨s, hs, hc⟩
  cases s with
  | plain c => simp [Segment.isSubstance, hsource c (by simp [Segment.source])]
  | quoted quote body closed =>
      have hblank := hsource quote (by simp [Segment.source, quotedSource])
      rcases isQuote_iff.mp (isQuote_of_mem_segments hs) with rfl | rfl | rfl <;> cases hblank

end Sql

namespace Statement

open Sql

theorem cutAtSemicolons_eq_splitOnP (tokens : List Token) :
    cutAtSemicolons tokens = tokens.splitOnP (· == .semicolon) := by
  fun_induction cutAtSemicolons tokens with
  | case1 => simp
  | case2 rest ih => simp [List.splitOnP_cons_eq_if_modifyHead, ih]
  | case3 t rest ht heq ih => exact absurd (ih.symm.trans heq) (List.splitOnP_ne_nil _ _)
  | case4 t rest ht piece pieces heq ih =>
      have hne : (t == Token.semicolon) = false := by simpa using ht
      rw [List.splitOnP_cons_eq_if_modifyHead, hne, ← ih, heq]
      rfl

theorem length_filter_eq_countP {α : Type} (f : α → Bool) (l : List α) :
    (l.filter f).length = (l.map f).countP id := by
  rw [List.countP_map, List.countP_eq_length_filter]
  rfl

/-- As many statements of tokens are kept as there are pieces with something in them. -/
theorem length_splitStatements (tokens : List Token) :
    (splitStatements tokens).length = (tokenMarks tokens).countP id := by
  rw [splitStatements, length_filter_eq_countP, cutAtSemicolons_eq_splitOnP]
  rfl

/-- The statements of tokens put together at a semicolon. -/
theorem splitStatements_concat (ta tb : List Token) :
    splitStatements (ta ++ .semicolon :: tb) = splitStatements ta ++ splitStatements tb := by
  rw [splitStatements, splitStatements, splitStatements, cutAtSemicolons_eq_splitOnP,
    cutAtSemicolons_eq_splitOnP, cutAtSemicolons_eq_splitOnP,
    List.splitOnP_append_cons _ _ (by simp), List.filter_append]

/-- The statements of a text in ASCII without `@` that the tokenizer accepts are its pieces
with something in them. -/
theorem length_statements {sql : String} {tokens : List Token}
    (hascii : ∀ c ∈ sql.toList, c.toNat < 0x80) (hat : '@' ∉ sql.toList)
    (htokens : tokenize (stripComments sql.toList) = .ok tokens) :
    (statements sql).length = (segmentMarks (segments (stripComments sql.toList))).countP id := by
  have hmem : ∀ c ∈ stripComments sql.toList, c.toNat < 0x80 ∧ c ≠ '@' := by
    intro c hc
    rcases mem_stripComments hc with hc | rfl
    · refine ⟨hascii c hc, ?_⟩
      rintro rfl
      exact hat hc
    · decide
  have hmarks := (tokenize_eq_ok_iff.mp htokens).marks_eq rfl (fun c hc => (hmem c hc).1)
    fun h => (hmem _ h).2 rfl
  rw [statements_of_tokenize htokens]
  by_cases hblank : (trim (stripComments sql.toList)).isEmpty = true
  · have hall := trim_eq_nil_iff.mp (List.isEmpty_iff.mp hblank)
    have hnone := any_segmentMarks_of_blank hall
    rw [List.any_eq_false] at hnone
    rw [if_pos hblank, List.length_nil, eq_comm, List.countP_eq_zero]
    exact hnone
  · rw [if_neg hblank, List.length_map, length_splitStatements, hmarks]

/-- **The two readers divide a text alike.** For a text in ASCII without `@` that the
tokenizer accepts, the statements described are as many as there are pieces with something in
them; a text described as several statements has a separator, and one that has a separator
and is not described so starts with a blank piece. -/
theorem statement_boundaries {sql : String} {tokens : List Token}
    (hascii : ∀ c ∈ sql.toList, c.toNat < 0x80) (hat : '@' ∉ sql.toList)
    (htokens : tokenize (stripComments sql.toList) = .ok tokens) :
    (parse sql).count = ((separatedTexts (stripComments sql.toList)).filter hasContent).length ∧
      ((parse sql).isMulti = true → hasSeparator sql.toList = true) ∧
      (hasSeparator sql.toList = true → (parse sql).isMulti = false →
        ∀ c ∈ textBeforeSeparator (stripComments sql.toList), isBlank c = true) := by
  have hlength := length_statements hascii hat htokens
  have hsingle : ∀ s ∈ statements sql, s.IsSingle := fun s => isSingle_of_mem_statements
  obtain ⟨fallback, hparse⟩ := parse_eq_combine sql
  have hmulti : (parse sql).isMulti = true ↔ 2 ≤ (statements sql).length := by
    rw [hparse, isMulti_combine hsingle]
  obtain ⟨later, hmarks, hlater⟩ := segmentMarks_eq_cons (stripComments sql.toList)
  have hsplit : (statements sql).length =
      (if hasContent (textBeforeSeparator (stripComments sql.toList)) then 1 else 0) +
        later.countP id := by
    rw [hlength, hmarks, List.countP_cons, Nat.add_comm]
    rfl
  refine ⟨?_, ?_, ?_⟩
  · rw [count_parse, hlength, segmentMarks_segments, length_filter_eq_countP]
  · intro h
    have hpos : 0 < later.countP id := by
      have := hmulti.mp h
      split at hsplit <;> omega
    obtain ⟨mark, hmem, hmark⟩ := List.countP_pos_iff.mp hpos
    rw [hasSeparator, ← hlater, List.any_eq_true]
    exact ⟨mark, hmem, hmark⟩
  · intro hsep hnot
    rw [hasSeparator, ← hlater, List.any_eq_true] at hsep
    obtain ⟨mark, hmem, hmark⟩ := hsep
    have hpos : 0 < later.countP id := List.countP_pos_iff.mpr ⟨mark, hmem, hmark⟩
    have hfirst : hasContent (textBeforeSeparator (stripComments sql.toList)) = false := by
      by_contra hne
      rw [if_pos (by simpa using hne)] at hsplit
      have htwo := hmulti.mpr (by omega)
      rw [hnot] at htwo
      cases htwo
    simpa [hasContent] using hfirst

/-- A semicolon in a literal or in a comment divides nothing. -/
theorem statement_boundaries_of_literal :
    (parse "SELECT ';' ; SELECT /* ; */ 2;").count = 2 ∧
      hasSeparator "SELECT ';' ; SELECT /* ; */ 2;".toList = true := by
  have htokens : tokenize (stripComments "SELECT ';' ; SELECT /* ; */ 2;".toList) =
      .ok [.word "SELECT".toList, .blank, .string .single [';'], .blank, .semicolon, .blank,
        .word "SELECT".toList, .blank, .blank, .blank, .number ['2'] false, .semicolon] := by
    cbv
  obtain ⟨hcount, -, -⟩ := statement_boundaries (by simp) (by simp) htokens
  exact ⟨hcount.trans (by cbv), by cbv⟩

end Statement

end SqlGateway
