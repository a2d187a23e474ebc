import SqlGateway.Proofs.Statement.Blind
import SqlGateway.Proofs.Statement.Destructive
import SqlGateway.Proofs.Statement.Joining
import SqlGateway.Proofs.Statement.Spacing

/-!
# The Normal Form Is Read Like Its Text

A text and its normal form are described alike, with one exception. The word `limit` directly
behind a number with an exponent is a word of its own in the text; in the normal form it is
`LIMIT`, whose first letter is the mark of a long number. So a statement can lose its limit, and
where a text has several statements, another of them can become the riskiest, from which the text
has its verb and its category.

A text that cannot be cut into tokens is described by its words, and its normal form has the same
words, the same quotes and no comments; so it is described in the same way.

## Main results

* `IsRereading.analyze_eq`: how a statement and the normal form of it are described.
* `exists_error_format`, `fallbackPieces_words`: texts that cannot be cut into tokens.
* `parse_format`: the normal form is its own normal form, and is described as the text is if no
  statement loses its limit.
-/

namespace SqlGateway

open Sql Text Statement

/-! ### Statements that are cut into tokens -/

/-- A blank text in ASCII is cut into blanks. -/
theorem Sql.Scans.eq_blank {cs last : List Char} {tokens : List Token} (h : Scans cs tokens last)
    (hcs : ∀ c ∈ cs, isBlank c = true ∧ c.toNat < 0x80) : ∀ t ∈ tokens, t = .blank := by
  induction h with
  | done => simp
  | @cons c rest mid _ t tokens hread _ ih =>
      obtain ⟨hblank, hascii⟩ := hcs c List.mem_cons_self
      refine List.forall_mem_cons.mpr ⟨?_, ih fun d hd =>
        hcs d (List.mem_cons_of_mem c (hread.suffix.subset hd))⟩
      rcases hread.of_isBlank hblank with ⟨-, heq⟩ | ⟨hpast, -⟩
      · exact congrArg Prod.fst heq
      · exact absurd hascii (Nat.not_lt.mpr hpast)

/-- **A statement and its normal form are described alike**, up to a limit that is told by a lost
word. -/
theorem IsRereading.analyze_eq {piece piece' : List Token} (h : IsRereading piece piece') :
    (analyze piece').withoutLimit = (analyze piece).withoutLimit ∧
      (analyze piece').hasLimit = (analyze (dropGlued piece)).hasLimit := by
  have hagain : analyze piece' =
      analyzeBody (String.ofList (render piece)) (substance (dropGlued piece)) := by
    rw [h.likens.analyzeBody_eq (fun name => idleWord_of_mem) _ idleWord_limit, ← h.render_eq]
    rfl
  rw [hagain]
  constructor
  · exact ((likens_dropGlued piece).analyzeBody_withoutLimit
      (fun name hname => by simp [undecidedWord, hname]) _).symm
  · -- What is written of a statement has no part in what is read of it.
    have hread := reading_analyzeBody (String.ofList (render piece))
      (String.ofList (render piece)) (substance (dropGlued piece))
    have hread' := reading_analyzeBody (String.ofList (render piece))
      (String.ofList (render (dropGlued piece))) (substance (dropGlued piece))
    exact congrArg Reading.hasLimit (hread.symm.trans hread')

/-! ### The normal form is in ASCII -/

theorem Respells.ascii {s f : List Char} (h : Respells s f) (hs : ∀ c ∈ s, c.toNat < 0x80) :
    ∀ d ∈ f, d.toNat < 0x80 := by
  have hupper : ∀ c : Char, c.toNat < 0x80 → c.toUpper.toNat < 0x80 := fun c hc =>
    of_ascii (p := fun c => c.toUpper.toNat < 0x80) (by decide) hc
  cases h with
  | same => exact hs
  | capitals =>
      rw [upper_of_ascii hs]
      exact List.forall_mem_map.mpr fun c hc => hupper c (hs c hc)
  | letter c s =>
      exact List.forall_mem_cons.mpr ⟨hupper c (hs c List.mem_cons_self),
        fun d hd => hs d (List.mem_cons_of_mem c hd)⟩
  | inequality => exact List.forall_mem_cons.mpr ⟨by decide, by simp⟩
  | @hex digits =>
      have hdigits : ∀ d ∈ digits, d.toNat < 0x80 := fun d hd => hs d (by simp [hd])
      simpa [or_imp, forall_and] using hdigits

/-- The normal form of the tokens of a text in ASCII is in ASCII. -/
theorem Sql.Scans.ascii_render {cs v : List Char} {tokens : List Token} (h : Scans cs tokens v)
    (hcs : IsTame cs) (htokens : AreTame tokens) (afterBlank started : Bool) :
    ∀ d ∈ renderFrom afterBlank started tokens, d.toNat < 0x80 := by
  induction h generalizing afterBlank started with
  | done => simp [renderFrom]
  | @cons c rest mid _ t tokens hread _ ih =>
      have htail := ih (hcs.tail hread) fun t' ht' => htokens t' (List.mem_cons_of_mem t ht')
      by_cases hblank : t = .blank
      · subst hblank
        exact htail true started
      · obtain ⟨hc, hat⟩ := hcs c List.mem_cons_self
        obtain ⟨s, hs, hspell⟩ := hread.exists_spelling hc hat hblank
          (htokens t List.mem_cons_self)
        have hformat := hspell.ascii fun d hd => (hcs d (hs ▸ List.mem_append_left _ hd)).1
        rw [renderFrom_cons hblank]
        intro d hd
        simp only [List.mem_append] at hd
        rcases hd with (hd | hd) | hd
        · split at hd
          · rw [List.mem_singleton.mp hd]
            decide
          · cases hd
        · exact hformat d hd
        · exact htail false true d hd

theorem ascii_joined {pieces : List (List Token)} (h : ∀ piece ∈ pieces, IsPiece piece) :
    ∀ d ∈ joined pieces, d.toNat < 0x80 := by
  rw [joined]
  induction pieces with
  | nil => simp
  | cons piece pieces ih =>
      obtain ⟨cs, v, hpiece, -⟩ := h piece List.mem_cons_self
      have hfirst : ∀ d ∈ render piece, d.toNat < 0x80 :=
        hpiece.scans.ascii_render hpiece.isTame hpiece.areTame false false
      have hmore := ih fun p hp => h p (List.mem_cons_of_mem _ hp)
      cases pieces with
      | nil => simpa using hfirst
      | cons next pieces =>
          rw [List.map_cons, List.map_cons, List.intercalate_cons_cons]
          intro d hd
          simp only [List.mem_append] at hd
          rcases hd with (hd | hd) | hd
          · exact hfirst d hd
          · rcases List.mem_pair.mp hd with rfl | rfl <;> decide
          · exact hmore d hd

namespace Statement

/-- Tokens that are all blanks make no statement. -/
theorem splitStatements_of_blank {tokens : List Token} (h : ∀ t ∈ tokens, t = .blank) :
    splitStatements tokens = [] := by
  rw [splitStatements, List.filter_eq_nil_iff]
  intro piece hpiece
  rw [cutAtSemicolons_eq_splitOnP, List.splitOnP_eq_singleton fun t ht => by rw [h t ht]; rfl,
    List.mem_singleton] at hpiece
  subst hpiece
  simpa using h

/-- The description of a text in ASCII that is cut into tokens. -/
theorem parse_of_tokenize {sql : String} {tokens : List Token}
    (hascii : ∀ c ∈ sql.toList, c.toNat < 0x80)
    (h : tokenize (stripComments sql.toList) = .ok tokens) :
    parse sql = combine ((splitStatements tokens).map analyze) sql false := by
  unfold parse
  dsimp only
  rw [h]
  split
  · rename_i hempty
    rw [List.isEmpty_iff, trim_eq_nil_iff] at hempty
    have hblank := (tokenize_eq_ok_iff.mp h).eq_blank fun c hc => ⟨hempty c hc, by
      rcases mem_stripComments hc with hmem | rfl
      · exact hascii c hmem
      · decide⟩
    rw [splitStatements_of_blank hblank]
    rfl
  · rfl

/-! ### Texts that are described by their words -/

/-- The descriptions of pieces depend on their words only. -/
theorem map_fallbackPiece_congr {pieces pieces' : List (List Char)}
    (h : List.Forall₂ (fun p p' => words p = words p') pieces pieces') :
    ((pieces.map trim).filter (!·.isEmpty)).map fallbackPiece =
      ((pieces'.map trim).filter (!·.isEmpty)).map fallbackPiece := by
  induction h with
  | nil => rfl
  | @cons p p' _ _ hwords _ ih =>
      have hempty : (trim p).isEmpty = (trim p').isEmpty := by
        rw [Bool.eq_iff_iff, List.isEmpty_iff, List.isEmpty_iff, trim_eq_nil_iff, trim_eq_nil_iff,
          ← words_eq_nil_iff, ← words_eq_nil_iff, hwords]
      have hpiece : fallbackPiece (trim p) = fallbackPiece (trim p') := by
        rw [fallbackPiece, fallbackPiece, words_trim, words_trim, hwords]
      rw [List.map_cons, List.map_cons, List.filter_cons, List.filter_cons, hempty]
      split
      · rw [List.map_cons, List.map_cons, hpiece, ih]
      · exact ih

/-- **A text is described by its words as the words with one blank between them are.** -/
theorem fallbackPieces_words (cs : List Char) :
    fallbackPieces ([' '].intercalate (words cs)) = fallbackPieces cs := by
  have hblanks : ∀ c, isBlank c = true → (c == ';') = false := by
    intro c hc
    rw [beq_eq_false_iff_ne]
    rintro rfl
    cases hc
  have hlead : ∀ c ∈ cs.takeWhile isBlank, isBlank c = true := fun c hc =>
    List.mem_takeWhile_imp hc
  have hparts := (respaced_words cs).splitOnP hblanks
  have hcut := splitOnP_append_of_forall (fun c hc => hblanks c (hlead c hc))
    (cs.dropWhile isBlank)
  rw [List.takeWhile_append_dropWhile] at hcut
  rw [fallbackPieces, fallbackPieces, cutAt_eq_splitOnP, cutAt_eq_splitOnP, hcut]
  refine (map_fallbackPiece_congr ?_).symm
  generalize (cs.dropWhile isBlank).splitOnP (· == ';') = parts at hparts
  generalize ([' '].intercalate (words cs)).splitOnP (· == ';') = parts' at hparts
  cases hparts with
  | nil => exact .nil
  | cons hfirst hmore =>
      exact .cons ((words_congr (List.dropWhile_append_of_pos hlead)).trans hfirst.words_eq)
        (hmore.imp fun _ _ h => h.words_eq)

/-- The description of a text that the tokenizer refuses. -/
theorem parse_of_error {sql : String} {e : ScanError}
    (h : tokenize (stripComments sql.toList) = .error e) :
    parse sql = combine (fallbackPieces (stripComments sql.toList)) sql true := by
  unfold parse
  dsimp only
  rw [h]
  split
  · rename_i hempty
    rw [List.isEmpty_iff, trim_eq_nil_iff] at hempty
    rw [← fallbackPieces_words, words_eq_nil hempty]
    rfl
  · rfl

/-- The normal form of a text that the tokenizer refuses. -/
theorem toList_format_of_error {sql : String} {e : ScanError}
    (h : tokenize (stripComments sql.toList) = .error e) :
    (format sql).toList = [' '].intercalate (words (stripComments sql.toList)) := by
  unfold format
  dsimp only
  rw [h]
  simp [Function.comp_def]

/-- **The words of a text that the tokenizer refuses are refused again**: the open quote stays
open, and no comment is opened. -/
theorem exists_error_format {sql : String} {e : ScanError} (hat : '@' ∉ sql.toList)
    (hescapes : OpensNoEscapes (stripComments sql.toList))
    (h : tokenize (stripComments sql.toList) = .error e) :
    ∃ e', tokenize (stripComments (format sql).toList) = .error e' ∧
      stripComments (format sql).toList = [' '].intercalate (words (stripComments sql.toList)) := by
  have hbare := isBare_stripComments sql.toList
  have hat' : '@' ∉ stripComments sql.toList := fun hmem => by
    rcases mem_stripComments hmem with hmem | hblank
    · exact hat hmem
    · cases hblank
  rw [toList_format_of_error h]
  generalize stripComments sql.toList = text at *
  have hlead : ∀ c ∈ text.takeWhile isBlank, isBlank c = true := fun c hc =>
    List.mem_takeWhile_imp hc
  have hrespaced := respaced_words text
  have hopen : HasOpenQuote (text.dropWhile isBlank) := by
    by_contra hclosed
    rw [← hasOpenQuote_append fun c hc => (plain_of_isBlank hlead c hc).1,
      List.takeWhile_append_dropWhile] at hclosed
    obtain ⟨tokens, htokens⟩ := (exists_tokens_iff hescapes hat').mpr hclosed
    rw [h] at htokens
    cases htokens
  have hbare' : IsBare (text.dropWhile isBlank) := by
    rwa [← isBare_blanks_iff hlead, List.takeWhile_append_dropWhile]
  rw [stripComments_of_isBare (hbare'.respaced hrespaced)]
  rcases htokens : tokenize ([' '].intercalate (words text)) with e' | tokens
  · exact ⟨e', rfl, rfl⟩
  · have hclosed := (tokenize_eq_ok_iff.mp htokens).hasOpenQuote_iff fun hmem =>
      hat' ((List.dropWhile_suffix _).subset (hrespaced.mem (by decide) hmem))
    exact absurd (hclosed.mp (hopen.respaced hrespaced)) not_hasOpenQuote_nil

/-! ### Descriptions but for limits -/

/-- Descriptions that agree but for limits. The verb and the category of several statements are
those of the riskiest one, and a limit can decide which this is. -/
structure AgreesButForLimits (s s' : Statement) : Prop where
  tables_eq : s.tables = s'.tables
  hasWhere_eq : s.hasWhere = s'.hasWhere
  isMulti_eq : s.isMulti = s'.isMulti
  count_eq : s.count = s'.count
  normalized_eq : s.normalized = s'.normalized
  isValid_eq : s.isValid = s'.isValid
  usedFallback_eq : s.usedFallback = s'.usedFallback
  operation_eq : s.isMulti = false → s.operation = s'.operation
  category_eq : s.isMulti = false → s.category = s'.category
  parts_eq : s.parts.map withoutLimit = s'.parts.map withoutLimit

/-- What does not tell of limits is the same in statements that agree but for limits. -/
theorem map_eq_of_withoutLimit {α : Type} {f : Statement → α}
    (hf : ∀ s, f s.withoutLimit = f s) {l l' : List Statement}
    (h : l.map withoutLimit = l'.map withoutLimit) : l.map f = l'.map f := by
  have hmap : ∀ l : List Statement, l.map f = (l.map withoutLimit).map f := by
    intro l
    rw [List.map_map]
    exact List.map_congr_left fun s _ => (hf s).symm
  rw [hmap, h, ← hmap]

/-- **Statements that agree but for limits** are combined to descriptions that do. -/
theorem agreesButForLimits_combine {l l' : List Statement}
    (h : l.map withoutLimit = l'.map withoutLimit) (text text' : String) (fallback : Bool) :
    AgreesButForLimits (combine l text fallback) (combine l' text' fallback) := by
  have hlength : l.length = l'.length := by simpa using congrArg List.length h
  have hany : ∀ f : Statement → Bool, (∀ s, f s.withoutLimit = f s) → l.any f = l'.any f := by
    intro f hf
    have hmap := congrArg (List.any · id) (map_eq_of_withoutLimit hf h)
    simpa [List.any_map] using hmap
  have hall : ∀ f : Statement → Bool, (∀ s, f s.withoutLimit = f s) → l.all f = l'.all f := by
    intro f hf
    have hmap := congrArg (List.all · id) (map_eq_of_withoutLimit hf h)
    simpa [List.all_map] using hmap
  have htables : l.flatMap (·.tables.names) = l'.flatMap (·.tables.names) := by
    rw [List.flatMap_def, List.flatMap_def,
      map_eq_of_withoutLimit (f := fun s => s.tables.names) (fun _ => rfl) h]
  have hnormalized : l.map (·.normalized) = l'.map (·.normalized) :=
    map_eq_of_withoutLimit (fun _ => rfl) h
  rcases l with _ | ⟨s, _ | ⟨second, more⟩⟩ <;> rcases l' with _ | ⟨s', _ | ⟨second', more'⟩⟩
  case nil.nil => exact ⟨rfl, rfl, rfl, rfl, rfl, rfl, rfl, fun _ => rfl, fun _ => rfl, rfl⟩
  case cons.nil.cons.nil =>
    have hs : s.withoutLimit = s'.withoutLimit := by simpa using h
    cases s
    cases s'
    simp only [withoutLimit, mk.injEq, true_and] at hs
    obtain ⟨rfl, rfl, rfl, rfl, rfl, rfl, rfl, rfl, rfl, rfl, rfl⟩ := hs
    exact ⟨rfl, rfl, rfl, rfl, rfl, rfl, rfl, fun _ => rfl, fun _ => rfl, rfl⟩
  case cons.cons.cons.cons =>
    exact {
      tables_eq := congrArg NameSet.ofList htables
      hasWhere_eq := hany _ fun _ => rfl
      isMulti_eq := rfl
      count_eq := hlength
      normalized_eq := congrArg (String.intercalate "; ") hnormalized
      isValid_eq := hall _ fun _ => rfl
      usedFallback_eq := rfl
      operation_eq hmulti := by cases hmulti
      category_eq hmulti := by cases hmulti
      parts_eq := h }
  all_goals simp at hlength

/-- A text is described by its statements alone, but for itself. -/
theorem combine_withText (l : List Statement) (text text' : String) (fallback : Bool) :
    combine l text' fallback = { combine l text fallback with text := text' } := by
  rcases l with _ | ⟨s, _ | ⟨second, more⟩⟩ <;> rfl

/-- Statements that agree but for limits are the same if they have limits alike. -/
theorem eq_of_withoutLimit {s s' : Statement} (h : s.withoutLimit = s'.withoutLimit)
    (hlimit : s.hasLimit = s'.hasLimit) : s = s' := by
  cases s
  cases s'
  simp only [withoutLimit, mk.injEq] at h hlimit ⊢
  simpa [hlimit] using h

/-- The description of a text tells of every statement whether it has a limit. -/
theorem eq_of_combine_eq {l l' : List Statement}
    (h : l'.map withoutLimit = l.map withoutLimit) {text text' : String} {fallback : Bool}
    (hcombine : combine l' text' fallback = { combine l text fallback with text := text' }) :
    l' = l := by
  have hlength : l'.length = l.length := by simpa using congrArg List.length h
  rcases l with _ | ⟨s, _ | ⟨second, more⟩⟩ <;> rcases l' with _ | ⟨s', _ | ⟨second', more'⟩⟩
  case nil.nil => rfl
  case cons.nil.cons.nil =>
    have hs : s'.withoutLimit = s.withoutLimit := by simpa using h
    have hlimit := congrArg hasLimit hcombine
    rw [eq_of_withoutLimit hs hlimit]
  case cons.cons.cons.cons => exact congrArg parts hcombine
  all_goals simp at hlength

/-! ### The normal form -/

/-- Of each statement of a text, the limit is told by more than a lost word. -/
def KeepsLimits (sql : String) : Prop :=
  ∀ tokens, tokenize (stripComments sql.toList) = .ok tokens →
    ∀ piece ∈ splitStatements tokens,
      (analyze (dropGlued piece)).hasLimit = (analyze piece).hasLimit

/-- Rereadings of statements are described as the statements are, up to limits. -/
theorem map_analyze_of_rereadings {pieces pieces' : List (List Token)}
    (h : List.Forall₂ IsRereading pieces pieces') :
    (pieces'.map analyze).map withoutLimit = (pieces.map analyze).map withoutLimit ∧
      pieces'.map render = pieces.map render ∧
      ((∀ piece ∈ pieces, (analyze (dropGlued piece)).hasLimit = (analyze piece).hasLimit) ↔
        pieces'.map analyze = pieces.map analyze) := by
  induction h with
  | nil => simp
  | @cons piece piece' pieces pieces' hagain _ ih =>
      obtain ⟨hagree, hrender, hlimits⟩ := ih
      obtain ⟨hanalyze, hlimit⟩ := hagain.analyze_eq
      refine ⟨?_, ?_, ?_⟩
      · rw [List.map_cons, List.map_cons, List.map_cons, List.map_cons, hanalyze, hagree]
      · rw [List.map_cons, List.map_cons, hagain.render_eq, hrender]
      · rw [List.forall_mem_cons, hlimits, ← hlimit, List.map_cons, List.map_cons,
          List.cons.injEq]
        exact and_congr_left' ⟨eq_of_withoutLimit hanalyze, congrArg hasLimit⟩

/-- **The normal form of a text that the tokenizer refuses.** -/
theorem parse_format_of_error {sql : String} {e : ScanError} (hat : '@' ∉ sql.toList)
    (hescapes : OpensNoEscapes (stripComments sql.toList))
    (h : tokenize (stripComments sql.toList) = .error e) :
    format (format sql) = format sql ∧ parse (format sql) = { parse sql with text := format sql } := by
  obtain ⟨e', h', htext⟩ := exists_error_format hat hescapes h
  constructor
  · rw [← String.toList_inj, toList_format_of_error h', htext, words_intercalate,
      toList_format_of_error h]
  · rw [parse_of_error h', htext, fallbackPieces_words, parse_of_error h]
    exact combine_withText _ _ _ _

/-- **The normal form of a text that is cut into tokens.** -/
theorem exists_statements_format {sql : String} {tokens : List Token}
    (hascii : ∀ c ∈ sql.toList, c.toNat < 0x80) (hat : '@' ∉ sql.toList)
    (h : tokenize (stripComments sql.toList) = .ok tokens) (htokens : AreTame tokens) :
    format (format sql) = format sql ∧
      ∃ l, parse (format sql) = combine l (format sql) false ∧
        l.map withoutLimit = ((splitStatements tokens).map analyze).map withoutLimit ∧
        (KeepsLimits sql ↔ l = (splitStatements tokens).map analyze) := by
  obtain ⟨tokens', h', hagain⟩ := exists_rereadings_of_tokenize hascii hat h htokens
  obtain ⟨hagree, hrender, hlimits⟩ := map_analyze_of_rereadings hagain
  have hpieces := (tokenize_eq_ok_iff.mp h).isPiece_of_mem_splitStatements
    (isTame_stripComments hascii hat) htokens (isBare_stripComments _)
  have hascii' : ∀ c ∈ (format sql).toList, c.toNat < 0x80 := by
    rw [toList_format h]
    exact ascii_joined fun piece hpiece => (hpieces piece hpiece).1
  refine ⟨?_, _, parse_of_tokenize hascii' h', hagree, ?_⟩
  · rw [← String.toList_inj, toList_format h', toList_format h, joined, hrender, joined]
  · rw [← hlimits]
    refine ⟨fun hkeeps => hkeeps tokens h, fun hall tokens' htokens' => ?_⟩
    obtain rfl := Except.ok.inj (h.symm.trans htokens')
    exact hall

/-- **A text and its normal form are described alike.** The normal form is its own normal form. Its
description agrees with that of the text but for limits, and altogether exactly if no statement
loses its limit. -/
theorem parse_format {sql : String} (hascii : ∀ c ∈ sql.toList, c.toNat < 0x80)
    (hat : '@' ∉ sql.toList) (hescapes : OpensNoEscapes (stripComments sql.toList)) :
    format (format sql) = format sql ∧ AgreesButForLimits (parse (format sql)) (parse sql) ∧
      (parse (format sql) = { parse sql with text := format sql } ↔ KeepsLimits sql) := by
  rcases h : tokenize (stripComments sql.toList) with e | tokens
  · obtain ⟨hformat, hparse⟩ := parse_format_of_error hat hescapes h
    refine ⟨hformat, ?_, iff_of_true hparse fun tokens htokens => ?_⟩
    · rw [hparse]
      exact ⟨rfl, rfl, rfl, rfl, rfl, rfl, rfl, fun _ => rfl, fun _ => rfl, rfl⟩
    · cases h.symm.trans htokens
  · have htokens := hescapes.ne_escaped (isTame_stripComments hascii hat)
      (tokenize_eq_ok_iff.mp h)
    obtain ⟨hformat, l, hparse, hagree, hkeeps⟩ := exists_statements_format hascii hat h htokens
    rw [hparse, parse_of_tokenize hascii h, hkeeps]
    refine ⟨hformat, agreesButForLimits_combine hagree _ _ _, eq_of_combine_eq hagree, ?_⟩
    rintro rfl
    exact combine_withText _ _ _ _

/-- Strings that stand next to each other, an operator that is written in another way, and a
keyword behind a number with an exponent. -/
theorem parse_format_of_glued :
    format (format "select 0x1F'a'!=1e5ln'b' limit 5") = format "select 0x1F'a'!=1e5ln'b' limit 5" ∧
      parse (format "select 0x1F'a'!=1e5ln'b' limit 5") =
        { parse "select 0x1F'a'!=1e5ln'b' limit 5" with
          text := format "select 0x1F'a'!=1e5ln'b' limit 5" } := by
  have htokens : tokenize (stripComments "select 0x1F'a'!=1e5ln'b' limit 5".toList) =
      .ok [.word "select".toList, .blank, .string .hex "1F".toList, .string .single ['a'],
        .sign "<>".toList, .number "1e5".toList false, .word "ln".toList, .string .single ['b'],
        .blank, .word "limit".toList, .blank, .number ['5'] false] := by
    cbv
  have hascii : ∀ c ∈ "select 0x1F'a'!=1e5ln'b' limit 5".toList, c.toNat < 0x80 := by simp
  have hat : '@' ∉ "select 0x1F'a'!=1e5ln'b' limit 5".toList := by simp
  have hescapes : OpensNoEscapes (stripComments "select 0x1F'a'!=1e5ln'b' limit 5".toList) := by
    rw [opensNoEscapes_iff (isTame_stripComments hascii hat) (tokenize_eq_ok_iff.mp htokens)]
    simp
  obtain ⟨hformat, -, hiff⟩ := parse_format hascii hat hescapes
  refine ⟨hformat, hiff.mpr fun tokens h => ?_⟩
  obtain rfl := Except.ok.inj (htokens.symm.trans h)
  decide +kernel

/-- **A limit is lost.** Directly behind a number with an exponent, the keyword `limit` gives its
first letter to the number once that letter is a capital. Another statement of the text is then
described as the riskiest one. -/
theorem limit_lost_in_format :
    (∀ c ∈ "SHOW TABLES; SELECT 1e5limit 1".toList, c.toNat < 0x80) ∧
      '@' ∉ "SHOW TABLES; SELECT 1e5limit 1".toList ∧
      OpensNoEscapes (stripComments "SHOW TABLES; SELECT 1e5limit 1".toList) ∧
      ((parse "SHOW TABLES; SELECT 1e5limit 1").hasLimit = true ∧
        (parse "SHOW TABLES; SELECT 1e5limit 1").operation = "SHOW TABLES") ∧
      (parse (format "SHOW TABLES; SELECT 1e5limit 1")).hasLimit = false ∧
      (parse (format "SHOW TABLES; SELECT 1e5limit 1")).operation = "SELECT" := by
  have hascii : ∀ c ∈ "SHOW TABLES; SELECT 1e5limit 1".toList, c.toNat < 0x80 := by simp
  have hat : '@' ∉ "SHOW TABLES; SELECT 1e5limit 1".toList := by simp
  have htokens : tokenize (stripComments "SHOW TABLES; SELECT 1e5limit 1".toList) =
      .ok [.word "SHOW".toList, .blank, .word "TABLES".toList, .semicolon, .blank,
        .word "SELECT".toList, .blank, .number "1e5".toList false, .word "limit".toList, .blank,
        .number ['1'] false] := by
    cbv
  have hformat : format "SHOW TABLES; SELECT 1e5limit 1" = "SHOW TABLES; SELECT 1e5LIMIT 1" := by
    decide +kernel
  refine ⟨hascii, hat, ?_, by decide +kernel, by rw [hformat]; decide +kernel⟩
  rw [opensNoEscapes_iff (isTame_stripComments hascii hat) (tokenize_eq_ok_iff.mp htokens)]
  simp

end Statement

end SqlGateway
