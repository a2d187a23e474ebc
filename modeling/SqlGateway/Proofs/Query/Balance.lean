import SqlGateway.Proofs.Query.Scanning
import SqlGateway.Proofs.Sql.Stripping

/-!
# Two Readers in Step

Binding reads a statement with a scanner that knows quotes but no comments; the server knows both.
A comment with a quote in it, or a name in `%(..)s` with a sign that means something to the
server, puts the two out of step. In all other statements (`Orderly`) both go on together piece by
piece, and the marks and names that they count are balanced over each piece (`Balanced`): a
placeholder is a run of plain characters, a quoted section is the same to both, and a comment is
still a comment after its placeholders were replaced.

## Main results

* `count_mark_partsFrom`: the marks that the scanner finds in a text without quotes.
* `exists_readBlock_sentFrom`: a block comment ends where it did.
* `exists_balanced`: one piece, as both readers see it.
* `counts_agree`: the balance of a whole text.
-/

namespace SqlGateway.Sql

/-- The text of a comment that the server passes over. -/
def Piece.comment? : Piece → Option (List Char)
  | .lineComment text => some text
  | .blockComment body closed => some (Piece.source (.blockComment body closed))
  | _ => none

/-- The first piece of a text, cut off. -/
theorem pieces_of_cuts {versioned : Bool} {c : Char} {rest : List Char} {step : PieceStep}
    (h : Cuts versioned c rest step) :
    pieces versioned (c :: rest) = step.piece :: pieces step.versioned step.rest := by
  rw [pieces, nextPiece_eq_iff.mpr h]

end SqlGateway.Sql

namespace SqlGateway.Query

open Text Sql

variable {versioned : Bool} {before : Option Char} {c d : Char} {x t u cs rest after : List Char}
  {q : Placeholder}

/-! ### Names -/

/-- Signs that open or end a quoted section or a comment, and the sign of a placeholder. -/
def sectionSigns : List Char :=
  ['\'', '"', '`', '?', '#', '/', '*', '\n']

/-- A name that reads the same to the server as to the scanner: it opens and ends nothing. -/
structure IsPlainName (name : String) : Prop where
  notMem : ∀ c ∈ name.toList, c ∉ sectionSigns
  no_dashes : name.toList.IsChain fun a b => a = '-' → b ≠ '-'

theorem isQuote_of_notMem (h : c ∉ sectionSigns) : isQuote c = false := by
  simp only [sectionSigns, List.mem_cons, not_or] at h
  simp [isQuote, h]

theorem isNameChar_of_mem (h : c ∈ sectionSigns) : isNameChar c = false := by
  have hall : sectionSigns.all (fun e => !isNameChar e) = true := by decide
  simpa using List.all_eq_true.mp hall c h

namespace Placeholder

theorem notMem_source (h : IsPlainName q.name) : ∀ c ∈ q.source, c ∉ sectionSigns := by
  have hname := h.notMem
  cases q with
  | percent x =>
      rw [name, String.toList_ofList] at hname
      simp only [source, List.cons_append, List.forall_mem_cons, List.forall_mem_append]
      exact ⟨by decide, by decide, hname, by decide, by decide, by simp⟩
  | colon x =>
      rw [name, String.toList_ofList] at hname
      exact List.forall_mem_cons.mpr ⟨by decide, hname⟩

theorem isChain_source (h : IsPlainName q.name) :
    q.source.IsChain fun a b => a = '-' → b ≠ '-' := by
  have hname := h.no_dashes
  cases q with
  | percent x =>
      rw [name, String.toList_ofList] at hname
      have hend : (x ++ [')', 's']).IsChain fun a b => a = '-' → b ≠ '-' :=
        hname.append (by decide) (by simp)
      rw [source, List.cons_append, List.cons_append]
      exact (hend.cons (by simp)).cons (by simp)
  | colon x =>
      rw [name, String.toList_ofList] at hname
      exact hname.cons (by simp)

theorem getLast?_source (fits : q.Fits before after) : q.source.getLast? ≠ some '-' := by
  cases q with
  | percent x =>
      have hsource : (percent x).source = '%' :: '(' :: x ++ [')'] ++ ['s'] := by simp [source]
      rw [hsource, List.getLast?_concat]
      decide
  | colon x =>
      obtain ⟨⟨c, y, rfl, -⟩, hname, -⟩ := fits
      intro hlast
      rw [source, List.getLast?_cons_cons] at hlast
      have hchar := hname '-' (List.mem_of_getLast? hlast)
      exact absurd hchar (by decide)

end Placeholder

/-- A text without signs and without two minus signs in a row is pieces of one character each. -/
theorem pieces_plain_run (hx : ∀ c ∈ x, c ∉ sectionSigns)
    (hchain : x.IsChain fun a b => a = '-' → b ≠ '-') (hlast : x.getLast? ≠ some '-') :
    pieces versioned (x ++ rest) = x.map .plain ++ pieces versioned rest := by
  induction x with
  | nil => rfl
  | cons c x ih =>
      obtain ⟨hc, hx⟩ := List.forall_mem_cons.mp hx
      have hsigns := hc
      simp only [sectionSigns, List.mem_cons, not_or] at hsigns
      have hminus : c = '-' → (x ++ rest).head? ≠ some '-' := by
        rintro rfl
        cases x with
        | nil => simp at hlast
        | cons d x =>
            have hd := (List.isChain_cons_cons.mp hchain).1 rfl
            simpa using hd
      have hcuts : Cuts versioned c (x ++ rest) ⟨.plain c, versioned, x ++ rest⟩ :=
        .plain (isQuote_of_notMem hc) (by simp [hsigns]) (by simp [hsigns]) (by simp [hsigns])
          hminus
      rw [List.cons_append, pieces_of_cuts hcuts, List.map_cons, List.cons_append]
      refine congrArg _ (ih hx hchain.tail ?_)
      cases x with
      | nil => simp
      | cons d x => rwa [List.getLast?_cons_cons] at hlast

/-! ### Counting -/

/-- The number of `?` among the pieces of a text, outside quotes and comments. -/
def openMarks (bs : List Piece) : Nat :=
  bs.count (.plain '?')

/-- The number of `?` in the comments among the pieces of a text. -/
def commentMarks (bs : List Piece) : Nat :=
  ((bs.filterMap Piece.comment?).map (List.count '?')).sum

/-- The number of named placeholders among the parts of a text. -/
def nameCount (ps : List Part) : Nat :=
  (ps.filterMap Part.name?).length

/-- The number of named placeholders in the comments among the pieces of a text. -/
def commentNames (bs : List Piece) : Nat :=
  ((bs.filterMap Piece.comment?).map fun t => nameCount (parts t)).sum

section Counting

variable {bs bs' : List Piece} {ps ps' : List Part} {p : Piece}

theorem openMarks_append : openMarks (bs ++ bs') = openMarks bs + openMarks bs' :=
  List.count_append

theorem commentMarks_append : commentMarks (bs ++ bs') = commentMarks bs + commentMarks bs' := by
  simp [commentMarks]

theorem nameCount_append : nameCount (ps ++ ps') = nameCount ps + nameCount ps' := by
  simp [nameCount]

theorem commentNames_append : commentNames (bs ++ bs') = commentNames bs + commentNames bs' := by
  simp [commentNames]

theorem openMarks_map_plain (x : List Char) : openMarks (x.map .plain) = x.count '?' :=
  List.count_map_of_injective x _ (fun _ _ h => by cases h; rfl) _

theorem comment?_map_plain (x : List Char) : (x.map Piece.plain).filterMap Piece.comment? = [] := by
  simp [List.filterMap_map, Piece.comment?]

theorem commentMarks_eq_zero_iff :
    commentMarks bs = 0 ↔ ∀ t ∈ bs.filterMap Piece.comment?, '?' ∉ t := by
  rw [commentMarks, List.sum_eq_zero_iff, List.forall_mem_map]
  exact forall₂_congr fun t _ => List.count_eq_zero

end Counting

/-- The marks of a text without quotes are its question marks. -/
theorem count_mark_partsFrom (hx : ∀ c ∈ x, isQuote c = false)
    (hnames : ∀ n ∈ (partsFrom none before x).filterMap Part.name?, IsPlainName n) :
    (partsFrom none before x).count .mark = x.count '?' := by
  induction before, x using scan_induction with
  | nil => simp
  | quote before c rest hquote =>
      rw [hx c List.mem_cons_self] at hquote
      cases hquote
  | placeholder before q after fits ih =>
      rw [partsFrom_placeholder fits] at hnames ⊢
      rw [List.filterMap_cons, q.name?_part] at hnames
      obtain ⟨hname, hnames⟩ := List.forall_mem_cons.mp hnames
      have hsource : q.source.count '?' = 0 :=
        List.count_eq_zero.mpr fun hmem => q.notMem_source hname _ hmem (by decide)
      have hpart : q.part ≠ .mark := by cases q <;> exact nofun
      rw [List.count_cons_of_ne hpart, List.count_append, hsource,
        ih (fun c hc => hx c (List.mem_append_right _ hc)) hnames, Nat.zero_add]
  | char before c rest hquote hnone ih =>
      rw [partsFrom_char hquote hnone] at hnames ⊢
      rw [List.filterMap_cons, name?_plainPart] at hnames
      rw [List.count_cons, List.count_cons,
        ih (fun d hd => hx d (List.mem_cons_of_mem _ hd)) hnames]
      congr 1
      by_cases hc : c = '?' <;> simp [plainPart, hc]

/-! ### Comments -/

theorem opensDashComment_sentFrom :
    opensDashComment (sentFrom none before cs) = opensDashComment cs := by
  induction before, cs using scan_induction with
  | nil => simp
  | quote before c rest hquote =>
      rw [sentFrom, partsFrom_quote hquote]
      rfl
  | placeholder before q after fits =>
      rw [sentFrom_placeholder fits]
      cases q <;> rfl
  | char before c rest hquote hnone =>
      rw [sentFrom_char hquote hnone]
      rfl

theorem opensDashComment_of_append (h : opensDashComment (t ++ u) = true) :
    opensDashComment t = true := by
  cases t with
  | nil => rfl
  | cons c t => exact h

theorem opensDashComment_append (ht : opensDashComment t = true) (hu : ∀ c ∈ u.head?, c = '\n') :
    opensDashComment (t ++ u) = true := by
  cases t with
  | cons c t => exact ht
  | nil =>
      cases u with
      | nil => rfl
      | cons c u =>
          obtain rfl : c = '\n' := hu c rfl
          have hblank : (isBlank '\n' || isControl '\n') = true := by decide
          exact hblank

theorem head?_sentFrom_of_lineEnd (h : ∀ c ∈ cs.head?, c = '\n') :
    ∀ c ∈ (sentFrom none before cs).head?, c = '\n' := by
  cases cs with
  | nil => simp
  | cons c rest =>
      obtain rfl : c = '\n' := h c rfl
      rw [sentFrom_sign (by decide)]
      simp

theorem ne_lineEnd_of_mem_sentFrom (hx : ∀ c ∈ x, (c != '\n') = true) :
    ∀ c ∈ sentFrom none before x, (c != '\n') = true := by
  intro c hc
  rcases mem_sentFrom hc with hc | rfl
  · exact hx c hc
  · rfl

/-- A comment to the end of its line, in front of a line break. -/
theorem pieces_hash (ht : ∀ c ∈ t, (c != '\n') = true) (hu : ∀ c ∈ u.head?, c = '\n') :
    pieces versioned ('#' :: t ++ u) = .lineComment ('#' :: t) :: pieces versioned u := by
  have hcuts : Cuts versioned '#' (t ++ u) _ := .hash rfl
  have hstop : ∀ c ∈ u.head?, (c != '\n') = false := by simpa using hu
  rw [takeWhile_run ht hstop, dropWhile_run ht hstop] at hcuts
  exact pieces_of_cuts hcuts

theorem pieces_dashComment (ht : ∀ c ∈ t, (c != '\n') = true) (hu : ∀ c ∈ u.head?, c = '\n')
    (hopens : opensDashComment (t ++ u) = true) :
    pieces versioned ('-' :: '-' :: t ++ u) =
      .lineComment ('-' :: '-' :: t) :: pieces versioned u := by
  have hcuts : Cuts versioned '-' ('-' :: (t ++ u)) _ := .dashes rfl rfl hopens
  have hstop : ∀ c ∈ u.head?, (c != '\n') = false := by simpa using hu
  rw [takeWhile_run ht hstop, dropWhile_run ht hstop] at hcuts
  exact pieces_of_cuts hcuts

theorem readBlock_run (hx : '*' ∉ x) (rest : List Char) :
    readBlock (x ++ rest) = (x ++ (readBlock rest).1, (readBlock rest).2) := by
  induction x with
  | nil => rfl
  | cons c x ih =>
      obtain ⟨hc, hx⟩ := not_or.mp (mt List.mem_cons.mpr hx)
      rw [List.cons_append, readBlock_cons fun h => hc h.1.symm, ih hx]
      rfl

/-- **A block comment ends where it did** after its placeholders were replaced. -/
theorem exists_readBlock_sentFrom (hquotes : ∀ c ∈ (readBlock cs).1, isQuote c = false)
    (hnames : ∀ n ∈ (partsFrom none before cs).filterMap Part.name?, IsPlainName n) :
    ∃ body, readBlock (sentFrom none before cs) =
      (body, (readBlock cs).2.1, sentFrom none (some '/') (readBlock cs).2.2) := by
  induction before, cs using scan_induction with
  | nil => exact ⟨[], by simp [readBlock]⟩
  | quote before c rest hquote =>
      have hopen : ¬(c = '*' ∧ ∃ after, rest = '/' :: after) := by
        rintro ⟨rfl, -⟩
        cases hquote
      rw [readBlock_cons hopen] at hquotes
      rw [hquotes c List.mem_cons_self] at hquote
      cases hquote
  | placeholder before q after fits ih =>
      rw [partsFrom_placeholder fits, List.filterMap_cons, q.name?_part] at hnames
      obtain ⟨hname, hnames⟩ := List.forall_mem_cons.mp hnames
      have hstar : '*' ∉ q.source := fun hmem => q.notMem_source hname _ hmem (by decide)
      rw [readBlock_run hstar] at hquotes ⊢
      obtain ⟨body, hbody⟩ := ih (fun c hc => hquotes c (List.mem_append_right _ hc)) hnames
      refine ⟨'?' :: body, ?_⟩
      rw [sentFrom_placeholder fits, readBlock_cons (by simp), hbody]
  | char before c rest hquote hnone ih =>
      rw [partsFrom_char hquote hnone, List.filterMap_cons, name?_plainPart] at hnames
      rw [sentFrom_char hquote hnone]
      by_cases hend : c = '*' ∧ ∃ after, rest = '/' :: after
      · obtain ⟨rfl, after, rfl⟩ := hend
        refine ⟨[], ?_⟩
        rw [sentFrom_sign (by decide)]
        rfl
      · have hopen : ¬(c = '*' ∧ ∃ after, sentFrom none (some c) rest = '/' :: after) := by
          rintro ⟨hc, after, hafter⟩
          have hhead := head?_sentFrom (d := '/') (by decide) (by rw [hafter]; rfl)
          exact hend ⟨hc, List.head?_eq_some_iff.mp hhead⟩
        rw [readBlock_cons hend] at hquotes ⊢
        obtain ⟨body, hbody⟩ := ih (fun c hc => hquotes c (List.mem_cons_of_mem _ hc)) hnames
        exact ⟨c :: body, by rw [readBlock_cons hopen, hbody]⟩

/-! ### One piece -/

/-- A text is a run of some characters and what stops it. -/
theorem exists_run_append (p : Char → Bool) (cs : List Char) :
    ∃ run rest, cs = run ++ rest ∧ (∀ c ∈ run, p c = true) ∧ ∀ c ∈ rest.head?, p c = false :=
  ⟨cs.takeWhile p, cs.dropWhile p, List.takeWhile_append_dropWhile.symm,
    fun _ hc => List.mem_takeWhile_imp hc, head?_dropWhile⟩

/-- What keeps the two readers in step: no quotes in comments, and plain names. -/
structure Orderly (versioned : Bool) (before : Option Char) (cs : List Char) : Prop where
  comments : ∀ t ∈ (pieces versioned cs).filterMap Piece.comment?, ∀ c ∈ t, isQuote c = false
  names : ∀ n ∈ (partsFrom none before cs).filterMap Part.name?, IsPlainName n

/-- From one place in a text to another, both readers go on, and so does the server in what is
sent. They count the same marks, those in comments apart, and in what is sent there is one for
each placeholder more, those in comments apart. -/
def Balanced (versioned : Bool) (before : Option Char) (cs : List Char) (versioned' : Bool)
    (before' : Option Char) (rest : List Char) : Prop :=
  ∃ (ps : List Part) (bs bs' : List Piece),
    partsFrom none before cs = ps ++ partsFrom none before' rest ∧
    pieces versioned cs = bs ++ pieces versioned' rest ∧
    pieces versioned (sentFrom none before cs) =
      bs' ++ pieces versioned' (sentFrom none before' rest) ∧
    ps.count .mark = openMarks bs + commentMarks bs ∧
    openMarks bs' + commentNames bs = nameCount ps + openMarks bs

/-- A comment is scanned on its own. -/
theorem partsFrom_comment {b : Piece} (horderly : Orderly versioned before (x ++ rest))
    (hb : b.comment? = some x) (hpieces : pieces versioned (x ++ rest) = b :: pieces versioned rest)
    (hd : d ∈ sectionSigns) (hmeet : MeetsAt d x rest) :
    (∀ c ∈ x, isQuote c = false) ∧
    (∀ n ∈ (partsFrom none before x).filterMap Part.name?, IsPlainName n) ∧
    partsFrom none before (x ++ rest) =
      partsFrom none before x ++ partsFrom none (lastOf? before x) rest := by
  have hquotes : ∀ c ∈ x, isQuote c = false := by
    refine horderly.comments x ?_
    rw [hpieces, List.filterMap_cons, hb]
    exact List.mem_cons_self
  have hparts : partsFrom none before (x ++ rest) =
      partsFrom none before x ++ partsFrom none (lastOf? before x) rest := by
    refine partsFrom_append hquotes (isNameChar_of_mem hd) hmeet fun q hq hmem => ?_
    have hplain := horderly.names q.name (List.mem_filterMap.mpr ⟨_, hq, q.name?_part⟩)
    exact q.notMem_source hplain d hmem hd
  refine ⟨hquotes, fun n hn => horderly.names n ?_, hparts⟩
  rw [hparts, List.filterMap_append]
  exact List.mem_append_left _ hn

/-- A comment is in balance, if it is still a comment after its placeholders were replaced. -/
theorem balanced_comment {b : Piece} (b' : Piece)
    (horderly : Orderly versioned before (c :: x ++ rest))
    (hc : c ≠ '%' ∧ c ≠ ':') (hd : d ∈ sectionSigns) (hmeet : MeetsAt d (c :: x) rest)
    (hb : b.comment? = some (c :: x)) (hb' : b' ≠ .plain '?')
    (hpieces : pieces versioned (c :: x ++ rest) = b :: pieces versioned rest)
    (hsent : pieces versioned (sentFrom none before (c :: x ++ rest)) =
      b' :: pieces versioned (sentFrom none (lastOf? before (c :: x)) rest)) :
    Balanced versioned before (c :: x ++ rest) versioned (lastOf? before (c :: x)) rest := by
  obtain ⟨hquotes, hnames, hparts⟩ := partsFrom_comment horderly hb hpieces hd hmeet
  have hopen {p : Piece} (hp : p ≠ .plain '?') : openMarks [p] = 0 :=
    List.count_eq_zero.mpr fun hmem => hp (List.mem_singleton.mp hmem).symm
  have hne : b ≠ .plain '?' := by
    rintro rfl
    cases hb
  refine ⟨partsFrom none before (c :: x), [b], [b'], hparts, hpieces, hsent, ?_, ?_⟩
  · rw [count_mark_partsFrom hquotes hnames, hopen hne, commentMarks, List.filterMap_cons, hb]
    simp
  · have hstart (before : Option Char) :
        partsFrom none before (c :: x) = plainPart c :: partsFrom none (some c) x :=
      partsFrom_char (hquotes c List.mem_cons_self) fun q => Placeholder.not_begins hc.1 hc.2
    rw [hopen hb', hopen hne, commentNames, List.filterMap_cons, hb, hstart before]
    simp [parts, hstart none]

/-- A comment to the end of its line is in balance. -/
theorem balanced_lineComment (horderly : Orderly versioned before (c :: x ++ rest))
    (hc : c ≠ '%' ∧ c ≠ ':') (hrest : ∀ e ∈ rest.head?, e = '\n')
    (hpieces : pieces versioned (c :: x ++ rest) = .lineComment (c :: x) :: pieces versioned rest)
    (hsent : ∀ u : List Char, (∀ e ∈ u.head?, e = '\n') →
      pieces versioned (sentFrom none before (c :: x) ++ u) =
        .lineComment (sentFrom none before (c :: x)) :: pieces versioned u) :
    Balanced versioned before (c :: x ++ rest) versioned (lastOf? before (c :: x)) rest := by
  have hd : '\n' ∈ sectionSigns := by decide
  have hmeet : MeetsAt '\n' (c :: x) rest := .inr (.inl hrest)
  obtain ⟨-, -, hparts⟩ := partsFrom_comment horderly rfl hpieces hd hmeet
  refine balanced_comment (.lineComment (sentFrom none before (c :: x))) horderly hc hd hmeet rfl
    nofun hpieces ?_
  rw [sentFrom, hparts, List.flatMap_append]
  exact hsent _ (head?_sentFrom_of_lineEnd hrest)

/-- What is sent as it stands, and is no comment, is in balance if the marks agree. -/
theorem balanced_of_same {versioned' : Bool} {before' : Option Char} (ps : List Part)
    (bs : List Piece) (hparts : partsFrom none before cs = ps ++ partsFrom none before' rest)
    (hpieces : pieces versioned cs = bs ++ pieces versioned' rest)
    (hsent : pieces versioned (sentFrom none before cs) =
      bs ++ pieces versioned' (sentFrom none before' rest))
    (hmarks : ps.count .mark = openMarks bs) (hnames : ∀ p ∈ ps, p.name? = none)
    (hcomments : ∀ b ∈ bs, b.comment? = none) :
    Balanced versioned before cs versioned' before' rest := by
  have hno : bs.filterMap Piece.comment? = [] := List.filterMap_eq_nil_iff.mpr hcomments
  refine ⟨ps, bs, bs, hparts, hpieces, hsent, ?_, ?_⟩
  · rw [hmarks, commentMarks, hno]
    rfl
  · rw [commentNames, hno, nameCount, List.filterMap_eq_nil_iff.mpr hnames]
    simp

theorem balanced_placeholder (fits : q.Fits before after) (hname : IsPlainName q.name) :
    Balanced versioned before (q.source ++ after) versioned (lastOf? before q.source) after := by
  have hmark : Cuts versioned '?' (sentFrom none (lastOf? before q.source) after) _ :=
    .plain (by decide) (by decide) (by simp) (by simp) (by simp)
  have hcount : openMarks (q.source.map .plain) = 0 := by
    rw [openMarks_map_plain]
    exact List.count_eq_zero.mpr fun hmem => q.notMem_source hname _ hmem (by decide)
  refine ⟨[q.part], q.source.map .plain, [.plain '?'], partsFrom_placeholder fits,
    pieces_plain_run (q.notMem_source hname) (q.isChain_source hname) (q.getLast?_source fits),
    ?_, ?_, ?_⟩
  · rw [sentFrom_placeholder fits, pieces_of_cuts hmark]
    rfl
  · have hpart : q.part ≠ .mark := by cases q <;> exact nofun
    rw [hcount, commentMarks, comment?_map_plain, List.count_singleton,
      if_neg (by simpa using hpart)]
    rfl
  · rw [hcount, commentNames, comment?_map_plain, nameCount, List.filterMap_cons, q.name?_part]
    rfl

/-- A quoted section is in balance: it is sent as it stands. -/
theorem balanced_quoted (hquote : isQuote c = true) :
    Balanced versioned before (c :: rest) versioned (some c) (readQuoted c rest).rest := by
  obtain ⟨ps, htexts, hparts, hsource⟩ := exists_partsFrom_quoted hquote before rest
  refine balanced_of_same ps [.quoted c (readQuoted c rest).body (readQuoted c rest).closed]
    hparts (pieces_of_cuts (.quoted hquote)) ?_ ?_ ?_ (by simp [Piece.comment?])
  · rw [sentFrom, hparts, List.flatMap_append, hsource]
    change pieces versioned (_ ++ sentFrom none (some c) (readQuoted c rest).rest) = _
    by_cases hclosed : (readQuoted c rest).closed = true
    · have hbody := isBody_readQuoted (ne_backslash_of_isQuote hquote) hclosed
      have hhead : (sentFrom none (some c) (readQuoted c rest).rest).head? ≠ some c := by
        intro h
        refine head?_rest_readQuoted hclosed (head?_sentFrom ?_ h)
        rintro rfl
        cases hquote
      have hcuts : Cuts versioned c
          ((readQuoted c rest).body ++ c :: sentFrom none (some c) (readQuoted c rest).rest) _ :=
        .quoted hquote
      rw [hbody _ hhead] at hcuts
      rw [hclosed]
      simpa [quotedSource] using pieces_of_cuts hcuts
    · rw [Bool.not_eq_true] at hclosed
      obtain ⟨hbody, hrest⟩ := readQuoted_of_not_closed hclosed
      have hcuts : Cuts versioned c rest _ := .quoted hquote
      rw [hbody, hclosed, hrest] at hcuts ⊢
      simpa [quotedSource] using pieces_of_cuts hcuts
  · have hmark : Part.mark ∉ ps := fun hmem => by
      obtain ⟨chars, hchars⟩ := htexts _ hmem
      cases hchars
    rw [List.count_eq_zero.mpr hmark]
    simp [openMarks]
  · intro p hp
    obtain ⟨chars, rfl⟩ := htexts p hp
    rfl

/-- A run of signs that is one piece is in balance. -/
theorem balanced_run {versioned' : Bool} {p : Piece}
    (hx : ∀ c ∈ x, isQuote c = false ∧ c ≠ '%' ∧ c ≠ ':' ∧ c ≠ '?')
    (hpieces : pieces versioned (x ++ rest) = p :: pieces versioned' rest)
    (hsent : pieces versioned (x ++ sentFrom none (lastOf? before x) rest) =
      p :: pieces versioned' (sentFrom none (lastOf? before x) rest))
    (hp : p ≠ .plain '?') (hcomment : p.comment? = none) :
    Balanced versioned before (x ++ rest) versioned' (lastOf? before x) rest := by
  have hparts : partsFrom none before (x ++ rest) =
      x.map (fun c => .text [c]) ++ partsFrom none (lastOf? before x) rest := partsFrom_run hx
  refine balanced_of_same _ [p] hparts hpieces ?_ ?_ (by simp [Part.name?])
    (by simpa using hcomment)
  · rw [sentFrom, hparts, List.flatMap_append, List.flatMap_map]
    simpa [Part.sent, sentFrom] using hsent
  · rw [openMarks, List.count_singleton, if_neg (by simpa using hp)]
    simp [List.count_eq_zero]

theorem balanced_minus (hdash : opensDashComment after = false) :
    Balanced versioned before ('-' :: '-' :: after) versioned (some '-') ('-' :: after) := by
  refine balanced_run (x := ['-']) (p := .minus) (by simp [isQuote])
    (pieces_of_cuts (.minus rfl rfl hdash)) ?_ nofun rfl
  rw [sentFrom_sign (by decide)]
  exact pieces_of_cuts (.minus rfl rfl (by rwa [opensDashComment_sentFrom]))

theorem balanced_close : Balanced true before ('*' :: '/' :: after) false (some '/') after :=
  balanced_run (x := ['*', '/']) (p := .versionClose) (by simp [isQuote])
    (pieces_of_cuts (.close rfl rfl rfl)) (pieces_of_cuts (.close rfl rfl rfl)) nofun rfl

theorem pieces_version (hx : ∀ c ∈ x, c.isDigit = true) (hu : ∀ c ∈ u.head?, c.isDigit = false) :
    pieces versioned ('/' :: '*' :: '!' :: x ++ u) = .versionOpen x :: pieces true u := by
  have hcuts : Cuts versioned '/' ('*' :: '!' :: (x ++ u)) _ := .version rfl rfl
  rw [takeWhile_run hx hu, dropWhile_run hx hu] at hcuts
  exact pieces_of_cuts hcuts

theorem balanced_version (hx : ∀ c ∈ x, c.isDigit = true)
    (hrest : ∀ c ∈ rest.head?, c.isDigit = false) :
    Balanced versioned before ('/' :: '*' :: '!' :: x ++ rest) true
      (lastOf? before ('/' :: '*' :: '!' :: x)) rest := by
  refine balanced_run (p := .versionOpen x) ?_ (pieces_version hx hrest)
    (pieces_version hx fun c hc => ?_) nofun rfl
  · have hdigit : ∀ c : Char, c.isDigit = true →
        isQuote c = false ∧ c ≠ '%' ∧ c ≠ ':' ∧ c ≠ '?' := by
      intro c hc
      refine ⟨?_, ?_, ?_, ?_⟩
      · by_contra hquote
        rw [Bool.not_eq_false, isQuote_iff] at hquote
        rcases hquote with rfl | rfl | rfl <;> cases hc
      all_goals
        rintro rfl
        cases hc
    simpa [isQuote] using fun c hc => hdigit c (hx c hc)
  · by_cases hmark : c = '?'
    · subst hmark
      rfl
    · exact hrest c (head?_sentFrom hmark hc)

/-- A character that is a piece of its own is in balance. -/
theorem balanced_plain (hnone : ∀ q : Placeholder, ¬ q.Begins before (c :: rest))
    (hcuts : Cuts versioned c rest ⟨.plain c, versioned, rest⟩) :
    Balanced versioned before (c :: rest) versioned (some c) rest := by
  cases hcuts with
  | plain hquote hhash hslash hstar hminus =>
      have hhead {d : Char} (hd : d ≠ '?')
          (h : (sentFrom none (some c) rest).head? = some d) : rest.head? = some d :=
        head?_sentFrom hd h
      have hcuts' : Cuts versioned c (sentFrom none (some c) rest) ⟨.plain c, versioned, _⟩ :=
        .plain hquote hhash (fun hc h => hslash hc (hhead (by decide) h))
          (fun hc h => hstar hc (hhead (by decide) h))
          fun hc h => hminus hc (hhead (by decide) h)
      refine balanced_of_same [plainPart c] [.plain c] (partsFrom_char hquote hnone)
        (pieces_of_cuts (.plain hquote hhash hslash hstar hminus)) ?_ ?_ (by simp)
        (by simp [Piece.comment?])
      · rw [sentFrom_char hquote hnone, pieces_of_cuts hcuts']
        rfl
      · by_cases hc : c = '?' <;> simp [plainPart, openMarks, hc]

theorem balanced_hash (h : Orderly versioned before ('#' :: x ++ rest))
    (hx : ∀ c ∈ x, (c != '\n') = true) (hrest : ∀ c ∈ rest.head?, c = '\n') :
    Balanced versioned before ('#' :: x ++ rest) versioned (lastOf? before ('#' :: x)) rest := by
  refine balanced_lineComment h (by decide) hrest (pieces_hash hx hrest) fun u hu => ?_
  rw [sentFrom_sign (by decide)]
  exact pieces_hash (ne_lineEnd_of_mem_sentFrom hx) hu

theorem balanced_dashes (h : Orderly versioned before ('-' :: '-' :: x ++ rest))
    (hx : ∀ c ∈ x, (c != '\n') = true) (hrest : ∀ c ∈ rest.head?, c = '\n')
    (hopens : opensDashComment (x ++ rest) = true) :
    Balanced versioned before ('-' :: '-' :: x ++ rest) versioned
      (lastOf? before ('-' :: '-' :: x)) rest := by
  refine balanced_lineComment h (by decide) hrest (pieces_dashComment hx hrest hopens)
    fun u hu => ?_
  rw [sentFrom_sign (by decide), sentFrom_sign (by decide)]
  refine pieces_dashComment (ne_lineEnd_of_mem_sentFrom hx) hu (opensDashComment_append ?_ hu)
  rw [opensDashComment_sentFrom]
  exact opensDashComment_of_append hopens

/-- The text of a block comment, and what stands behind it. -/
theorem exists_block (before : Option Char) {body : List Char} {closed : Bool}
    (hread : readBlock after = (body, closed, rest)) :
    ∃ x, '/' :: '*' :: after = '/' :: x ++ rest ∧
      (Piece.blockComment body closed).comment? = some ('/' :: x) ∧ (∀ c ∈ body, c ∈ x) ∧
      MeetsAt '/' ('/' :: x) rest ∧
      sentFrom none (some '/') rest = sentFrom none (lastOf? before ('/' :: x)) rest := by
  have hsource := source_readBlock after
  have hunclosed := @readBlock_of_not_closed after
  rw [hread] at hsource hunclosed
  refine ⟨'*' :: body ++ (if closed then ['*', '/'] else []), by rw [← hsource]; simp, rfl, ?_, ?_⟩
  · intro c hc
    simp [hc]
  cases closed with
  | true =>
      have hconcat : '/' :: ('*' :: body ++ ['*', '/']) = '/' :: '*' :: body ++ ['*'] ++ ['/'] := by
        simp
      rw [if_pos rfl, hconcat]
      exact ⟨.inl List.getLast?_concat, by rw [lastOf?_append]; rfl⟩
  | false =>
      obtain rfl : rest = [] := hunclosed rfl
      exact ⟨.inr (.inl (by simp)), by simp⟩

theorem balanced_block (h : Orderly versioned before ('/' :: '*' :: after))
    (hbang : after.head? ≠ some '!') :
    ∃ before', Balanced versioned before ('/' :: '*' :: after) versioned before'
      (readBlock after).2.2 := by
  obtain ⟨body, closed, rest, hread⟩ : ∃ body closed rest, readBlock after = (body, closed, rest) :=
    ⟨_, _, _, rfl⟩
  obtain ⟨x, htext, hcomment, hbody, hmeet, hrest⟩ := exists_block before hread
  have hpieces : pieces versioned ('/' :: '*' :: after) = _ := pieces_of_cuts (.block rfl rfl hbang)
  rw [hread] at hpieces ⊢
  have hsent : sentFrom none before ('/' :: '*' :: after) =
      '/' :: '*' :: sentFrom none (some '*') after := by
    rw [sentFrom_sign (by decide), sentFrom_sign (by decide)]
  have hquotes : ∀ c ∈ (readBlock after).1, isQuote c = false := by
    intro c hc
    rw [hread] at hc
    refine h.comments ('/' :: x) ?_ c (List.mem_cons_of_mem _ (hbody c hc))
    rw [hpieces, List.filterMap_cons, hcomment]
    exact List.mem_cons_self
  have hnames : ∀ n ∈ (partsFrom none (some '*') after).filterMap Part.name?, IsPlainName n := by
    intro n hn
    refine h.names n ?_
    rw [partsFrom_sign (by decide), partsFrom_sign (by decide)]
    simpa using hn
  -- the comment goes on to where it did, so what is sent is a comment with the same rest
  obtain ⟨body', hbody'⟩ := exists_readBlock_sentFrom hquotes hnames
  have hbang' : (sentFrom none (some '*') after).head? ≠ some '!' := fun hhead =>
    hbang (head?_sentFrom (by decide) hhead)
  have hpieces' : pieces versioned ('/' :: '*' :: sentFrom none (some '*') after) = _ :=
    pieces_of_cuts (.block rfl rfl hbang')
  rw [hbody', hread, hrest, ← hsent] at hpieces'
  rw [htext] at h hpieces hpieces' ⊢
  exact ⟨_, balanced_comment (.blockComment body' closed) h (by decide) (by decide) hmeet hcomment
    nofun hpieces hpieces'⟩

/-- **One piece**, as both readers see it. -/
theorem exists_balanced (h : Orderly versioned before (c :: rest)) :
    ∃ versioned' before' rest', rest'.length ≤ rest.length ∧
      Balanced versioned before (c :: rest) versioned' before' rest' := by
  by_cases hbegins : ∃ q : Placeholder, q.Begins before (c :: rest)
  · obtain ⟨q, after, heq, fits⟩ := hbegins
    have hname : IsPlainName q.name := by
      refine h.names q.name ?_
      rw [heq, partsFrom_placeholder fits, List.filterMap_cons, q.name?_part]
      exact List.mem_cons_self
    refine ⟨versioned, lastOf? before q.source, after, ?_, ?_⟩
    · have hlength := congrArg List.length heq
      have hpos := List.length_pos_iff.mpr q.source_ne_nil
      rw [List.length_cons, List.length_append] at hlength
      omega
    · rw [heq]
      exact balanced_placeholder fits hname
  have hnone : ∀ q : Placeholder, ¬ q.Begins before (c :: rest) := not_exists.mp hbegins
  have hlength := length_rest_nextPiece_le versioned c rest
  have hcuts := cuts_nextPiece versioned c rest
  generalize nextPiece versioned c rest = step at hcuts hlength
  cases hcuts with
  | quoted hquote => exact ⟨_, _, _, hlength, balanced_quoted hquote⟩
  | hash hc =>
      subst hc
      obtain ⟨x, rest, rfl, hx, hrest⟩ := exists_run_append (· != '\n') rest
      exact ⟨_, _, _, by simp, balanced_hash h hx (by simpa using hrest)⟩
  | @version after hc hrest =>
      subst hc hrest
      obtain ⟨x, rest, rfl, hx, hrest⟩ := exists_run_append Char.isDigit after
      exact ⟨_, _, _, by simp; omega, balanced_version hx hrest⟩
  | @block after hc hrest hbang =>
      subst hc hrest
      obtain ⟨before', hbalanced⟩ := balanced_block h hbang
      exact ⟨_, _, _, hlength, hbalanced⟩
  | @close after hc hrest hopen =>
      subst hc hrest hopen
      exact ⟨_, _, _, hlength, balanced_close⟩
  | @dashes after hc hrest hdash =>
      subst hc hrest
      obtain ⟨x, rest, rfl, hx, hrest⟩ := exists_run_append (· != '\n') after
      exact ⟨_, _, _, by simp; omega, balanced_dashes h hx (by simpa using hrest) hdash⟩
  | @minus after hc hrest hdash =>
      subst hc hrest
      exact ⟨_, _, _, hlength, balanced_minus hdash⟩
  | plain hquote hhash hslash hstar hminus =>
      exact ⟨versioned, some c, rest, le_rfl,
        balanced_plain hnone (.plain hquote hhash hslash hstar hminus)⟩

/-! ### A whole statement -/

theorem Balanced.orderly {versioned' : Bool} {before' : Option Char}
    (hb : Balanced versioned before cs versioned' before' rest) (h : Orderly versioned before cs) :
    Orderly versioned' before' rest := by
  obtain ⟨ps, bs, -, hparts, hpieces, -⟩ := hb
  constructor
  · intro t ht
    refine h.comments t ?_
    rw [hpieces, List.filterMap_append]
    exact List.mem_append_right _ ht
  · intro n hn
    refine h.names n ?_
    rw [hparts, List.filterMap_append]
    exact List.mem_append_right _ hn

/-- **The balance of a whole text.** The scanner counts the marks that the server finds and those
in comments. In what is sent, there is one mark more for each placeholder that stands in no
comment. -/
theorem counts_agree (h : Orderly versioned before cs) :
    (partsFrom none before cs).count .mark =
      openMarks (pieces versioned cs) + commentMarks (pieces versioned cs) ∧
    openMarks (pieces versioned (sentFrom none before cs)) + commentNames (pieces versioned cs) =
      nameCount (partsFrom none before cs) + openMarks (pieces versioned cs) := by
  induction hlength : cs.length using Nat.strong_induction_on generalizing versioned before cs with
  | _ n ih =>
    cases cs with
    | nil => simp [pieces, openMarks, commentMarks, commentNames, nameCount]
    | cons c rest =>
        obtain ⟨versioned', before', rest', hle, hbalanced⟩ := exists_balanced h
        have hlt : rest'.length < n := by
          rw [← hlength, List.length_cons]
          omega
        obtain ⟨hmarks, hsent⟩ := ih _ hlt (hbalanced.orderly h) rfl
        obtain ⟨ps, bs, bs', hparts, hpieces, hpieces', hmarks', hsent'⟩ := hbalanced
        rw [hparts, hpieces, hpieces', List.count_append, openMarks_append, openMarks_append,
          commentMarks_append, commentNames_append, nameCount_append]
        omega

end SqlGateway.Query
