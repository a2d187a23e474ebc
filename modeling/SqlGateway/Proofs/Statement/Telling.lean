import SqlGateway.Proofs.Statement.Joining
import SqlGateway.Proofs.Statement.Written

/-!
# Tokens That Tell Words

Words stand in a text with blanks between them. The tokens that are read from them *tell* the words:
in the normal form of a statement they are written with one blank between them, in upper case, and
neither what is written in front of them nor what is written behind them makes them longer. The
first word may be a part of a token that starts in front of it, and the last one a part of a token
that goes on behind it.

## Main results

* `Tells.shows`: the normal form of a statement shows the words that its tokens tell.
* `Scans.exists_tells`: words with blanks between them are told by their tokens.
* `Scans.exists_told`: so they are outside quotes, wherever a token starts.
-/

namespace SqlGateway

open Sql Text Statement

/-! ### Tokens written one behind the other -/

/-- What is written in front of a token. It ends with the end of a word if the token in front is
written so; and where a token was written before, there is something. -/
theorem exists_renderFrom (front : List Token) (afterBlank started : Bool) :
    ∃ before, (∀ {t : Token}, t ≠ .blank → ∀ more,
        renderFrom afterBlank started (front ++ t :: more) =
          before ++ renderFrom false true (t :: more)) ∧
      ((∀ t ∈ front.getLast?, EndsApart t) →
        (∀ c ∈ before.getLast?, endsPlainWord c = true) ∧
          (started = true → front ≠ [] → before ≠ [])) := by
  induction front generalizing afterBlank started with
  | nil =>
      refine ⟨if afterBlank && started then [' '] else [], fun ht more => ?_,
        fun _ => ⟨?_, by simp⟩⟩
      · rw [List.nil_append, renderFrom_cons ht, renderFrom_cons ht]
        simp
      · split
        · exact fun c hc => Option.some.inj hc ▸ by decide
        · simp
  | cons u front ih =>
      have hlast : ∀ {P : Token → Prop}, (∀ t ∈ (u :: front).getLast?, P t) →
          ∀ t ∈ front.getLast?, P t := fun h t ht => h t (by
        rw [List.getLast?_cons, Option.mem_def.mp ht]
        rfl)
      by_cases hu : u = .blank
      · subst hu
        obtain ⟨before, hbefore, hends⟩ := ih true started
        refine ⟨before, hbefore, fun h => ⟨(hends (hlast h)).1, fun hstarted _ hnil => ?_⟩⟩
        cases front with
        | nil =>
            have hspace := hbefore (t := .semicolon) (by simp) []
            rw [hnil, hstarted] at hspace
            cases hspace
        | cons => exact (hends (hlast h)).2 hstarted (List.cons_ne_nil _ _) hnil
      · obtain ⟨before, hbefore, hends⟩ := ih false true
        refine ⟨(if afterBlank && started then [' '] else []) ++ formatToken u ++ before,
          fun ht more => ?_, fun h => ?_⟩
        · rw [List.cons_append, renderFrom_cons hu, hbefore ht, List.append_assoc _ before]
        · obtain ⟨hword, hne⟩ := hends (hlast h)
          by_cases hnil : before = []
          · -- Nothing stands between the two tokens.
            have hfront : front = [] := not_not.mp fun hfront => hne rfl hfront hnil
            obtain ⟨c, hc, hcword⟩ := (h u (by rw [hfront]; rfl)).resolve_left hu
            have hlast' : ((if afterBlank && started then [' '] else []) ++ formatToken u ++
                before).getLast? = some c := by
              rw [hnil, List.append_nil, List.getLast?_append, hc]
              rfl
            refine ⟨fun d hd => ?_, fun _ _ hnil' => ?_⟩
            · rwa [← Option.some.inj (hlast'.symm.trans hd)]
            · rw [hnil'] at hlast'
              cases hlast'
          · rw [List.getLast?_append_of_ne_nil _ hnil]
            exact ⟨hword, fun _ _ => List.append_ne_nil_of_right_ne_nil _ hnil⟩

/-- What is written behind a token that is no blank. -/
theorem renderFrom_append {tokens : List Token} (hlast : ∃ t ∈ tokens.getLast?, t ≠ .blank)
    (more : List Token) (afterBlank started : Bool) :
    renderFrom afterBlank started (tokens ++ more) =
      renderFrom afterBlank started tokens ++ renderFrom false true more := by
  induction tokens generalizing afterBlank started with
  | nil => simp at hlast
  | cons t tokens ih =>
      cases tokens with
      | nil =>
          have ht : t ≠ .blank := by simpa using hlast
          rw [List.singleton_append, renderFrom_cons ht, renderFrom_cons ht, renderFrom,
            List.append_nil]
      | cons u tokens =>
          have ih := ih (by simpa using hlast)
          by_cases ht : t = .blank
          · subst ht
            exact ih true started
          · rw [List.cons_append, renderFrom_cons ht, renderFrom_cons ht, ih]
            simp

/-- One blank is written for several. -/
theorem renderFrom_blanks {blanks tokens : List Token} (hne : blanks ≠ [])
    (hblanks : ∀ t ∈ blanks, t = .blank) (hhead : ∃ t ∈ tokens.head?, t ≠ .blank) :
    renderFrom false true (blanks ++ tokens) = ' ' :: renderFrom false true tokens := by
  have hrest : ∀ {blanks : List Token}, (∀ t ∈ blanks, t = .blank) →
      renderFrom true true (blanks ++ tokens) = ' ' :: renderFrom false true tokens := by
    intro blanks hblanks
    induction blanks with
    | nil =>
        obtain ⟨t, ht, hne⟩ := hhead
        obtain ⟨more, rfl⟩ := List.head?_eq_some_iff.mp ht
        rw [List.nil_append, renderFrom_cons hne, renderFrom_cons hne]
        simp
    | cons t blanks ih =>
        obtain ⟨rfl, hmore⟩ := List.forall_mem_cons.mp hblanks
        exact ih hmore
  obtain ⟨t, blanks, rfl⟩ := List.exists_cons_of_ne_nil hne
  obtain ⟨rfl, hmore⟩ := List.forall_mem_cons.mp hblanks
  exact hrest hmore

/-- What is written of tokens behind a place starts with the end of a word if the first of them
does. -/
theorem endsPlainWord_head?_renderFrom {tokens : List Token}
    (h : ∀ t ∈ tokens.head?, StartsApart t) :
    ∀ c ∈ (renderFrom false true tokens).head?, endsPlainWord c = true := by
  cases tokens with
  | nil => simp [renderFrom]
  | cons t tokens =>
      by_cases ht : t = .blank
      · subst ht
        intro c hc
        have hstops := stops_renderFrom (u := []) (by simp [Stops]) tokens
        rw [List.append_nil] at hstops
        rcases hstops c hc with rfl | rfl <;> decide
      · obtain ⟨c, hc, hends⟩ := (h t rfl).resolve_left ht
        rw [renderFrom_cons ht, Bool.false_and, if_neg (by simp), List.nil_append,
          List.head?_append, hc]
        exact fun d hd => Option.some.inj hd ▸ hends

/-! ### Tokens that tell words -/

/-- `Tells a ws y tokens`: the tokens, without semicolons and with no blanks at the ends, are written
as the words `ws` with blanks between them, in upper case, behind `a` and in front of `y`, which do
not make the words longer. -/
structure Tells (a : List Char) (ws : List (List Char)) (y : List Char) (tokens : List Token) :
    Prop where
  not_semicolon : ∀ t ∈ tokens, t ≠ .semicolon
  first : ∃ t ∈ tokens.head?, t ≠ .blank
  last : ∃ t ∈ tokens.getLast?, t ≠ .blank
  before : ∀ c ∈ a.getLast?, endsPlainWord c = true
  after : ∀ c ∈ y.head?, endsPlainWord c = true
  written : ∃ phrase, upper (renderFrom false true tokens) = a ++ (phrase ++ y) ∧
    Spread IsBlanks (ws.map upper) phrase

namespace Tells

variable {a y w : List Char} {ws : List (List Char)} {tokens : List Token}

/-- A word in front of others, with blanks between them. -/
theorem cons {mid blanks : List Token} (h : Tells [] ws y tokens)
    (ha : ∀ c ∈ a.getLast?, endsPlainWord c = true) (hne : mid ≠ []) (hmid : ∀ t ∈ mid, t.isLayout = false) (hw : upper (mid.flatMap formatToken) = a ++ upper w)
    (hne' : blanks ≠ []) (hblanks : ∀ t ∈ blanks, t = .blank) :
    Tells a (w :: ws) y (mid ++ (blanks ++ tokens)) := by
  have hplain : ∀ t ∈ mid, t ≠ .blank ∧ t ≠ .semicolon := by
    intro t ht
    have hlayout := hmid t ht
    refine ⟨?_, ?_⟩ <;>
      · rintro rfl
        cases hlayout
  obtain ⟨t, hfirst, ht⟩ := h.first
  obtain ⟨u, hlast, hu⟩ := h.last
  obtain ⟨phrase, hwritten, hspread⟩ := h.written
  have hnil : tokens ≠ [] := by
    rintro rfl
    cases hfirst
  refine ⟨?_, ?_, ?_, ha, h.after, upper w ++ ([' '] ++ phrase), ?_, ?_⟩
  · rw [List.forall_mem_append, List.forall_mem_append]
    refine ⟨fun t ht => (hplain t ht).2, fun t ht => ?_, h.not_semicolon⟩
    rw [hblanks t ht]
    simp
  · obtain ⟨t, mid, rfl⟩ := List.exists_cons_of_ne_nil hne
    exact ⟨t, rfl, (hplain t List.mem_cons_self).1⟩
  · refine ⟨u, ?_, hu⟩
    rw [← List.append_assoc, List.getLast?_append_of_ne_nil _ hnil]
    exact hlast
  · rw [renderFrom_append_of_forall fun t ht => (hplain t ht).1,
      renderFrom_blanks hne' hblanks ⟨t, hfirst, ht⟩, upper_append, hw]
    have hspace : upper (' ' :: renderFrom false true tokens) =
        ' ' :: upper (renderFrom false true tokens) := by
      rw [← List.singleton_append, upper_append]
      rfl
    rw [hspace, hwritten]
    simp
  · exact .cons ⟨List.cons_ne_nil _ _, List.forall_mem_singleton.mpr rfl⟩ hspread

/-- **The normal form of a statement shows the words that its tokens tell.** -/
theorem shows {front behind : List Token} (h : Tells a ws y tokens)
    (hfront : a = [] → ∀ t ∈ front.getLast?, EndsApart t)
    (hbehind : y = [] → ∀ t ∈ behind.head?, StartsApart t) :
    Shows (ws.map upper) (upper (render (front ++ (tokens ++ behind)))) := by
  obtain ⟨t, hfirst, ht⟩ := h.first
  obtain ⟨phrase, hwritten, hspread⟩ := h.written
  obtain ⟨before, hbefore, hends⟩ := exists_renderFrom front false false
  obtain ⟨more, rfl⟩ := List.head?_eq_some_iff.mp hfirst
  rw [render, List.cons_append, hbefore ht, ← List.cons_append, renderFrom_append h.last,
    upper_append, upper_append, hwritten]
  refine ⟨upper before ++ a, phrase, y ++ upper (renderFrom false true behind), by simp, hspread,
    fun c hc => ?_, fun c hc => ?_⟩
  · by_cases hnil : a = []
    · rw [hnil, List.append_nil] at hc
      exact endsPlainWord_getLast?_upper (hends (hfront hnil)).1 c hc
    · rw [List.getLast?_append_of_ne_nil _ hnil] at hc
      exact h.before c hc
  · cases y with
    | nil => exact endsPlainWord_head?_upper (endsPlainWord_head?_renderFrom (hbehind rfl)) c hc
    | cons => exact h.after c hc

end Tells

/-! ### Words with blanks between them -/

/-- Blanks are read as blanks. -/
theorem Sql.Scans.exists_blanks {bs u : List Char} {tokens : List Token}
    (h : Scans (bs ++ u) tokens []) (hbs : ∀ c ∈ bs, isBlank c = true ∧ c.toNat < 0x80) :
    ∃ blanks rest, tokens = blanks ++ rest ∧ blanks.length = bs.length ∧
      (∀ t ∈ blanks, t = .blank) ∧ Scans u rest [] := by
  induction bs generalizing tokens with
  | nil => exact ⟨[], tokens, rfl, rfl, by simp, h⟩
  | cons b bs ih =>
      obtain ⟨⟨hblank, hascii⟩, hbs⟩ := List.forall_mem_cons.mp hbs
      cases h with
      | cons hread hscans =>
          have hquote : isQuote b = false ∧ letterForm? b = none :=
            of_ascii (p := fun b => isBlank b = true → isQuote b = false ∧ letterForm? b = none)
              (by decide) hascii hblank
          obtain ⟨rfl, rfl⟩ := hread.unique ((ReadsOutside.blank hblank hascii).reads hquote.1
            (by simp [hquote.2]))
          obtain ⟨blanks, rest, rfl, hlength, hblanks, hrest⟩ := ih hscans hbs
          exact ⟨.blank :: blanks, rest, rfl, by simp [hlength],
            List.forall_mem_cons.mpr ⟨rfl, hblanks⟩, hrest⟩

/-- The first token of a text that starts with the end of a word is written so. -/
theorem Sql.Scans.startsApart {u : List Char} {tokens : List Token} (h : Scans u tokens [])
    (hu : ∀ c ∈ u.head?, endsPlainWord c = true ∧ c ≠ '@') : ∀ t ∈ tokens.head?, StartsApart t := by
  cases h with
  | done => simp
  | cons hread _ =>
      obtain ⟨hends, hat⟩ := hu _ rfl
      exact fun t ht => Option.some.inj ht ▸ hread.startsApart hat hends

/-- A letter that opens a string is written as the capital of it. -/
theorem Sql.Reads.exists_opening {c : Char} {after mid : List Char} {t : Token} {form : StringForm}
    (h : Reads c ('\'' :: after) t mid) (hform : letterForm? c = some form) :
    ∃ body, t = .string form body ∧ Token.opening form = upper [c] ++ ['\''] := by
  have hopening : Token.opening form = upper [c] ++ ['\''] := by
    rcases of_letterForm? hform with ⟨rfl, rfl | rfl⟩ | ⟨rfl, rfl | rfl⟩ | ⟨rfl, rfl | rfl⟩ <;> rfl
  cases h with
  | quoted hquote =>
      rw [isQuote_of_letterForm? hform] at hquote
      cases hquote
  | lettered hform' hne hrest hclosed =>
      obtain rfl := Option.some.inj (hform.symm.trans hform')
      exact ⟨_, rfl, hopening⟩
  | escaped hform' hrest hread =>
      obtain rfl := Option.some.inj (hform.symm.trans hform')
      exact ⟨_, rfl, hopening⟩
  | plain hquote hform' => exact absurd rfl (hform' (by rw [hform]; rfl))

/-- A letter that opens a string is written in front of the quote. -/
theorem Sql.Reads.exists_written_letter {d : Char} {form : StringForm} {after mid : List Char}
    {t : Token} (h : Reads d ('\'' :: after) t mid) (hform : letterForm? d = some form) :
    t.isLayout = false ∧ ∃ y, upper (formatToken t) = upper [d] ++ '\'' :: y := by
  obtain ⟨body, rfl, hopening⟩ := h.exists_opening hform
  refine ⟨rfl, upper (body ++ Token.closing form), ?_⟩
  rw [formatToken, Token.text, hopening, List.append_assoc, upper_append, upper_append,
    upper_upper, List.append_assoc]
  · rfl
  · simp

/-- Where a word opens no string, its token is a word, which may go on behind it. -/
theorem Sql.Reads.exists_taken {d : Char} {w after mid : List Char} {t : Token}
    (h : Reads d (w ++ after) t mid) (hw : IsPlainWord (d :: w))
    (hopen : ¬ ((letterForm? d).isSome ∧ w = [] ∧ after.head? = some '\'')) :
    ∃ taken, after = taken ++ mid ∧ t = .word (d :: (w ++ taken)) := by
  obtain ⟨hascii, hword⟩ := hw.of_mem List.mem_cons_self
  obtain ⟨hstart, hat⟩ := (isWordPart_of_isWordChar hascii hword).2.2 (hw.start d rfl)
  have hsource := List.takeWhile_append_dropWhile (p := isWordPart) (l := after)
  have htaken : ∀ c ∈ after.takeWhile isWordPart, isWordPart c = true := fun c hc =>
    List.mem_takeWhile_imp hc
  have hrest : ∀ c ∈ (after.dropWhile isWordPart).head?, isWordPart c = false := head?_dropWhile
  generalize after.takeWhile isWordPart = taken at hsource htaken
  generalize after.dropWhile isWordPart = u at hsource hrest
  subst hsource
  have hall : ∀ c ∈ w ++ taken, isWordPart c = true := by
    refine List.forall_mem_append.mpr ⟨fun c hc => ?_, htaken⟩
    obtain ⟨hc, hpart⟩ := hw.of_mem (List.mem_cons_of_mem d hc)
    exact (isWordPart_of_isWordChar hc hpart).1
  have hword' : Reads d (w ++ taken ++ u) (.word (d :: (w ++ taken))) u := by
    refine reads_word hstart hat hall hrest fun hsome hnil hquote => hopen ⟨hsome, ?_⟩
    obtain ⟨rfl, rfl⟩ := List.append_eq_nil_iff.mp hnil
    exact ⟨rfl, hquote⟩
  rw [List.append_assoc] at hword'
  obtain ⟨rfl, rfl⟩ := h.unique hword'
  exact ⟨taken, rfl, rfl⟩

/-- **The last word** is written as it stands there, with what its token takes behind it; and where
nothing is taken, what follows starts apart. -/
theorem Sql.Scans.exists_last_word {w after : List Char} {tokens : List Token}
    (h : Scans (w ++ after) tokens []) (hcs : IsTame (w ++ after)) (hw : IsPlainWord w)
    (hafter : ∀ c ∈ after.head?, endsPlainWord c = true) :
    ∃ t behind y, tokens = t :: behind ∧ t.isLayout = false ∧
      upper (formatToken t) = upper w ++ y ∧ (∀ c ∈ y.head?, endsPlainWord c = true) ∧
      (y = [] → ∀ t ∈ behind.head?, StartsApart t) := by
  obtain ⟨d, w, rfl⟩ := List.exists_cons_of_ne_nil hw.ne_nil
  cases h with
  | @cons _ _ mid _ t tokens hread hscans =>
      by_cases hopen : (letterForm? d).isSome ∧ w = [] ∧ after.head? = some '\''
      · obtain ⟨hsome, rfl, hquote⟩ := hopen
        obtain ⟨form, hform⟩ := Option.isSome_iff_exists.mp hsome
        obtain ⟨after, rfl⟩ := List.head?_eq_some_iff.mp hquote
        obtain ⟨hlayout, y, hwritten⟩ := hread.exists_written_letter hform
        exact ⟨t, tokens, '\'' :: y, rfl, hlayout, hwritten,
          fun c hc => Option.some.inj hc ▸ by decide,
          fun hnil => absurd hnil (List.cons_ne_nil _ _)⟩
      · obtain ⟨taken, rfl, rfl⟩ := hread.exists_taken hw hopen
        have htame : ∀ c ∈ taken, c.toNat < 0x80 := fun c hc => (hcs c (by simp [hc])).1
        refine ⟨_, tokens, upper taken, rfl, rfl, ?_, endsPlainWord_head?_upper fun c hc => ?_,
          fun hnil => hscans.startsApart fun c hc => ?_⟩
        · rw [upper_formatToken_word, ← List.cons_append, upper_append]
        · exact hafter c (by rw [List.head?_append, Option.mem_def.mp hc]; rfl)
        · rw [upper_of_ascii htame, List.map_eq_nil_iff] at hnil
          subst hnil
          exact ⟨hafter c hc, (hcs c (by simp [List.mem_of_mem_head? hc])).2⟩

/-- **Words with blanks between them** are told by the tokens that are read from them. -/
theorem Sql.Scans.exists_tells {ws : List (List Char)} {phrase after : List Char}
    {tokens : List Token} (h : Scans (phrase ++ after) tokens []) (hcs : IsTame (phrase ++ after))
    (hws : ∀ w ∈ ws, IsPlainWord w) (hspread : Spread IsBlanks ws phrase)
    (hafter : ∀ c ∈ after.head?, endsPlainWord c = true) :
    ∃ told behind y, tokens = told ++ behind ∧ Tells [] ws y told ∧
      (y = [] → ∀ t ∈ behind.head?, StartsApart t) := by
  induction hspread generalizing tokens with
  | last w =>
      obtain ⟨t, behind, y, rfl, hlayout, hwritten, hy, hbehind⟩ :=
        h.exists_last_word hcs (hws w List.mem_cons_self) hafter
      have ht : t ≠ .blank ∧ t ≠ .semicolon := by
        refine ⟨?_, ?_⟩ <;>
          · rintro rfl
            cases hlayout
      refine ⟨[t], behind, y, rfl, ⟨by simpa using ht.2, ⟨t, rfl, ht.1⟩, ⟨t, rfl, ht.1⟩, by simp,
        hy, upper w, ?_, .last _⟩, hbehind⟩
      have hone : renderFrom false true [t] = formatToken t := by
        rw [renderFrom_cons ht.1, renderFrom, List.append_nil]
        rfl
      rw [hone, hwritten]
      rfl
  | @cons w gap cs ws hgap hspread ih =>
      have hw := hws _ List.mem_cons_self
      have hmore : ∀ w' ∈ ws, IsPlainWord w' := fun w' hw' => hws w' (List.mem_cons_of_mem _ hw')
      obtain ⟨d, w, rfl⟩ := List.exists_cons_of_ne_nil hw.ne_nil
      obtain ⟨b, gap, rfl⟩ := List.exists_cons_of_ne_nil hgap.1
      have hb := hcs b (by simp)
      simp only [List.append_assoc] at h hcs
      cases h with
      | @cons _ _ mid _ t tokens hread hscans =>
          have hword : Reads d (w ++ (b :: gap ++ (cs ++ after))) _ _ :=
            reads_plainWord (fun c hc => hw.of_mem hc) (hw.start d rfl) rfl hb.1
              (hgap.2 b List.mem_cons_self)
          obtain ⟨rfl, rfl⟩ := hread.unique hword
          have hgap' : ∀ c ∈ b :: gap, c.toNat < 0x80 := fun c hc =>
            (hcs c (List.mem_append_right _ (List.mem_append_left _ hc))).1
          obtain ⟨blanks, rest, rfl, hlength, hblanks, hrest⟩ :=
            hscans.exists_blanks fun c hc => ⟨hgap.2 c hc, hgap' c hc⟩
          obtain ⟨told, behind, y, rfl, htells, hbehind⟩ :=
            ih hrest (hcs.suffix ((List.suffix_append (b :: gap) _).trans
              (List.suffix_append (d :: w) _))) hmore
          have hne : blanks ≠ [] := List.ne_nil_of_length_pos (by simp [hlength])
          refine ⟨[.word (d :: w)] ++ (blanks ++ told), behind, y, by simp, ?_, hbehind⟩
          exact htells.cons (by simp) (List.cons_ne_nil _ _) (List.forall_mem_singleton.mpr rfl)
            (by simpa using upper_formatToken_word _) hne hblanks

/-- **Words with blanks between them, outside quotes**, are told by tokens of the text, unless a
number in hexadecimal may hide in the first one. -/
theorem Sql.Scans.exists_told {w w' before phrase after : List Char} {ws : List (List Char)}
    {tokens : List Token} (h : Scans (before ++ (phrase ++ after)) tokens [])
    (hcs : IsTame (before ++ (phrase ++ after))) (hout : Outside before (phrase ++ after))
    (hws : ∀ v ∈ w :: w' :: ws, IsPlainWord v) (hspread : Spread IsBlanks (w :: w' :: ws) phrase)
    (hbefore : ∀ c ∈ before.getLast?, endsPlainWord c = true)
    (hafter : ∀ c ∈ after.head?, endsPlainWord c = true)
    (hfree : before.getLast? ≠ some '.' ∨ ¬ HidesHex w) :
    ∃ front told behind a y, tokens = front ++ (told ++ behind) ∧ Tells a (w :: w' :: ws) y told ∧
      (a = [] → ∀ t ∈ front.getLast?, EndsApart t) ∧
      (y = [] → ∀ t ∈ behind.head?, StartsApart t) := by
  obtain ⟨hw, hws⟩ := List.forall_mem_cons.mp hws
  cases hspread with
  | @cons _ gap cs _ hgap hspread =>
      obtain ⟨b, gap, rfl⟩ := List.exists_cons_of_ne_nil hgap.1
      simp only [List.append_assoc] at h hcs hout
      have hrest : IsTame (b :: gap ++ (cs ++ after)) :=
        hcs.suffix ((List.suffix_append w _).trans (List.suffix_append before _))
      obtain ⟨front, mid, behind, a, rfl, hbehind, hne, hmid, hwritten, ha, hfront⟩ :=
        h.exists_first_word hcs hout hbefore hw hfree rfl (hgap.2 b List.mem_cons_self)
      obtain ⟨blanks, rest, rfl, hlength, hblanks, hrest'⟩ := hbehind.exists_blanks fun c hc =>
        ⟨hgap.2 c hc, (hrest c (List.mem_append_left _ hc)).1⟩
      obtain ⟨told, behind, y, rfl, htells, hbehind⟩ :=
        hrest'.exists_tells (hrest.suffix (List.suffix_append _ _)) hws hspread hafter
      have hne' : blanks ≠ [] := List.ne_nil_of_length_pos (by simp [hlength])
      exact ⟨front, mid ++ (blanks ++ told), behind, a, y, by simp,
        htells.cons ha hne hmid hwritten hne' hblanks, hfront, hbehind⟩

end SqlGateway
