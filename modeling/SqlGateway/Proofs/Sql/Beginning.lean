import SqlGateway.Proofs.Sql.Escape

/-!
# Beginnings of Sections

`Begins quote w` says that `w` is the beginning of a body: behind it, the section is still
open, and its reader goes on as if the section had just been opened. `Decodes w d` says the
same of the reader of escaped strings, which has decoded `w` to `d` on its way.

A section that takes a quote in its text does so in one of two ways: the quote is no more
than a character of the body, or it is of the kind of the section and is met where the body
could end. The theorems of this file say so for both readers; what stands behind the quote
can then be exchanged, and the section goes on from the same place.

## Main results

* `begins_of_crossing`, `decodes_of_crossing`: the two ways to take a quote.
* `readQuoted_change`, `readEscaped?_change`: a section that ends in front of a quote does not
  depend on what stands behind that quote.
-/

namespace SqlGateway.Sql

/-! ### Sections -/

/-- Behind `w` the section is still open, and is read as from its beginning. -/
def Begins (quote : Char) (w : List Char) : Prop :=
  ∀ v : List Char, readQuoted quote (w ++ v) = (readQuoted quote v).extend w

theorem Begins.nil (quote : Char) : Begins quote [] := fun _ => rfl

/-- A character that neither closes nor escapes can stand in front. -/
theorem Begins.cons {quote c : Char} (hq : c ≠ quote) (hb : c = '\\' → quote = '`')
    {w : List Char} (h : Begins quote w) : Begins quote (c :: w) := by
  intro v
  rw [List.cons_append, readQuoted_cons hq hb, h v]
  rfl

/-- A backslash and the character behind it can stand in front. -/
theorem Begins.escape {quote : Char} (hne : quote ≠ '`') (c : Char) {w : List Char}
    (h : Begins quote w) : Begins quote ('\\' :: c :: w) := by
  intro v
  rw [List.cons_append, List.cons_append, readQuoted, h v]
  simp [hne, QuotedTail.extend]

/-- A doubled quote can stand in front. -/
theorem Begins.double {quote : Char} (hne : quote ≠ '\\') {w : List Char}
    (h : Begins quote w) : Begins quote (quote :: quote :: w) := by
  intro v
  rw [List.cons_append, List.cons_append, readQuoted, h v]
  simp [hne, QuotedTail.extend]

/-- Two ends of one text, the second behind a character more than the first has: the first
is not an end of the second. -/
theorem not_suffix_append {α : Type} (x : List α) (a : α) (v : List α) :
    ¬ x ++ a :: v <:+ v := by
  intro h
  have hlen := h.length_le
  rw [List.length_append, List.length_cons] at hlen
  omega

/-- **How a section takes a quote**: as a character of its body, or, if it is of the kind of
the section, where the body could end. -/
theorem begins_of_crossing {quote q : Char} (hquote : isQuote quote = true)
    (hq : isQuote q = true) {y v : List Char}
    (hclosed : (readQuoted quote (y ++ q :: v)).closed = true)
    (hrest : (readQuoted quote (y ++ q :: v)).rest <:+ v) :
    Begins quote (y ++ [q]) ∨ q = quote ∧ Begins quote y := by
  have hne := ne_backslash_of_isQuote hquote
  have hqne := ne_backslash_of_isQuote hq
  -- The reader takes a character or two at a time.
  induction hn : y.length using Nat.strong_induction_on generalizing y with
  | _ n ih =>
      cases y with
      | nil =>
          by_cases hkind : q = quote
          · exact .inr ⟨hkind, .nil quote⟩
          · exact .inl ((Begins.nil quote).cons hkind fun hb => absurd hb hqne)
      | cons a y =>
          by_cases hesc : a = '\\' ∧ quote ≠ '`'
          · obtain ⟨rfl, hbacktick⟩ := hesc
            cases y with
            | nil => exact .inl ((Begins.nil quote).escape hbacktick q)
            | cons c y =>
                have hstep := (Begins.nil quote).escape hbacktick c (y ++ q :: v)
                simp only [List.cons_append, List.nil_append] at hstep hclosed hrest
                rw [hstep] at hclosed hrest
                refine (ih y.length (by simp at hn; omega) hclosed hrest rfl).imp ?_ ?_
                · exact fun h => h.escape hbacktick c
                · exact fun h => ⟨h.1, h.2.escape hbacktick c⟩
          by_cases ha : a = quote
          · subst ha
            by_cases hhead : (y ++ q :: v).head? = some a
            · cases y with
              | nil =>
                  obtain rfl : q = a := by simpa using hhead
                  exact .inl ((Begins.nil q).double hne)
              | cons c y =>
                  obtain rfl : c = a := by simpa using hhead
                  have hstep := (Begins.nil c).double hne (y ++ q :: v)
                  simp only [List.cons_append, List.nil_append] at hstep hclosed hrest
                  rw [hstep] at hclosed hrest
                  refine (ih y.length (by simp at hn; omega) hclosed hrest rfl).imp ?_ ?_
                  · exact fun h => h.double hne
                  · exact fun h => ⟨h.1, h.2.double hne⟩
            · rw [List.cons_append, readQuoted_quote hne hhead] at hrest
              exact absurd hrest (not_suffix_append y q v)
          · have hb : a = '\\' → quote = '`' := fun hb => by
              by_contra hbacktick
              exact hesc ⟨hb, hbacktick⟩
            rw [List.cons_append, readQuoted_cons ha hb] at hclosed hrest
            refine (ih y.length (by simp at hn; omega) hclosed hrest rfl).imp ?_ ?_
            · exact fun h => h.cons ha hb
            · exact fun h => ⟨h.1, h.2.cons ha hb⟩

/-- In front of its closing quote, a body is a beginning. -/
theorem IsBody.begins {quote : Char} (hquote : isQuote quote = true) {body : List Char}
    (h : IsBody quote body) : Begins quote body := by
  have hread := h [] (by simp)
  have hclosed : (readQuoted quote (body ++ quote :: [])).closed = true := by rw [hread]
  have hrest : (readQuoted quote (body ++ quote :: [])).rest <:+ [] := by
    simp [hread]
  rcases begins_of_crossing hquote hquote hclosed hrest with hbegins | ⟨-, hb⟩
  · have hopen := hbegins []
    rw [List.append_nil, hread] at hopen
    cases congrArg QuotedTail.closed hopen
  · exact hb

/-- A section that ends in front of a quote does not depend on what stands behind it. -/
theorem readQuoted_change {quote q : Char} (hquote : isQuote quote = true) {x y v : List Char}
    (hclosed : (readQuoted quote (y ++ q :: v)).closed = true)
    (hrest : (readQuoted quote (y ++ q :: v)).rest = x ++ q :: v) (v' : List Char) :
    readQuoted quote (y ++ q :: v') =
      ⟨(readQuoted quote (y ++ q :: v)).body, true, x ++ q :: v'⟩ := by
  have hbody := isBody_readQuoted (ne_backslash_of_isQuote hquote) hclosed
  have htext := eq_body_append_of_closed hclosed
  have hhead := head?_rest_readQuoted hclosed
  rw [hrest] at htext hhead
  generalize (readQuoted quote (y ++ q :: v)).body = body at hbody htext
  obtain rfl : y = body ++ quote :: x := by
    refine (List.append_left_inj (q :: v)).mp (htext.trans ?_)
    rw [List.append_assoc, List.cons_append]
  have hhead' : (x ++ q :: v').head? ≠ some quote := by
    rw [List.head?_append] at hhead ⊢
    exact hhead
  rw [List.append_assoc, List.cons_append, hbody _ hhead']

/-! ### Escaped strings -/

/-- Behind `w` an escaped string is still open, `w` is decoded to `d`, and the string is read
as from its beginning, as long as a break comes next. -/
def Decodes (w d : List Char) : Prop :=
  ∀ v : List Char, AtBreak v →
    readEscaped? (w ++ v) = (readEscaped? v).map fun r => (d ++ r.1, r.2)

theorem Decodes.nil : Decodes [] [] := fun v _ => by simp

/-- A character that neither closes nor escapes can stand in front. -/
theorem readEscaped?_cons {c : Char} (hq : c ≠ '\'') (hb : c ≠ '\\') (cs : List Char) :
    readEscaped? (c :: cs) = (readEscaped? cs).map fun r => (c :: r.1, r.2) := by
  rw [readEscaped?.eq_def]
  split <;> simp_all

theorem Decodes.cons {c : Char} (hq : c ≠ '\'') (hb : c ≠ '\\') {w d : List Char}
    (h : Decodes w d) : Decodes (c :: w) (c :: d) := by
  intro v hv
  rw [List.cons_append, readEscaped?_cons hq hb, h v hv, Option.map_map]
  rfl

/-- A doubled quote can stand in front. -/
theorem Decodes.double {w d : List Char} (h : Decodes w d) :
    Decodes ('\'' :: '\'' :: w) ('\'' :: d) := by
  intro v hv
  rw [List.cons_append, List.cons_append, readEscaped?, h v hv, Option.map_map]
  rfl

/-- An escape can stand in front, with the characters it uses. -/
theorem Decodes.escape {c e : Char} {w d : List Char} {used : Nat}
    (hdecode : decodeEscape? c w = some (e, used)) (h : Decodes (w.drop used) d) :
    Decodes ('\\' :: c :: w) (e :: d) := by
  intro v hv
  have happ : decodeEscape? c (w ++ v) = some (e, used) := by
    rw [decodeEscape?_append hv, hdecode]
  rw [List.cons_append, List.cons_append, readEscaped?, happ]
  dsimp only
  rw [List.drop_append_of_le_length (used_le_of_decodeEscape? hdecode), h v hv, Option.map_map]
  rfl

/-- An escaped quote stands for itself. -/
theorem decodeEscape?_of_isQuote {q : Char} (hq : isQuote q = true) (rest : List Char) :
    decodeEscape? q rest = some (q, 0) := by
  rcases isQuote_iff.mp hq with rfl | rfl | rfl <;> rfl

/-- A quote with no quote of the same kind behind it closes an escaped string. -/
theorem readEscaped?_quote {rest : List Char} (hrest : rest.head? ≠ some '\'') :
    readEscaped? ('\'' :: rest) = some ([], rest) := by
  cases rest with
  | nil => rw [readEscaped?]
  | cons c more =>
      rw [readEscaped?]
      simpa using hrest

/-- A backslash takes the characters of its escape, and the string goes on behind them. -/
theorem exists_escape_of_readEscaped? {c : Char} {y u : List Char} {r : List Char × List Char}
    (hu : AtBreak u) (h : readEscaped? ('\\' :: c :: (y ++ u)) = some r) :
    ∃ e used body, decodeEscape? c y = some (e, used) ∧ used ≤ y.length ∧
      readEscaped? (y.drop used ++ u) = some (body, r.2) := by
  rw [readEscaped?, decodeEscape?_append hu] at h
  rcases hdecode : decodeEscape? c y with _ | ⟨e, used⟩
  · rw [hdecode] at h
    cases h
  · have hused := used_le_of_decodeEscape? hdecode
    rw [hdecode] at h
    dsimp only at h
    rw [List.drop_append_of_le_length hused] at h
    obtain ⟨⟨body, last⟩, hread, rfl⟩ := Option.map_eq_some_iff.mp h
    exact ⟨e, used, body, rfl, hused, hread⟩

/-- **How an escaped string takes a quote.** -/
theorem decodes_of_crossing {q : Char} (hq : isQuote q = true) {y v : List Char}
    {r : List Char × List Char} (hread : readEscaped? (y ++ q :: v) = some r)
    (hrest : r.2 <:+ v) :
    (∃ d, Decodes (y ++ [q]) d) ∨ q = '\'' ∧ ∃ d, Decodes y d := by
  have hqne := ne_backslash_of_isQuote hq
  induction hn : y.length using Nat.strong_induction_on generalizing y r with
  | _ n ih =>
      cases y with
      | nil =>
          by_cases hkind : q = '\''
          · exact .inr ⟨hkind, [], .nil⟩
          · exact .inl ⟨[q], Decodes.nil.cons hkind hqne⟩
      | cons a y =>
          by_cases hesc : a = '\\'
          · subst hesc
            cases y with
            | nil =>
                exact .inl ⟨[q], .escape (decodeEscape?_of_isQuote hq []) .nil⟩
            | cons c y =>
                obtain ⟨e, used, body, hdecode, hused, hread'⟩ :=
                  exists_escape_of_readEscaped? (.cons (isBreak_of_isQuote hq) v) hread
                have hlen : (y.drop used).length < n := by
                  simp at hn ⊢
                  omega
                have hdrop : (y ++ [q]).drop used = y.drop used ++ [q] :=
                  List.drop_append_of_le_length hused
                have hdecode' : decodeEscape? c (y ++ [q]) = some (e, used) := by
                  rw [decodeEscape?_append (.cons (isBreak_of_isQuote hq) []), hdecode]
                rcases ih _ hlen hread' hrest rfl with ⟨d, h⟩ | ⟨hkind, d, h⟩
                · exact .inl ⟨e :: d, .escape hdecode' (hdrop ▸ h)⟩
                · exact .inr ⟨hkind, e :: d, .escape hdecode h⟩
          by_cases ha : a = '\''
          · subst ha
            by_cases hhead : (y ++ q :: v).head? = some '\''
            · cases y with
              | nil =>
                  obtain rfl : q = '\'' := by simpa using hhead
                  exact .inl ⟨['\''], Decodes.nil.double⟩
              | cons c y =>
                  obtain rfl : c = '\'' := by simpa using hhead
                  rw [List.cons_append, List.cons_append, readEscaped?] at hread
                  obtain ⟨r', hread', rfl⟩ := Option.map_eq_some_iff.mp hread
                  have hlen : y.length < n := by
                    simp at hn
                    omega
                  rcases ih _ hlen hread' hrest rfl with ⟨d, h⟩ | ⟨hkind, d, h⟩
                  · exact .inl ⟨'\'' :: d, h.double⟩
                  · exact .inr ⟨hkind, '\'' :: d, h.double⟩
            · rw [List.cons_append, readEscaped?_quote hhead] at hread
              cases hread
              exact absurd hrest (not_suffix_append y q v)
          · rw [List.cons_append, readEscaped?_cons ha hesc] at hread
            obtain ⟨r', hread', rfl⟩ := Option.map_eq_some_iff.mp hread
            have hlen : y.length < n := by
              simp at hn
              omega
            rcases ih _ hlen hread' hrest rfl with ⟨d, h⟩ | ⟨hkind, d, h⟩
            · exact .inl ⟨a :: d, h.cons ha hesc⟩
            · exact .inr ⟨hkind, a :: d, h.cons ha hesc⟩

/-- Where an escaped string can be closed, no quote is a character of it. -/
theorem Begins.not_decodes {w d : List Char} (h : Begins '\'' w) :
    ¬ Decodes (w ++ ['\'']) d := by
  -- Otherwise a second quote would close the string; but the two are a doubled quote.
  intro hd
  have hread := hd ['\''] (.cons (by decide) [])
  rw [readEscaped?_quote (by simp), Option.map_some] at hread
  have hclosed := (readQuoted_of_readEscaped? hread).1
  rw [List.append_assoc, h] at hclosed
  cases hclosed

/-- An escaped string, taken apart. -/
theorem exists_decodes {cs : List Char} {r : List Char × List Char}
    (h : readEscaped? cs = some r) :
    r.2.head? ≠ some '\'' ∧ ∃ w d, cs = w ++ '\'' :: r.2 ∧ Decodes w d := by
  obtain ⟨hclosed, hrest⟩ := readQuoted_of_readEscaped? h
  have htext := eq_body_append_of_closed hclosed
  have hhead := head?_rest_readQuoted hclosed
  rw [hrest] at htext hhead
  have hbegins := (isBody_readQuoted (by decide) hclosed).begins (by decide)
  refine ⟨hhead, (readQuoted '\'' cs).body, ?_⟩
  generalize (readQuoted '\'' cs).body = w at htext hbegins
  subst htext
  rcases decodes_of_crossing (by decide) h List.suffix_rfl with ⟨d, hd⟩ | ⟨-, d, hd⟩
  · exact absurd hd hbegins.not_decodes
  · exact ⟨d, rfl, hd⟩

/-- An escaped string that ends in front of a quote does not depend on what stands behind
it. -/
theorem readEscaped?_change {q : Char} {x y v : List Char} {body : List Char}
    (h : readEscaped? (y ++ q :: v) = some (body, x ++ q :: v)) (v' : List Char) :
    readEscaped? (y ++ q :: v') = some (body, x ++ q :: v') := by
  obtain ⟨hhead, w, d, htext, hd⟩ := exists_decodes h
  have hclose := hd ('\'' :: (x ++ q :: v)) (.cons (by decide) _)
  rw [readEscaped?_quote hhead, ← htext, h, Option.map_some] at hclose
  obtain rfl : y = w ++ '\'' :: x := by
    refine (List.append_left_inj (q :: v)).mp (htext.trans ?_)
    rw [List.append_assoc, List.cons_append]
  have hhead' : (x ++ q :: v').head? ≠ some '\'' := by
    rw [List.head?_append] at hhead ⊢
    exact hhead
  rw [List.append_assoc, List.cons_append, hd _ (.cons (by decide) _),
    readEscaped?_quote hhead', Option.map_some]
  have hdecoded : body = d ++ [] := congrArg Prod.fst (Option.some.inj hclose)
  rw [hdecoded]

end SqlGateway.Sql
