import SqlGateway.Proofs.Sql.Beginning
import SqlGateway.Proofs.Sql.Section

/-!
# How the Tokenizer Comes to a Literal

A literal is delimited on the text, before there are tokens. Whether the tokenizer agrees is
a matter of where it stands when it comes to the opening quote of the literal:
`Enters cs quote u` says that, started on `cs`, it gets in front of `u` inside a section in
these quotes. Then it reads the body as part of that section and meets its end where the
literal ends, whatever the body is.

If it does not enter the literal, some token takes the opening quote in passing: a word that
starts with `@`, or a section that was opened before. From then on the body is text like any
other, and there is a body that divides the statement there.

## Main results

* `Reads.change`: a token that ends in front of a quote does not depend on what stands behind
  that quote.
* `Scans.exists_divider`: a literal that is not entered can be given a body from which the
  tokenizer reads two more semicolons.
-/

namespace SqlGateway.Sql

/-! ### Sections as tokens -/

/-- `Opens cs quote after`: the text `cs` opens a section, perhaps with a letter in front of
the quote, and `after` stands behind the quote. -/
inductive Opens : List Char → Char → List Char → Prop
  | quote {q : Char} (hq : isQuote q = true) (after : List Char) : Opens (q :: after) q after
  | letter {c : Char} {form : StringForm} (hform : letterForm? c = some form)
      (after : List Char) : Opens (c :: '\'' :: after) '\'' after

/-- The token of a section goes to the closing quote. -/
theorem Opens.reads {c q : Char} {rest after last : List Char} {t : Token}
    (h : Opens (c :: rest) q after) (hread : Reads c rest t last) :
    (readQuoted q after).closed = true ∧ last = (readQuoted q after).rest := by
  cases hread with
  | quoted hquote hclosed =>
      cases h with
      | quote => exact ⟨hclosed, rfl⟩
      | letter hform =>
          rw [isQuote_of_letterForm? hform] at hquote
          cases hquote
  | lettered hform hne hrest hclosed =>
      subst hrest
      cases h with
      | quote hq =>
          rw [isQuote_of_letterForm? hform] at hq
          cases hq
      | letter => exact ⟨hclosed, rfl⟩
  | escaped hform hrest hread =>
      subst hrest
      obtain ⟨hclosed, hlast⟩ := readQuoted_of_readEscaped? hread
      cases h with
      | quote hq =>
          rw [isQuote_of_letterForm? hform] at hq
          cases hq
      | letter => exact ⟨hclosed, hlast.symm⟩
  | plain hquote hform =>
      cases h with
      | quote hq =>
          rw [hquote] at hq
          cases hq
      | letter hsome => exact absurd rfl (hform (by simp [hsome]))

/-- A letter in front of a string decides its form. -/
theorem Reads.string_of_letter {c : Char} {form : StringForm} {after last : List Char}
    {t : Token} (hform : letterForm? c = some form) (h : Reads c ('\'' :: after) t last) :
    ∃ body, t = .string form body := by
  cases h with
  | quoted hquote =>
      rw [isQuote_of_letterForm? hform] at hquote
      cases hquote
  | lettered hform' =>
      rw [hform] at hform'
      cases hform'
      exact ⟨_, rfl⟩
  | escaped hform' =>
      rw [hform] at hform'
      cases hform'
      exact ⟨_, rfl⟩
  | plain hquote hform' => exact absurd rfl (hform' (by simp [hform]))

/-- A token with the body of a string taken out. -/
def Token.blind : Token → Token
  | .string form _ => .string form []
  | t => t

/-- Strings that are opened in the same way differ in their bodies only. -/
theorem Opens.blind_eq {c q : Char} {rest rest' after after' last last' : List Char}
    {t t' : Token} (hopens : Opens (c :: rest) q after) (hopens' : Opens (c :: rest') q after')
    (hq : q ≠ '`') (hread : Reads c rest t last) (hread' : Reads c rest' t' last') :
    t.blind = t'.blind := by
  cases hopens with
  | quote hquote =>
      have hsection : ∀ {rest last : List Char} {t : Token}, Opens (c :: rest) c rest →
          Reads c rest t last →
          t.blind = .string (if c == '"' then .double else .single) [] := by
        intro rest last t h hread
        obtain ⟨rfl, -⟩ := hread.unique (.quoted hquote (h.reads hread).1)
        simp [sectionToken, hq, Token.blind]
      rw [hsection (.quote hquote _) hread, hsection (.quote hquote _) hread']
  | letter hform =>
      cases hopens' with
      | quote hquote => simp [isQuote_of_letterForm? hform] at hquote
      | letter hform' =>
          obtain ⟨body, rfl⟩ := Reads.string_of_letter hform hread
          obtain ⟨body', rfl⟩ := Reads.string_of_letter hform hread'
          rfl

/-! ### The sign `@` in front of a quote -/

/-- Behind the sign `@`, or two of them, a quote is part of a word. -/
theorem readPlain_at {y : List Char} (hy : y = [] ∨ y = ['@']) {q : Char}
    (hq : isQuote q = true) (v : List Char) :
    readPlain '@' (y ++ q :: v) =
      (.word ('@' :: y ++ q :: v.takeWhile isWordPart), v.dropWhile isWordPart) := by
  rcases hy with rfl | rfl <;> rcases isQuote_iff.mp hq with rfl | rfl | rfl <;> rfl

/-- Any other token that is no section stops at a quote. -/
theorem readPlain_stop {c : Char} {y : List Char} (hat : ¬ (c = '@' ∧ (y = [] ∨ y = ['@'])))
    {q : Char} (hq : isQuote q = true) (v : List Char) :
    readPlain c (y ++ q :: v) = ((readPlain c y).1, (readPlain c y).2 ++ q :: v) := by
  refine readPlain_append (.cons (isBreak_of_isQuote hq) v) fun hc _ => ?_
  rw [← not_or]
  exact fun hy => hat ⟨hc, hy⟩

/-! ### What stands behind a quote -/

theorem head?_append_cons (y : List Char) (q : Char) (v v' : List Char) :
    (y ++ q :: v).head? = (y ++ q :: v').head? := by
  rw [List.head?_append, List.head?_append]
  rfl

/-- An end of a text is behind some place in it or takes that place in. -/
theorem suffix_cases {α : Type} {mid y v : List α} {a : α} (h : mid <:+ y ++ a :: v) :
    mid <:+ v ∨ ∃ x, mid = x ++ a :: v := by
  rcases List.suffix_or_suffix_of_suffix h (List.suffix_append y (a :: v)) with h | ⟨x, hx⟩
  · rcases List.suffix_cons_iff.mp h with rfl | h
    · exact .inr ⟨[], rfl⟩
    · exact .inl h
  · exact .inr ⟨x, hx.symm⟩

/-- A text that goes on to a quote with an end behind that quote starts with another one, or
is that quote. -/
theorem eq_cons_of_append_eq_cons {y v after : List Char} {q c : Char}
    (h : y ++ q :: v = c :: after) : y = [] ∧ q = c ∧ after = v ∨
      ∃ z, y = c :: z ∧ after = z ++ q :: v := by
  cases y with
  | nil =>
      cases h
      exact .inl ⟨rfl, rfl, rfl⟩
  | cons d z =>
      cases h
      exact .inr ⟨z, rfl, rfl⟩

/-- **A token that ends in front of a quote** does not depend on what stands behind it. -/
theorem Reads.change {c q : Char} (hq : isQuote q = true) {x y v : List Char} {t : Token}
    (h : Reads c (y ++ q :: v) t (x ++ q :: v)) (v' : List Char) :
    Reads c (y ++ q :: v') t (x ++ q :: v') := by
  generalize hrest : y ++ q :: v = rest at h
  generalize hlast : x ++ q :: v = last at h
  cases h with
  | quoted hquote hclosed =>
      subst hrest
      have hread := readQuoted_change hquote hclosed hlast.symm v'
      have hnew : Reads c (y ++ q :: v') _ _ := .quoted hquote (by rw [hread])
      rwa [hread] at hnew
  | @lettered form after hform hne hafter hclosed =>
      subst hafter
      rcases eq_cons_of_append_eq_cons hrest with ⟨-, -, rfl⟩ | ⟨z, rfl, rfl⟩
      · have hsuffix := rest_readQuoted_suffix '\'' after
        rw [← hlast] at hsuffix
        exact absurd hsuffix (not_suffix_append x q after)
      · have hread := readQuoted_change (by decide) hclosed hlast.symm v'
        have hnew : Reads c ('\'' :: (z ++ q :: v')) _ _ :=
          .lettered hform hne rfl (by rw [hread])
        rwa [hread] at hnew
  | @escaped after body last hform hafter hread =>
      subst hafter
      rcases eq_cons_of_append_eq_cons hrest with ⟨-, -, rfl⟩ | ⟨z, rfl, rfl⟩
      · have hsuffix := rest_readQuoted_suffix '\'' after
        rw [(readQuoted_of_readEscaped? hread).2, ← hlast] at hsuffix
        exact absurd hsuffix (not_suffix_append x q after)
      · subst hlast
        exact .escaped hform rfl (readEscaped?_change hread v')
  | plain hquote hform =>
      subst hrest
      have hat : ¬ (c = '@' ∧ (y = [] ∨ y = ['@'])) := by
        rintro ⟨rfl, hy⟩
        have hsuffix := List.dropWhile_suffix isWordPart (l := v)
        rw [readPlain_at hy hq] at hlast
        dsimp only at hlast
        rw [← hlast] at hsuffix
        exact not_suffix_append x q v hsuffix
      have hnew : Reads c (y ++ q :: v') _ _ := .plain hquote fun hsome => by
        rw [head?_append_cons y q v' v]
        exact hform hsome
      rw [readPlain_stop hat hq] at hlast hnew ⊢
      obtain rfl : x = (readPlain c y).2 := (List.append_left_inj _).mp hlast
      exact hnew

/-! ### Entering -/

/-- `Enters cs quote u`: the tokenizer, started on `cs`, comes to stand in front of `u` inside
a section in these quotes. -/
inductive Enters : List Char → Char → List Char → Prop
  | opens {cs w u : List Char} {q : Char} (hopens : Opens cs q (w ++ u))
      (hbegins : Begins q w) : Enters cs q u
  | step {c : Char} {rest mid u : List Char} {q : Char} {t : Token} (hread : Reads c rest t mid)
      (h : Enters mid q u) : Enters (c :: rest) q u

/-- What is entered behind a token is entered from the end of that token. -/
theorem Enters.tail {c q : Char} {rest mid u : List Char} {t : Token}
    (h : Enters (c :: rest) q u) (hread : Reads c rest t mid)
    (hlt : (readQuoted q u).rest.length < mid.length) : Enters mid q u := by
  generalize hcs : c :: rest = cs at h
  cases h with
  | opens hopens hbegins =>
      subst hcs
      have hmid := (hopens.reads hread).2
      rw [hbegins] at hmid
      subst hmid
      exact absurd hlt (Nat.lt_irrefl _)
  | step hread' h =>
      cases hcs
      rw [(hread.unique hread').2]
      exact h

/-- How a section is opened does not depend on what stands behind a quote in it. -/
theorem Opens.change {x w v : List Char} {q q' : Char} (h : Opens (x ++ q :: v) q' (w ++ v))
    (v' : List Char) : Opens (x ++ q :: v') q' (w ++ v') := by
  have hcut : ∀ opener : List Char, x ++ q :: v = opener ++ (w ++ v) →
      x ++ q :: v' = opener ++ (w ++ v') := by
    intro opener heq
    have hhead : x ++ [q] = opener ++ w := by
      refine (List.append_left_inj v).mp ?_
      rw [List.append_assoc, List.append_assoc]
      exact heq
    rw [← List.append_assoc, ← hhead, List.append_assoc]
    rfl
  generalize hcs : x ++ q :: v = cs at h
  generalize hafter : w ++ v = after at h
  cases h with
  | quote hq =>
      subst hafter
      rw [hcut [q'] hcs]
      exact .quote hq _
  | @letter c form hform =>
      subst hafter
      rw [hcut [c, '\''] hcs]
      exact .letter hform _

/-! ### Bodies that divide a statement -/

/-- Behind a beginning, the section can be closed at once. -/
theorem Begins.isBody {quote : Char} (hquote : isQuote quote = true) {w : List Char}
    (h : Begins quote w) : IsBody quote w := by
  intro rest hrest
  rw [h, readQuoted_quote (ne_backslash_of_isQuote hquote) hrest]
  simp [QuotedTail.extend]

/-- Characters that neither close nor escape can stand in front of a body or not. -/
theorem isBody_append_iff {quote : Char} {chars : List Char}
    (hchars : ∀ c ∈ chars, c ≠ quote ∧ c ≠ '\\') {body : List Char} :
    IsBody quote (chars ++ body) ↔ IsBody quote body := by
  refine forall_congr' fun rest => imp_congr_right fun _ => ?_
  rw [List.append_assoc, readQuoted_append hchars]
  generalize readQuoted quote (body ++ quote :: rest) = tail
  cases tail
  simp [QuotedTail.extend]

/-- The text of a statement of its own, between semicolons. -/
def divider : List Char := [';', 'a', ';']

/-- The tokens of that text. -/
def dividerTokens : List Token := [.semicolon, .word ['a'], .semicolon]

theorem scans_divider (cs : List Char) : Scans (divider ++ cs) dividerTokens cs := by
  have hword : readPlain 'a' (';' :: cs) = (.word ['a'], ';' :: cs) := rfl
  have hsemi : ∀ rest, Reads ';' rest .semicolon rest := fun rest =>
    .plain (by decide) (by simp [letterForm?])
  have ha : Reads 'a' (';' :: cs) (.word ['a']) (';' :: cs) := by
    have hread : Reads 'a' (';' :: cs) _ _ := .plain (by decide) (by simp)
    rwa [hword] at hread
  exact .cons (hsemi _) (.cons ha (.cons (hsemi _) (.done cs)))

/-- A divider can stand in front of a body. -/
theorem isBody_divider {q : Char} (hq : isQuote q = true) {body : List Char}
    (h : IsBody q body) : IsBody q (divider ++ body) := by
  refine (isBody_append_iff ?_).mpr h
  have hall : ∀ c ∈ divider, isQuote c = false ∧ c ≠ '\\' := by simp [divider, isQuote]
  intro c hc
  refine ⟨?_, (hall c hc).2⟩
  rintro rfl
  rw [(hall c hc).1] at hq
  cases hq

theorem isLayout_sectionToken (q : Char) (body : List Char) :
    (sectionToken q body).isLayout = false := by
  rw [sectionToken]
  split <;> rfl

/-- A section that is closed is a token, and no blank and no semicolon. -/
theorem scans_section {q : Char} (hq : isQuote q = true) {cs : List Char}
    (hclosed : (readQuoted q cs).closed = true) :
    ∃ t, t.isLayout = false ∧ Scans (q :: cs) [t] (readQuoted q cs).rest := by
  exact ⟨_, isLayout_sectionToken q _, .cons (.quoted hq hclosed) (.done _)⟩

section

variable {q : Char} (hq : isQuote q = true) {body post : List Char} (hbody : IsBody q body)

include hq hbody

/-- **The body that divides a section.** Where a section takes the opening quote of a literal
without entering it, the literal can be given a body that closes the section and goes on with
a divider. -/
theorem exists_divider {quote : Char} (hquote : isQuote quote = true) {y : List Char}
    (hclosed : (readQuoted quote (y ++ q :: (body ++ q :: post))).closed = true)
    (hrest : (readQuoted quote (y ++ q :: (body ++ q :: post))).rest <:+ body ++ q :: post)
    (henters : ¬ (q = quote ∧ Begins quote (y ++ [q]))) :
    ∃ body' w rest tail, IsBody q body' ∧
      y ++ q :: (body' ++ q :: post) = w ++ quote :: (divider ++ rest) ∧
      (w = y ++ [q] ∧ q ≠ quote ∨ w = y ∧ q = quote) ∧ Begins quote w ∧
      (∀ t ∈ tail, t.isLayout = false) ∧
      Scans rest tail (readQuoted quote (y ++ q :: (body ++ q :: post))).rest := by
  have hne := ne_backslash_of_isQuote hquote
  rcases begins_of_crossing hquote hq hclosed hrest with hbegins | ⟨rfl, hbegins⟩
  · -- The quote is a character of the section: close it, and open it again.
    have hkind : q ≠ quote := fun h => henters ⟨h, hbegins⟩
    have hread := hbegins (body ++ q :: post)
    rw [List.append_assoc, List.singleton_append] at hread
    rw [hread] at hclosed ⊢
    obtain ⟨t, ht, hscan⟩ := scans_section hquote hclosed
    refine ⟨quote :: (divider ++ quote :: body), y ++ [q],
      quote :: (body ++ q :: post), [t], ?_, ?_, .inl ⟨rfl, hkind⟩, hbegins, by simpa using ht,
      hscan⟩
    · exact .cons hkind.symm (fun h => absurd h hne)
        (isBody_divider hq (.cons hkind.symm (fun h => absurd h hne) hbody))
    · simp
  · -- The quote ends the section, or is doubled by the one behind it.
    have hread := hbegins (q :: (body ++ q :: post))
    rw [hread] at hclosed ⊢
    refine ⟨divider ++ body, y, body ++ q :: post, ?_⟩
    by_cases hdouble : (body ++ q :: post).head? = some q
    · obtain ⟨after, hafter⟩ := List.head?_eq_some_iff.mp hdouble
      rw [hafter] at hclosed ⊢
      have htwo := (Begins.nil q).double hne after
      simp only [List.cons_append, List.nil_append] at htwo
      rw [htwo] at hclosed ⊢
      obtain ⟨t, ht, hscan⟩ := scans_section hq hclosed
      exact ⟨[t], isBody_divider hq hbody, by simp [hafter], .inr ⟨rfl, rfl⟩, hbegins,
        by simpa using ht, hscan⟩
    · rw [readQuoted_quote hne hdouble]
      exact ⟨[], isBody_divider hq hbody, by simp, .inr ⟨rfl, rfl⟩, hbegins, by simp, .done _⟩

/-- A word that takes the opening quote of a literal can be made to end in front of a
divider. -/
theorem exists_divider_of_at (post : List Char) {y : List Char} (hy : y = [] ∨ y = ['@']) :
    ∃ body' word, IsBody q body' ∧ Reads '@' (y ++ q :: (body' ++ q :: post)) (.word word)
      (divider ++ (body ++ q :: post).dropWhile isWordPart) := by
  have hword : ∀ d ∈ body.takeWhile isWordPart, d ≠ q ∧ d ≠ '\\' := by
    intro d hd
    have hpart := List.mem_takeWhile_imp hd
    constructor
    · rintro rfl
      rw [isWordPart_of_isBreak (isBreak_of_isQuote hq)] at hpart
      cases hpart
    · rintro rfl
      exact absurd hpart (by decide)
  have hrest : IsBody q (body.dropWhile isWordPart) := by
    rw [← isBody_append_iff hword, List.takeWhile_append_dropWhile]
    exact hbody
  have hdrop : (body ++ q :: post).dropWhile isWordPart =
      body.dropWhile isWordPart ++ q :: post :=
    dropWhile_append_of_atBreak (fun _ => isWordPart_of_isBreak)
      (.cons (isBreak_of_isQuote hq) post) body
  have hstop : (body.takeWhile isWordPart ++
      (divider ++ (body.dropWhile isWordPart ++ q :: post))).dropWhile isWordPart =
      divider ++ (body.dropWhile isWordPart ++ q :: post) := by
    rw [List.dropWhile_append_of_pos fun d hd => List.mem_takeWhile_imp hd]
    rfl
  have hread := readPlain_at hy hq (body.takeWhile isWordPart ++
    (divider ++ (body.dropWhile isWordPart ++ q :: post)))
  rw [hstop] at hread
  have hnew : Reads '@' (y ++ q :: (body.takeWhile isWordPart ++
      (divider ++ (body.dropWhile isWordPart ++ q :: post)))) _ _ :=
    .plain (by decide) (by simp [letterForm?])
  rw [hread] at hnew
  have htext : (body.takeWhile isWordPart ++ (divider ++ body.dropWhile isWordPart)) ++
      q :: post = body.takeWhile isWordPart ++
        (divider ++ (body.dropWhile isWordPart ++ q :: post)) := by
    rw [List.append_assoc, List.append_assoc]
  rw [← htext] at hnew
  rw [hdrop]
  exact ⟨_, _, (isBody_append_iff hword).mpr (isBody_divider hq hrest), hnew⟩

omit hq hbody in
theorem head?_divider {quote : Char} (hquote : isQuote quote = true) (rest : List Char) :
    (divider ++ rest).head? ≠ some quote := by
  intro hhead
  obtain rfl : ';' = quote := Option.some.inj hhead
  cases hquote

/-- A token that takes the opening quote of a literal without entering it can be made to end
in front of a divider, by giving the literal another body. -/
theorem Reads.exists_divider {c : Char} {y last : List Char} {t : Token}
    (h : Reads c (y ++ q :: (body ++ q :: post)) t last) (hlast : last <:+ body ++ q :: post)
    (henters : ¬ Enters (c :: (y ++ q :: (body ++ q :: post))) q (body ++ q :: post)) :
    ∃ body' t' rest tail, IsBody q body' ∧ t.isLayout = false ∧ t'.isLayout = false ∧
      (∀ x ∈ tail, x.isLayout = false) ∧
      Reads c (y ++ q :: (body' ++ q :: post)) t' (divider ++ rest) ∧ Scans rest tail last := by
  -- Behind an opening, the section does not take the quote as a character of its own kind.
  have hopens : ∀ {quote : Char} {z : List Char},
      Opens (c :: (y ++ q :: (body ++ q :: post))) quote (z ++ q :: (body ++ q :: post)) →
      ¬ (q = quote ∧ Begins quote (z ++ [q])) := by
    rintro quote z hopen ⟨rfl, hbegins⟩
    exact henters (.opens (by simpa using hopen) hbegins)
  generalize hrest : y ++ q :: (body ++ q :: post) = rest at h hopens
  cases h with
  | quoted hquote hclosed =>
      subst hrest
      obtain ⟨body', w, rest, tail, hbody', htext, -, hbegins, htail, hscan⟩ :=
        Sql.exists_divider hq hbody hquote hclosed hlast (hopens (.quote hquote _))
      have hread := hbegins.isBody hquote _ (head?_divider hquote rest)
      have hnew : Reads c (w ++ c :: (divider ++ rest)) _ _ := .quoted hquote (by rw [hread])
      rw [hread, ← htext] at hnew
      exact ⟨body', _, rest, tail, hbody', isLayout_sectionToken c _, isLayout_sectionToken c _,
        htail, hnew, hscan⟩
  | @lettered form after hform hne hafter hclosed =>
      subst hafter
      rcases eq_cons_of_append_eq_cons hrest with ⟨rfl, rfl, rfl⟩ | ⟨z, rfl, rfl⟩
      · exact absurd (.opens (w := []) (.letter hform _) (.nil _)) henters
      obtain ⟨body', w, rest, tail, hbody', htext, -, hbegins, htail, hscan⟩ :=
        Sql.exists_divider hq hbody (by decide) hclosed hlast (hopens (.letter hform _))
      have hread := hbegins.isBody (by decide) _ (head?_divider (by decide) rest)
      have hnew : Reads c ('\'' :: (w ++ '\'' :: (divider ++ rest))) _ _ :=
        .lettered hform hne rfl (by rw [hread])
      rw [hread, ← htext] at hnew
      exact ⟨body', _, rest, tail, hbody', rfl, rfl, htail, hnew, hscan⟩
  | @escaped after decoded last hform hafter hread =>
      subst hafter
      rcases eq_cons_of_append_eq_cons hrest with ⟨rfl, rfl, rfl⟩ | ⟨z, rfl, rfl⟩
      · exact absurd (.opens (w := []) (.letter hform _) (.nil _)) henters
      obtain ⟨hclosed, hlast'⟩ := readQuoted_of_readEscaped? hread
      subst hlast'
      obtain ⟨body', w, rest, tail, hbody', htext, hw, hbegins, htail, hscan⟩ :=
        Sql.exists_divider hq hbody (by decide) hclosed hlast (hopens (.letter hform _))
      have hdecodes : ∃ d, Decodes w d := by
        rcases decodes_of_crossing hq hread hlast with ⟨d, hd⟩ | ⟨hkind, d, hd⟩
        · rcases hw with ⟨rfl, -⟩ | ⟨rfl, rfl⟩
          · exact ⟨d, hd⟩
          · exact absurd hd hbegins.not_decodes
        · rcases hw with ⟨-, hkind'⟩ | ⟨rfl, -⟩
          · exact absurd hkind hkind'
          · exact ⟨d, hd⟩
      obtain ⟨d, hd⟩ := hdecodes
      have hread' := hd ('\'' :: (divider ++ rest)) (.cons (by decide) _)
      rw [readEscaped?_quote (head?_divider (by decide) rest), Option.map_some, ← htext] at hread'
      exact ⟨body', _, rest, tail, hbody', rfl, rfl, htail, .escaped hform rfl hread', hscan⟩
  | plain hquote hform =>
      subst hrest
      by_cases hat : c = '@' ∧ (y = [] ∨ y = ['@'])
      · obtain ⟨rfl, hy⟩ := hat
        rw [readPlain_at hy hq]
        obtain ⟨body', word, hbody', hread⟩ := exists_divider_of_at hq hbody post hy
        exact ⟨body', _, _, [], hbody', rfl, rfl, by simp, hread, .done _⟩
      · rw [readPlain_stop hat hq] at hlast
        exact absurd hlast (not_suffix_append _ q _)

end

/-- **A literal that is not entered can be made to divide its statement**: with another body,
some token ends in front of a divider, and apart from that token and the sections behind the
divider the tokens are as before. -/
theorem Scans.exists_divider {q : Char} (hq : isQuote q = true) {body post : List Char}
    (hbody : IsBody q body) {x : List Char} {tokens : List Token}
    (h : Scans (x ++ q :: (body ++ q :: post)) tokens [])
    (henters : ¬ Enters (x ++ q :: (body ++ q :: post)) q (body ++ q :: post)) :
    ∃ body' before t t' tail after, IsBody q body' ∧ t.isLayout = false ∧
      t'.isLayout = false ∧ (∀ d ∈ tail, d.isLayout = false) ∧
      tokens = before ++ t :: after ∧
      Scans (x ++ q :: (body' ++ q :: post))
        (before ++ t' :: (dividerTokens ++ (tail ++ after))) [] := by
  generalize hcs : x ++ q :: (body ++ q :: post) = cs at h henters
  generalize hlast : ([] : List Char) = last at h
  induction h generalizing x with
  | done cs =>
      subst hlast
      cases x <;> cases hcs
  | @cons c rest mid last t tokens hread hscan ih =>
      cases x with
      | nil =>
          -- Here the tokenizer stands in front of the literal itself.
          cases hcs
          exact absurd (.opens (w := []) (.quote hq _) (.nil q)) henters
      | cons d y =>
          cases hcs
          rcases suffix_cases hread.suffix with hmid | ⟨z, rfl⟩
          · obtain ⟨body', t', rest, tail, hbody', ht, ht', htail, hread', hscan'⟩ :=
              hread.exists_divider hq hbody hmid henters
            refine ⟨body', [], t, t', tail, tokens, hbody', ht, ht', htail, rfl, ?_⟩
            subst hlast
            exact .cons hread' ((scans_divider rest).trans (hscan'.trans hscan))
          · obtain ⟨body', before, u, u', tail, after, hbody', hu, hu', htail, rfl, hscan'⟩ :=
              ih rfl (fun h => henters (.step hread h)) hlast
            exact ⟨body', t :: before, u, u', tail, after, hbody', hu, hu', htail, rfl,
              .cons (hread.change hq _) hscan'⟩

end SqlGateway.Sql
