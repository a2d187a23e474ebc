import SqlGateway.Proofs.Sql.Break
import SqlGateway.Proofs.Sql.Escape

/-!
# Reading Tokens One After Another

`Reads c rest t last` is the tokenizer as a relation: from the text `c :: rest` it reads the
token `t` and leaves `last`. It has one case for each kind of token: a quoted section, a
string opened by a letter, a string with escapes, and whatever is none of these.

`Scans cs tokens last` says that the tokenizer, started on `cs`, reads `tokens` one after
another and leaves `last`. Tokenizing is the case in which nothing is left, and scans
compose, so a fact about one token is carried along a text by one induction.

## Main results

* `nextToken_eq_ok_iff`, `tokenize_eq_ok_iff`: the functions are the relations.
* `Scans.append`: what is scanned of a text without `@` does not change when a semicolon and
  more text are put behind it.
-/

namespace SqlGateway.Sql

/-! ### One token -/

/-- The form of the string that a letter opens in front of a quote, if it opens one. -/
def letterForm? (c : Char) : Option StringForm :=
  if c == 'N' || c == 'n' then some .national
  else if c == 'X' || c == 'x' then some .hex
  else if c == 'E' || c == 'e' then some .escaped
  else none

/-- The token of a quoted section. -/
def sectionToken (quote : Char) (body : List Char) : Token :=
  if quote == '`' then .quotedWord body
  else .string (if quote == '"' then .double else .single) body

/-- `Reads c rest t last`: the tokenizer reads `t` from `c :: rest` and leaves `last`. -/
inductive Reads (c : Char) (rest : List Char) : Token → List Char → Prop
  | quoted (hquote : isQuote c = true) (hclosed : (readQuoted c rest).closed = true) :
      Reads c rest (sectionToken c (readQuoted c rest).body) (readQuoted c rest).rest
  | lettered {form : StringForm} {after : List Char} (hform : letterForm? c = some form)
      (hne : form ≠ .escaped) (hrest : rest = '\'' :: after)
      (hclosed : (readQuoted '\'' after).closed = true) :
      Reads c rest (.string form (readQuoted '\'' after).body) (readQuoted '\'' after).rest
  | escaped {after body last : List Char} (hform : letterForm? c = some .escaped)
      (hrest : rest = '\'' :: after) (hread : readEscaped? after = some (body, last)) :
      Reads c rest (.string .escaped body) last
  | plain (hquote : isQuote c = false)
      (hform : (letterForm? c).isSome → rest.head? ≠ some '\'') :
      Reads c rest (readPlain c rest).1 (readPlain c rest).2

/-- A letter that opens a string is no quote, no digit and no blank. -/
theorem of_letterForm? {c : Char} {form : StringForm} (h : letterForm? c = some form) :
    (form = .national ∧ (c = 'N' ∨ c = 'n')) ∨ (form = .hex ∧ (c = 'X' ∨ c = 'x')) ∨
      (form = .escaped ∧ (c = 'E' ∨ c = 'e')) := by
  rw [letterForm?] at h
  split at h
  · rename_i hc
    cases h
    exact .inl ⟨rfl, by simpa using hc⟩
  split at h
  · rename_i hc
    cases h
    exact .inr (.inl ⟨rfl, by simpa using hc⟩)
  split at h
  · rename_i hc
    cases h
    exact .inr (.inr ⟨rfl, by simpa using hc⟩)
  · cases h

/-- What is read outside quotes, where no letter opens a string. -/
theorem nextToken_eq_readPlain {c : Char} {rest : List Char} (hquote : isQuote c = false)
    (hform : (letterForm? c).isSome → rest.head? ≠ some '\'') :
    nextToken c rest = .ok (readPlain c rest) := by
  have hne : c ≠ '\'' ∧ c ≠ '"' ∧ c ≠ '`' := by simpa [isQuote, and_assoc] using hquote
  unfold nextToken readPlain
  split; · rfl
  rw [if_neg (by simpa using hne.1), if_neg (by simpa using hne.2.1),
    if_neg (by simpa using hne.2.2)]
  split; · rfl
  split
  · have hnone : letterForm? c = none := by
      by_contra hsome
      exact hform (Option.isSome_iff_ne_none.mpr hsome) rfl
    rw [letterForm?] at hnone
    split; · simp_all
    split; · simp_all
    split
    · simp_all
    · rfl
  · rfl

/-- Every reading is a step of the tokenizer. -/
theorem Reads.nextToken_eq {c : Char} {rest last : List Char} {t : Token}
    (h : Reads c rest t last) : nextToken c rest = .ok (t, last) := by
  cases h with
  | quoted hquote hclosed =>
      rcases isQuote_iff.mp hquote with rfl | rfl | rfl <;>
        simp [nextToken, readString, sectionToken, hclosed]
  | lettered hform hne hrest hclosed =>
      subst hrest
      rcases of_letterForm? hform with ⟨rfl, rfl | rfl⟩ | ⟨rfl, rfl | rfl⟩ | ⟨rfl, -⟩
      · simp [nextToken, readString, hclosed]
      · simp [nextToken, readString, hclosed]
      · simp [nextToken, readString, hclosed]
      · simp [nextToken, readString, hclosed]
      · exact absurd rfl hne
  | escaped hform hrest hread =>
      subst hrest
      rcases of_letterForm? hform with ⟨h, -⟩ | ⟨h, -⟩ | ⟨-, rfl | rfl⟩
      · cases h
      · cases h
      · simp [nextToken, hread]
      · simp [nextToken, hread]
  | plain hquote hform => exact nextToken_eq_readPlain hquote hform

/-- A text is read in one way. -/
theorem Reads.unique {c : Char} {rest last last' : List Char} {t t' : Token}
    (h : Reads c rest t last) (h' : Reads c rest t' last') : t = t' ∧ last = last' := by
  have heq := h.nextToken_eq.symm.trans h'.nextToken_eq
  cases heq
  exact ⟨rfl, rfl⟩

/-- **The tokenizer as a relation**: its steps are the readings. -/
theorem nextToken_eq_ok_iff {c : Char} {rest last : List Char} {t : Token} :
    nextToken c rest = .ok (t, last) ↔ Reads c rest t last := by
  refine ⟨fun h => ?_, Reads.nextToken_eq⟩
  -- It is enough to find some reading of the text, since the tokenizer takes one step only.
  suffices hread : ∃ t' last', Reads c rest t' last' by
    obtain ⟨t', last', hread⟩ := hread
    have heq := h.symm.trans hread.nextToken_eq
    cases heq
    exact hread
  by_cases hquote : isQuote c = true
  · by_cases hclosed : (readQuoted c rest).closed = true
    · exact ⟨_, _, .quoted hquote hclosed⟩
    · rcases isQuote_iff.mp hquote with rfl | rfl | rfl <;>
        simp [nextToken, readString, hclosed] at h
  rw [Bool.not_eq_true] at hquote
  by_cases hopen : (letterForm? c).isSome ∧ rest.head? = some '\''
  · obtain ⟨form, hform⟩ := Option.isSome_iff_exists.mp hopen.1
    obtain ⟨after, hrest⟩ := List.head?_eq_some_iff.mp hopen.2
    subst hrest
    rcases of_letterForm? hform with ⟨rfl, hc⟩ | ⟨rfl, hc⟩ | ⟨rfl, hc⟩
    · by_cases hclosed : (readQuoted '\'' after).closed = true
      · exact ⟨_, _, .lettered hform (by simp) rfl hclosed⟩
      · rcases hc with rfl | rfl <;> simp [nextToken, readString, hclosed] at h
    · by_cases hclosed : (readQuoted '\'' after).closed = true
      · exact ⟨_, _, .lettered hform (by simp) rfl hclosed⟩
      · rcases hc with rfl | rfl <;> simp [nextToken, readString, hclosed] at h
    · rcases hread : readEscaped? after with _ | ⟨body, last'⟩
      · rcases hc with rfl | rfl <;> simp [nextToken, hread] at h
      · exact ⟨_, _, .escaped hform rfl hread⟩
  · exact ⟨_, _, .plain hquote fun hsome hhead => hopen ⟨hsome, hhead⟩⟩

/-- `Scans cs tokens last`: the tokenizer reads `tokens` from `cs` and leaves `last`. -/
inductive Scans : List Char → List Token → List Char → Prop
  | done (cs : List Char) : Scans cs [] cs
  | cons {c : Char} {rest mid last : List Char} {t : Token} {tokens : List Token} :
      Reads c rest t mid → Scans mid tokens last → Scans (c :: rest) (t :: tokens) last

/-- Scans compose. -/
theorem Scans.trans {a b c : List Char} {s t : List Token}
    (h₁ : Scans a s b) (h₂ : Scans b t c) : Scans a (s ++ t) c := by
  induction h₁ with
  | done => exact h₂
  | cons hread _ ih => exact .cons hread (ih h₂)

/-- Tokenizing a text is scanning it to its end. -/
theorem tokenize_eq_ok_iff {cs : List Char} {tokens : List Token} :
    tokenize cs = .ok tokens ↔ Scans cs tokens [] := by
  constructor
  · intro h
    fun_induction tokenize cs generalizing tokens with
    | case1 =>
        cases h
        exact .done []
    | case2 => cases h
    | case3 => cases h
    | case4 c rest step hstep _ tokens' htokens ih =>
        cases h
        exact .cons (nextToken_eq_ok_iff.mp hstep) (ih htokens)
  · intro h
    generalize hlast : ([] : List Char) = last at h
    induction h with
    | done cs =>
        subst hlast
        rw [tokenize]
    | cons hread _ ih =>
        have hstep := hread.nextToken_eq
        rw [tokenize]
        split
        · rename_i e he
          rw [hstep] at he
          cases he
        · rename_i step' hstep'
          rw [hstep] at hstep'
          cases hstep'
          rw [ih hlast]

/-! ### What stands behind -/

/-- A reading leaves an end of the text. -/
theorem Reads.suffix {c : Char} {rest last : List Char} {t : Token} (h : Reads c rest t last) :
    last <:+ rest := by
  cases h with
  | quoted => exact rest_readQuoted_suffix c rest
  | lettered hform hne hrest hclosed =>
      subst hrest
      exact (rest_readQuoted_suffix '\'' _).trans (List.suffix_cons _ _)
  | escaped hform hrest hread =>
      subst hrest
      have hlast := (readQuoted_of_readEscaped? hread).2
      subst hlast
      exact (rest_readQuoted_suffix '\'' _).trans (List.suffix_cons _ _)
  | plain => exact readPlain_suffix c rest

/-- A scan leaves an end of the text. -/
theorem Scans.suffix {cs last : List Char} {tokens : List Token} (h : Scans cs tokens last) :
    last <:+ cs := by
  induction h with
  | done => exact List.suffix_rfl
  | cons hread _ ih => exact ih.trans (hread.suffix.trans (List.suffix_cons _ _))

section

variable {u : List Char} (hu : ∀ d ∈ u.head?, d = ';')

include hu

/-- A reading that does not start at `@` is not changed by a semicolon behind the text. -/
theorem Reads.append {c : Char} {rest last : List Char} {t : Token} (h : Reads c rest t last)
    (hc : c ≠ '@') : Reads c (rest ++ u) t (last ++ u) := by
  have hhead : ∀ q, isQuote q = true → u.head? ≠ some q := by
    rintro q hq hq'
    rw [hu q hq'] at hq
    revert hq
    decide
  have hbreak : AtBreak u := by
    intro d hd
    rw [hu d hd]
    decide
  cases h with
  | quoted hquote hclosed =>
      have hread :=
        readQuoted_append_of_closed (ne_backslash_of_isQuote hquote) hclosed
          fun _ => hhead c hquote
      have happ : Reads c (rest ++ u) _ _ := .quoted hquote (by rw [hread])
      rwa [hread] at happ
  | @lettered form after hform hne hrest hclosed =>
      subst hrest
      have hread := readQuoted_append_of_closed (by decide) hclosed
        fun _ => hhead '\'' (by decide)
      have happ : Reads c ('\'' :: (after ++ u)) _ _ :=
        .lettered hform hne rfl (by rw [hread])
      rwa [hread] at happ
  | escaped hform hrest hread =>
      subst hrest
      exact .escaped hform rfl (readEscaped?_append hbreak (hhead '\'' (by decide)) hread)
  | plain hquote hform =>
      have hread : readPlain c (rest ++ u) = _ :=
        readPlain_append hbreak fun hat => absurd hat hc
      have happ : Reads c (rest ++ u) _ _ := .plain hquote fun hsome => by
        rw [List.head?_append]
        cases hrest : rest.head? with
        | none => simpa using hhead '\'' (by decide)
        | some d => simpa [hrest] using hform hsome
      rwa [hread] at happ

/-- **A seam at a semicolon does not change what is scanned before it**, as long as no `@`
stands there. -/
theorem Scans.append {cs last : List Char} {tokens : List Token} (h : Scans cs tokens last)
    (hat : '@' ∉ cs) : Scans (cs ++ u) tokens (last ++ u) := by
  induction h with
  | done => exact .done _
  | @cons c _ _ _ _ _ hread _ ih =>
      have hc : c ≠ '@' := by
        rintro rfl
        exact hat List.mem_cons_self
      exact .cons (hread.append hu hc) (ih fun hmem =>
        hat (List.mem_cons_of_mem c (hread.suffix.subset hmem)))

end

end SqlGateway.Sql
