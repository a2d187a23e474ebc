import SqlGateway.Proofs.Sql.Bare
import SqlGateway.Proofs.Statement.Rereading

/-!
# The Normal Form Has No Comments

Comments are removed before a text is cut into tokens, so what is left is bare, and the normal form
must not open one anew. It does not: the characters that open a comment are operators, they are
written as they stand in the text, and characters that did not stand together do not come together,
since the normal form echoes the text.

## Main results

* `Reads.isBare_rest`: what is left of a bare text behind a token is bare.
* `Scans.isBare_render`: the normal form of the tokens of a bare text is bare.
-/

namespace SqlGateway

open Sql Text Statement

/-! ### What is left of a bare text -/

/-- What stands behind characters outside quotes is bare. -/
theorem isBare_of_append {w u : List Char} (hw : ∀ c ∈ w, isQuote c = false)
    (h : IsBare (w ++ u)) : IsBare u := by
  induction w with
  | nil => exact h
  | cons c w ih =>
      exact ih (fun d hd => hw d (List.mem_cons_of_mem c hd))
        ((isBare_plain_iff (hw c List.mem_cons_self) _).mp h).2

/-- **What is left of a bare text behind a token is bare.** -/
theorem Sql.Reads.isBare_rest {c : Char} {rest mid : List Char} {t : Token}
    (h : Reads c rest t mid) (hat : c ≠ '@') (hbare : IsBare (c :: rest)) : IsBare mid := by
  cases h with
  | quoted hquote => exact (isBare_quote_iff hquote rest).mp hbare
  | lettered hform hne hrest =>
      subst hrest
      have hafter := ((isBare_plain_iff (isQuote_of_letterForm? hform) _).mp hbare).2
      exact (isBare_quote_iff (by decide) _).mp hafter
  | escaped hform hrest hread =>
      subst hrest
      have hafter := ((isBare_plain_iff (isQuote_of_letterForm? hform) _).mp hbare).2
      have hmid := (readQuoted_of_readEscaped? hread).2
      subst hmid
      exact (isBare_quote_iff (by decide) _).mp hafter
  | plain hquote =>
      obtain ⟨chunk, hchunk, hbreak⟩ := readPlain_chunk hat rest
      rw [hchunk, ← List.cons_append] at hbare
      refine isBare_of_append ?_ hbare
      refine List.forall_mem_cons.mpr ⟨hquote, fun d hd => ?_⟩
      rw [Bool.eq_false_iff]
      intro hd'
      have hno := hbreak d hd
      rw [isBreak_of_isQuote hd'] at hno
      cases hno

/-! ### The normal form of a token -/

/-- Letters that may become capitals are written in front of a bare text. -/
theorem isBare_append_of_echoes {s f mid fs : List Char}
    (hsf : List.Forall₂ (fun c d => c.toNat < 0x80 ∧ (d = c ∨ d = c.toUpper)) s f)
    (hquote : ∀ c ∈ s, isQuote c = false) (hechoes : Echoes mid fs) (h : IsBare (s ++ mid))
    (hfs : IsBare fs) : Echoes (s ++ mid) (f ++ fs) ∧ IsBare (f ++ fs) := by
  have hsame : ∀ {c d : Char}, c.toNat < 0x80 → d = c ∨ d = c.toUpper →
      isQuote d = isQuote c ∧ (d = '#' → c = '#') ∧ (d = '/' → c = '/') ∧ (d = '-' → c = '-') := by
    rintro c d hc (rfl | rfl)
    · exact ⟨rfl, id, id, id⟩
    · exact of_ascii (p := fun c => isQuote c.toUpper = isQuote c ∧ (c.toUpper = '#' → c = '#') ∧
        (c.toUpper = '/' → c = '/') ∧ (c.toUpper = '-' → c = '-')) (by decide) hc
  induction hsf with
  | nil => exact ⟨hechoes, hfs⟩
  | @cons c d s f hcd _ ih =>
      obtain ⟨hc, hd⟩ := hcd
      have hplain := hquote c List.mem_cons_self
      obtain ⟨⟨hhash, hslash, hminus⟩, hrest⟩ := (isBare_plain_iff hplain _).mp h
      obtain ⟨htail, hbare⟩ := ih (fun e he => hquote e (List.mem_cons_of_mem c he)) hrest
      obtain ⟨hquoted, hash, slash, minus⟩ := hsame hc hd
      refine ⟨.cons hc hd htail, (isBare_plain_iff (hquoted.trans hplain) _).mpr
        ⟨⟨fun h => hhash (hash h), fun h => ?_, fun h => ?_⟩, hbare⟩⟩
      · exact htail.head?_ne (by decide) (hslash (slash h))
      · exact htail.head?_ne (by decide) (hminus (minus h))

theorem forall₂_same {s : List Char} (hs : ∀ c ∈ s, c.toNat < 0x80) :
    List.Forall₂ (fun c d => c.toNat < 0x80 ∧ (d = c ∨ d = Char.toUpper c)) s s :=
  List.forall₂_same.mpr fun c hc => ⟨hs c hc, .inl rfl⟩

theorem forall₂_upper {s : List Char} (hs : ∀ c ∈ s, c.toNat < 0x80) :
    List.Forall₂ (fun c d => c.toNat < 0x80 ∧ (d = c ∨ d = Char.toUpper c)) s (upper s) := by
  rw [upper_of_ascii hs, List.forall₂_map_right_iff]
  exact List.forall₂_same.mpr fun c hc => ⟨hs c hc, .inr rfl⟩

/-- A hexadecimal string is bare, also directly in front of another string. -/
theorem isBare_hex {digits fs : List Char} (hdigits : ∀ c ∈ digits, isHexDigit c = true)
    (hfs : IsBare fs) : IsBare ('X' :: '\'' :: (digits ++ '\'' :: fs)) := by
  rw [isBare_cons_iff (by decide) (by decide)]
  by_cases hhead : fs.head? = some '\''
  · obtain ⟨more, rfl⟩ := List.head?_eq_some_iff.mp hhead
    rw [isBare_quote_iff (by decide)] at hfs ⊢
    rw [readQuoted_append fun c hc => ⟨ne_quote_of_not_isBreak (plain_of_isHexDigit (hdigits c hc)).1,
      (plain_of_isHexDigit (hdigits c hc)).2⟩]
    have hdouble : readQuoted '\'' ('\'' :: '\'' :: more) =
        (readQuoted '\'' more).extend ['\'', '\''] := rfl
    rw [hdouble]
    exact hfs
  · exact (isBare_section_iff (by decide) (isBody_of_isHexDigit hdigits) hhead).mpr hfs

/-- What is read outside quotes opens no comment. -/
theorem isBare_respelled {s f mid fs : List Char} (h : Respells s f)
    (hs : ∀ c ∈ s, c.toNat < 0x80 ∧ isQuote c = false) (hechoes : Echoes mid fs)
    (hbare : IsBare (s ++ mid)) (hfs : IsBare fs) : IsBare (f ++ fs) := by
  have hascii : ∀ d ∈ s, d.toNat < 0x80 := fun d hd => (hs d hd).1
  have hquote : ∀ d ∈ s, isQuote d = false := fun d hd => (hs d hd).2
  cases h with
  | same => exact (isBare_append_of_echoes (forall₂_same hascii) hquote hechoes hbare hfs).2
  | capitals => exact (isBare_append_of_echoes (forall₂_upper hascii) hquote hechoes hbare hfs).2
  | letter d s =>
      exact (isBare_append_of_echoes (.cons ⟨hascii d List.mem_cons_self, .inr rfl⟩
        (forall₂_same fun e he => hascii e (List.mem_cons_of_mem d he))) hquote hechoes hbare hfs).2
  | inequality =>
      exact (isBare_cons_iff (by decide) (by decide) _).mpr
        ((isBare_cons_iff (by decide) (by decide) _).mpr hfs)
  | hex hdigits => simpa using isBare_hex hdigits hfs

/-- What is written of a token opens no comment in front of a bare text. -/
theorem Sql.Reads.isBare_format {c : Char} {rest mid fs : List Char} {t : Token}
    (h : Reads c rest t mid) (hcs : IsTame (c :: rest)) (hblank : t ≠ .blank)
    (hescaped : ∀ body, t ≠ .string .escaped body) (hechoes : Echoes mid fs)
    (hbare : IsBare (c :: rest)) (hfs : IsBare fs) : IsBare (formatToken t ++ fs) := by
  have hsection : ∀ {q : Char} {body : List Char}, isQuote q = true → q ∈ steadyChars →
      IsBody q body → mid.head? ≠ some q → IsBare (q :: (body ++ q :: fs)) :=
    fun hq hsteady hbody hmid =>
      (isBare_section_iff hq hbody (hechoes.head?_ne hsteady hmid)).mpr hfs
  cases h with
  | quoted hquote hclosed =>
      have hbody := isBody_readQuoted (ne_backslash_of_isQuote hquote) hclosed
      have hmid := head?_rest_readQuoted hclosed
      rcases isQuote_iff.mp hquote with rfl | rfl | rfl <;>
        simpa [sectionToken, formatToken, Token.text, Token.opening, Token.closing] using
          hsection (by decide) (by decide) hbody hmid
  | @lettered form after hform hne hrest hclosed =>
      have hbody := isBody_readQuoted (by decide) hclosed
      have hmid := hsection (by decide) (by decide) hbody (head?_rest_readQuoted hclosed)
      rcases of_letterForm? hform with ⟨rfl, -⟩ | ⟨rfl, -⟩ | ⟨rfl, -⟩
      · simpa [formatToken, Token.text, Token.opening, Token.closing] using
          (isBare_cons_iff (c := 'N') (by decide) (by decide) _).mpr hmid
      · simpa [formatToken, Token.text, Token.opening, Token.closing] using
          (isBare_cons_iff (c := 'X') (by decide) (by decide) _).mpr hmid
      · exact absurd rfl hne
  | escaped => exact absurd rfl (hescaped _)
  | plain hquote hform =>
      obtain ⟨hc, hat⟩ := hcs c List.mem_cons_self
      obtain ⟨s, hs, hspell⟩ :=
        (readsOutside_readPlain hc hat rest).exists_spelling hblank
      obtain ⟨chunk, hchunk, hbreak⟩ := readPlain_chunk hat rest
      have heq : s = c :: chunk :=
        List.append_cancel_right (hs.symm.trans (congrArg (c :: ·) hchunk))
      refine isBare_respelled hspell (fun d hd => ?_) hechoes (hs ▸ hbare) hfs
      have hmem : d ∈ c :: rest := hs ▸ List.mem_append_left _ hd
      refine ⟨(hcs d hmem).1, ?_⟩
      rw [heq] at hd
      rcases List.mem_cons.mp hd with rfl | hd
      · exact hquote
      · rw [Bool.eq_false_iff]
        intro hd'
        have hno := hbreak d hd
        rw [isBreak_of_isQuote hd'] at hno
        cases hno

/-- **The normal form of the tokens of a bare text is bare.** -/
theorem Sql.Scans.isBare_render {cs v u : List Char} {tokens : List Token}
    (h : Scans cs tokens v) (hcs : IsTame cs) (htokens : AreTame tokens) (hu : Stops u)
    (hbare : IsBare cs) (hu' : IsBare u) (afterBlank started : Bool) :
    IsBare (renderFrom afterBlank started tokens ++ u) := by
  induction h generalizing afterBlank started with
  | done => exact hu'
  | @cons c rest mid _ t tokens hread hscans ih =>
      have hat := (hcs c List.mem_cons_self).2
      have htail : AreTame tokens := fun t' ht' => htokens t' (List.mem_cons_of_mem t ht')
      have ih := fun afterBlank started =>
        ih (hcs.tail hread) htail (hread.isBare_rest hat hbare) afterBlank started
      by_cases hblank : t = .blank
      · subst hblank
        exact ih true started
      · have hechoes := hscans.echoes (hcs.tail hread) htail hu
        have hformat := hread.isBare_format hcs hblank (htokens t List.mem_cons_self) hechoes hbare
          (ih false true)
        rw [renderFrom_cons hblank, List.append_assoc, List.append_assoc]
        split
        · exact (isBare_cons_iff (by decide) (by decide) _).mpr hformat
        · exact hformat

end SqlGateway
