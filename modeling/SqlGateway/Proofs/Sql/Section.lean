import SqlGateway.Proofs.Sql.Scan

/-!
# What a Token Takes of a Text

A text without comments is divided twice: `segments` knows quoted sections and single
characters, and the tokenizer knows its tokens. This file relates the two at one token: what
the token takes is a run of whole segments, and only the semicolon takes a semicolon that
stands outside quotes.

## Main results

* `readPlain_chunk`: outside quotes, a token takes no break behind its first character.
* `isLayout_readPlain`: only a semicolon and the blanks in ASCII give tokens of their own kind.
* `Reads.exists_chunk`: a token takes whole segments, and no semicolon but its own.
-/

namespace SqlGateway.Sql

open Text

/-! ### Segments -/

/-- A character that is no quote is a segment. -/
theorem segments_of_plain {c : Char} (hq : isQuote c = false) (rest : List Char) :
    segments (c :: rest) = .plain c :: segments rest := by
  rw [segments]
  simp [hq]

/-- A quote opens a segment that runs to the end of its section. -/
theorem segments_of_quote {c : Char} (hq : isQuote c = true) (rest : List Char) :
    segments (c :: rest) =
      .quoted c (readQuoted c rest).body (readQuoted c rest).closed ::
        segments (readQuoted c rest).rest := by
  rw [segments]
  simp [hq]

/-- Characters that are no quotes are segments one by one. -/
theorem segments_append {cs : List Char} (hcs : ∀ c ∈ cs, isQuote c = false) (u : List Char) :
    segments (cs ++ u) = cs.map .plain ++ segments u := by
  induction cs with
  | nil => rfl
  | cons c cs ih =>
      rw [List.cons_append, segments_of_plain (hcs c List.mem_cons_self), List.map_cons,
        List.cons_append, ih fun d hd => hcs d (List.mem_cons_of_mem c hd)]

/-- A letter that opens a string is no quote. -/
theorem isQuote_of_letterForm? {c : Char} {form : StringForm} (h : letterForm? c = some form) :
    isQuote c = false := by
  rcases of_letterForm? h with ⟨-, rfl | rfl⟩ | ⟨-, rfl | rfl⟩ | ⟨-, rfl | rfl⟩ <;> decide

/-! ### Tokens outside quotes -/

/-- Every text is what stands before the first character of a kind, and the rest. -/
theorem exists_cut (p : Char → Bool) (cs : List Char) :
    ∃ u v, cs = u ++ v ∧ (∀ c ∈ u, p c = false) ∧ ∀ c ∈ v.head?, p c = true := by
  refine ⟨cs.takeWhile fun c => !p c, cs.dropWhile fun c => !p c, ?_, ?_, ?_⟩
  · exact List.takeWhile_append_dropWhile.symm
  · intro c hc
    simpa using List.mem_takeWhile_imp hc
  · intro c hc
    have hnot := List.head?_dropWhile_not (fun c => !p c) cs
    rw [Option.mem_def.mp hc] at hnot
    simpa using hnot

/-- Outside quotes, what a token takes behind its first character holds no break. -/
theorem readPlain_chunk {c : Char} (hc : c ≠ '@') (rest : List Char) :
    ∃ chunk, rest = chunk ++ (readPlain c rest).2 ∧ ∀ d ∈ chunk, isBreak d = false := by
  obtain ⟨u, v, rfl, hu, hv⟩ := exists_cut isBreak rest
  have hread : readPlain c (u ++ v) = _ := readPlain_append hv fun hat => absurd hat hc
  obtain ⟨chunk, hchunk⟩ := readPlain_suffix c u
  refine ⟨chunk, ?_, fun d hd => hu d ?_⟩
  · rw [hread, ← List.append_assoc, hchunk]
  · rw [← hchunk]
    exact List.mem_append_left _ hd

/-- Whether a token is a blank or a semicolon. -/
def Token.isLayout : Token → Bool
  | .blank => true
  | .semicolon => true
  | _ => false

theorem isLayout_finishNumber (digits rest : List Char) :
    (finishNumber digits rest).1.isLayout = false := by
  rw [finishNumber]
  split
  · rfl
  · rfl
  · dsimp only
    split
    · rfl
    · split <;> rfl

/-- What is read from a digit or a point is no blank and no semicolon. -/
theorem isLayout_readNumber (cs : List Char) : (readNumber cs).1.isLayout = false := by
  rw [readNumber]
  dsimp only
  split
  · rfl
  · split
    · rfl
    · exact isLayout_finishNumber _ _
  · exact isLayout_finishNumber _ _

/-- What is read from the sign `@` is no blank and no semicolon. -/
theorem isLayout_readAt (rest : List Char) : (readAt rest).1.isLayout = false := by
  unfold readAt
  split <;> try rfl
  split <;> rfl

theorem isLayout_operatorToken (op : List Char) : (operatorToken op).isLayout = false := by
  rw [operatorToken]
  split <;> rfl

/-- A semicolon stands for itself. -/
theorem readPlain_semicolon (rest : List Char) : readPlain ';' rest = (.semicolon, rest) := rfl

/-- The blanks in ASCII. -/
theorem eq_of_isBlank_of_ascii {c : Char} (hb : isBlank c = true) (hc : c.toNat < 0x80) :
    c = ' ' ∨ c = '\t' ∨ c = '\n' ∨ c = '\r' ∨ c = '\x0b' ∨ c = '\x0c' := by
  have hchar : ∀ d : Char, c.toNat = d.toNat → c = d := fun d h =>
    Char.ext (UInt32.toNat_inj.mp h)
  have hn : c.toNat = 32 ∨ c.toNat = 9 ∨ c.toNat = 10 ∨ c.toNat = 13 ∨ c.toNat = 11 ∨
      c.toNat = 12 := by
    simp only [isBlank, Bool.or_eq_true, Bool.and_eq_true, decide_eq_true_eq, beq_iff_eq] at hb
    omega
  exact hn.imp (hchar ' ') (Or.imp (hchar '\t') (Or.imp (hchar '\n') (Or.imp (hchar '\r')
    (Or.imp (hchar '\x0b') (hchar '\x0c')))))

/-- A blank in ASCII is a token. -/
theorem readPlain_of_isBlank {c : Char} (hb : isBlank c = true) (hc : c.toNat < 0x80)
    (rest : List Char) : readPlain c rest = (.blank, rest) := by
  rcases eq_of_isBlank_of_ascii hb hc with rfl | rfl | rfl | rfl | rfl | rfl <;> rfl

/-- A blank past ASCII can start a word. -/
theorem isWordStart_of_isBlank {c : Char} (hb : isBlank c = true) (hc : 0x80 ≤ c.toNat) :
    isWordStart c = true := by
  have hle : c.toNat ≤ 0xFFFF := by
    simp only [isBlank, Bool.or_eq_true, Bool.and_eq_true, decide_eq_true_eq, beq_iff_eq] at hb
    omega
  simp [isWordStart, hc, hle]

/-- No digit starts a word. -/
theorem isDigit_of_isWordStart {c : Char} (h : isWordStart c = true) : c.isDigit = false := by
  by_contra hd
  rw [Bool.not_eq_false, Char.isDigit, Bool.and_eq_true, decide_eq_true_eq,
    decide_eq_true_eq] at hd
  have hn : 48 ≤ c.toNat ∧ c.toNat ≤ 57 := hd
  have hmem : c.toNat ∈ List.range' 48 10 := by simp; omega
  have hall : ∀ n ∈ List.range' 48 10, isWordStart (Char.ofNat n) = false := by decide
  have := hall _ hmem
  rw [Char.ofNat_toNat, h] at this
  cases this

/-- A character that starts a word and is not `@` opens a word. -/
theorem readPlain_of_isWordStart {c : Char} (h : isWordStart c = true) (hat : c ≠ '@')
    (rest : List Char) : readPlain c rest = readWord (c :: rest) := by
  have hne : ∀ d, isWordStart d = false → (c == d) = false := fun d hd => by
    rw [beq_eq_false_iff_ne]
    rintro rfl
    rw [h] at hd
    cases hd
  rw [readPlain, readSign, hne ' ' (by decide), hne '\t' (by decide), hne '\n' (by decide),
    hne '\r' (by decide), hne '.' (by decide), hne '(' (by decide), hne ')' (by decide),
    hne ',' (by decide), hne ';' (by decide), hne '?' (by decide), isDigit_of_isWordStart h, h,
    beq_eq_false_iff_ne.mpr hat]
  rfl

/-- Outside quotes, nothing but a semicolon and the blanks in ASCII give layout tokens. -/
theorem isLayout_readPlain {c : Char} (hsemi : c ≠ ';')
    (hblank : ¬ (isBlank c = true ∧ c.toNat < 0x80)) (rest : List Char) :
    (readPlain c rest).1.isLayout = false := by
  rw [readPlain]
  split
  · rename_i hc
    have : c = ' ' ∨ c = '\t' ∨ c = '\n' ∨ c = '\r' := by simpa [or_assoc] using hc
    rcases this with rfl | rfl | rfl | rfl <;> exact absurd (by decide) hblank
  split; · exact isLayout_readNumber _
  rw [readSign]
  split; · rfl
  split; · rfl
  split; · rfl
  split; · simp_all
  split; · exact isLayout_readAt rest
  split; · rfl
  split; · rfl
  rename_i hword
  split
  · exact isLayout_operatorToken _
  split
  · rename_i hb
    have hpast : 0x80 ≤ c.toNat := Nat.not_lt.mp fun h => hblank ⟨hb, h⟩
    exact absurd (isWordStart_of_isBlank hb hpast) hword
  · rfl

/-- A token that starts with a blank is that blank, or a word if the blank is past ASCII. -/
theorem Reads.of_isBlank {c : Char} {rest last : List Char} {t : Token}
    (h : Reads c rest t last) (hb : isBlank c = true) :
    (c.toNat < 0x80 ∧ (t, last) = (.blank, rest)) ∨
      (0x80 ≤ c.toNat ∧ (t, last) = readWord (c :: rest)) := by
  have hne : ∀ d, isBlank d = false → c ≠ d := by
    rintro d hd rfl
    rw [hb] at hd
    cases hd
  have hform : ∀ form, letterForm? c ≠ some form := by
    intro form hform
    rcases of_letterForm? hform with ⟨-, hc | hc⟩ | ⟨-, hc | hc⟩ | ⟨-, hc | hc⟩ <;>
      exact hne _ (by decide) hc
  cases h with
  | quoted hquote =>
      rcases isQuote_iff.mp hquote with hc | hc | hc <;> exact absurd hc (hne _ (by decide))
  | lettered hsome => exact absurd hsome (hform _)
  | escaped hsome => exact absurd hsome (hform _)
  | plain =>
      by_cases hc : c.toNat < 0x80
      · exact .inl ⟨hc, readPlain_of_isBlank hb hc rest⟩
      · have hpast : 0x80 ≤ c.toNat := Nat.not_lt.mp hc
        exact .inr ⟨hpast, readPlain_of_isWordStart (isWordStart_of_isBlank hb hpast)
          (hne '@' (by decide)) rest⟩

/-! ### Tokens and segments -/

/-- What a token takes of a text, as segments: a semicolon takes itself, a blank takes
itself, and any other token takes something of substance and no semicolon outside quotes. -/
inductive Takes : Token → List Segment → Prop
  | semicolon : Takes .semicolon [.plain ';']
  | blank {c : Char} (hb : isBlank c = true) (hascii : c.toNat < 0x80) :
      Takes .blank [.plain c]
  | substance {t : Token} {c : Char} {chunk : List Segment} (hlayout : t.isLayout = false)
      (hsemi : c ≠ ';') (hblank : ¬ (isBlank c = true ∧ c.toNat < 0x80))
      (hchunk : ∀ s ∈ chunk, s.isSemicolon = false) : Takes t (.plain c :: chunk)
  | quoted {t : Token} {quote : Char} {body : List Char} (hlayout : t.isLayout = false) :
      Takes t [.quoted quote body true]

/-- A letter that opens a string takes itself and the section behind it. -/
theorem exists_chunk_of_letterForm? {c : Char} {form : StringForm} {after : List Char}
    (h : letterForm? c = some form) (hclosed : (readQuoted '\'' after).closed = true)
    (form' : StringForm) (body : List Char) :
    ∃ chunk, segments (c :: '\'' :: after) =
        chunk ++ segments (readQuoted '\'' after).rest ∧
      Takes (.string form' body) chunk := by
  have hc : c ≠ ';' ∧ isBlank c = false := by
    rcases of_letterForm? h with ⟨-, rfl | rfl⟩ | ⟨-, rfl | rfl⟩ | ⟨-, rfl | rfl⟩ <;> decide
  refine ⟨[.plain c, .quoted '\'' (readQuoted '\'' after).body true], ?_, ?_⟩
  · rw [segments_of_plain (isQuote_of_letterForm? h), segments_of_quote rfl, hclosed]
    rfl
  · exact .substance rfl hc.1 (by simp [hc.2]) (by simp [Segment.isSemicolon])

/-- **A token takes whole segments.** -/
theorem Reads.exists_chunk {c : Char} {rest last : List Char} {t : Token}
    (h : Reads c rest t last) (hat : c ≠ '@') :
    ∃ chunk, segments (c :: rest) = chunk ++ segments last ∧ Takes t chunk := by
  cases h with
  | quoted hquote hclosed =>
      refine ⟨[.quoted c (readQuoted c rest).body true], ?_, .quoted ?_⟩
      · rw [segments_of_quote hquote, hclosed]
        rfl
      · rw [sectionToken]
        split <;> rfl
  | lettered hform hne hrest hclosed =>
      subst hrest
      exact exists_chunk_of_letterForm? hform hclosed _ _
  | escaped hform hrest hread =>
      subst hrest
      obtain ⟨hclosed, hlast⟩ := readQuoted_of_readEscaped? hread
      subst hlast
      exact exists_chunk_of_letterForm? hform hclosed _ _
  | plain hquote hform =>
      by_cases hsemi : c = ';'
      · subst hsemi
        refine ⟨[.plain ';'], ?_, .semicolon⟩
        rw [segments_of_plain hquote, readPlain_semicolon]
        rfl
      by_cases hblank : isBlank c = true ∧ c.toNat < 0x80
      · rw [readPlain_of_isBlank hblank.1 hblank.2]
        refine ⟨[.plain c], ?_, .blank hblank.1 hblank.2⟩
        rw [segments_of_plain hquote]
        rfl
      obtain ⟨chunk, hchunk, hbreak⟩ := readPlain_chunk hat rest
      refine ⟨.plain c :: chunk.map .plain, ?_,
        .substance (isLayout_readPlain hsemi hblank rest) hsemi hblank ?_⟩
      · rw [segments_of_plain hquote]
        have hquote' : ∀ d ∈ chunk, isQuote d = false := fun d hd =>
          (Bool.or_eq_false_iff.mp (hbreak d hd)).1
        have hrest := segments_append hquote' (readPlain c rest).2
        rw [← hchunk] at hrest
        rw [hrest]
        rfl
      · intro s hs
        obtain ⟨d, hd, rfl⟩ := List.mem_map.mp hs
        exact (Bool.or_eq_false_iff.mp (hbreak d hd)).2

end SqlGateway.Sql
