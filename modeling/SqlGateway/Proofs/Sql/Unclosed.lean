import SqlGateway.Proofs.Sql.Outside

/-!
# Which Texts the Tokenizer Refuses

The tokenizer gives up at a quoted section without its closing quote, and at an escape that names
no character. So a text is cut into tokens exactly if every quote in it is closed, as long as no
string with escapes opens where a token starts.

## Main results

* `Reads.hasOpenQuote_iff`: a token takes closed sections only.
* `exists_tokens_iff`: the texts that are cut into tokens.
* `opensNoEscapes_iff`: what the tokens of a text tell about strings with escapes.
-/

namespace SqlGateway.Sql

/-- Whether a segment is a quoted section without its closing quote. -/
def Segment.isOpen : Segment → Bool
  | .plain _ => false
  | .quoted _ _ closed => !closed

/-- A text with a quote that is not closed. -/
def HasOpenQuote (cs : List Char) : Prop :=
  ∃ s ∈ segments cs, s.isOpen = true

theorem not_hasOpenQuote_nil : ¬ HasOpenQuote [] := by
  simp [HasOpenQuote, segments]

/-- Characters that are no quotes do not count. -/
theorem hasOpenQuote_append {w : List Char} (hw : ∀ c ∈ w, isQuote c = false) (u : List Char) :
    HasOpenQuote (w ++ u) ↔ HasOpenQuote u := by
  rw [HasOpenQuote, segments_append hw, HasOpenQuote]
  simp only [List.mem_append, List.mem_map, or_and_right, exists_or]
  refine or_iff_right ?_
  rintro ⟨s, ⟨c, -, rfl⟩, hopen⟩
  cases hopen

theorem hasOpenQuote_plain {c : Char} (hc : isQuote c = false) (rest : List Char) :
    HasOpenQuote (c :: rest) ↔ HasOpenQuote rest :=
  hasOpenQuote_append (w := [c]) (by simpa using hc) rest

/-- A quote is closed, or it is the open one. -/
theorem hasOpenQuote_quote {q : Char} (hq : isQuote q = true) (rest : List Char) :
    HasOpenQuote (q :: rest) ↔
      ((readQuoted q rest).closed = true → HasOpenQuote (readQuoted q rest).rest) := by
  rw [HasOpenQuote, segments_of_quote hq]
  cases hclosed : (readQuoted q rest).closed <;> simp [Segment.isOpen, HasOpenQuote]

/-- **A token takes closed sections only**, so a quote that is open stays open behind it. -/
theorem Reads.hasOpenQuote_iff {c : Char} {rest mid : List Char} {t : Token}
    (h : Reads c rest t mid) (hat : c ≠ '@') : HasOpenQuote (c :: rest) ↔ HasOpenQuote mid := by
  have hstring : ∀ {form : StringForm} {after : List Char}, letterForm? c = some form →
      (readQuoted '\'' after).closed = true →
      (HasOpenQuote (c :: '\'' :: after) ↔ HasOpenQuote (readQuoted '\'' after).rest) := by
    intro form after hform hclosed
    rw [hasOpenQuote_plain (isQuote_of_letterForm? hform), hasOpenQuote_quote (by decide)]
    simp [hclosed]
  cases h with
  | quoted hquote hclosed =>
      rw [hasOpenQuote_quote hquote]
      simp [hclosed]
  | lettered hform hne hrest hclosed =>
      subst hrest
      exact hstring hform hclosed
  | escaped hform hrest hread =>
      subst hrest
      obtain ⟨hclosed, rfl⟩ := readQuoted_of_readEscaped? hread
      exact hstring hform hclosed
  | plain hquote hform =>
      obtain ⟨chunk, hchunk, hbreak⟩ := readPlain_chunk hat rest
      have hchars : ∀ d ∈ chunk, isQuote d = false := fun d hd =>
        (Bool.or_eq_false_iff.mp (hbreak d hd)).1
      rw [hasOpenQuote_plain hquote]
      conv_lhs => rw [hchunk]
      exact hasOpenQuote_append hchars _

/-- A quote that is open stays open behind the tokens that are read. -/
theorem Scans.hasOpenQuote_iff {cs last : List Char} {tokens : List Token}
    (h : Scans cs tokens last) (hat : '@' ∉ cs) : HasOpenQuote cs ↔ HasOpenQuote last := by
  induction h with
  | done => exact Iff.rfl
  | @cons c rest mid _ t tokens hread _ ih =>
      have hc : c ≠ '@' := fun heq => hat (heq ▸ List.mem_cons_self)
      rw [hread.hasOpenQuote_iff hc]
      exact ih fun hmem => hat (List.mem_cons_of_mem c (hread.suffix.subset hmem))

/-! ### Strings with escapes -/

/-- A text in which no string with escapes opens where a token starts. -/
def OpensNoEscapes (cs : List Char) : Prop :=
  ∀ tokens c after, Scans cs tokens (c :: '\'' :: after) → letterForm? c ≠ some .escaped

/-- What is left behind a token opens no escapes either. -/
theorem OpensNoEscapes.tail {c : Char} {rest mid : List Char} {t : Token}
    (h : OpensNoEscapes (c :: rest)) (hread : Reads c rest t mid) : OpensNoEscapes mid :=
  fun tokens d after hscans => h (t :: tokens) d after (.cons hread hscans)

/-- **A text whose quotes are closed is cut into tokens.** -/
theorem exists_tokens {cs : List Char} (hescapes : OpensNoEscapes cs) (hat : '@' ∉ cs)
    (hclosed : ¬ HasOpenQuote cs) : ∃ tokens, Scans cs tokens [] := by
  induction hlen : cs.length using Nat.strong_induction_on generalizing cs with
  | h n ih =>
      subst hlen
      cases cs with
      | nil => exact ⟨[], .done []⟩
      | cons c rest =>
          -- Some token is read at the front; the rest is shorter.
          suffices hread : ∃ t mid, Reads c rest t mid by
            obtain ⟨t, mid, hread⟩ := hread
            have hmid := hread.suffix
            have hc : c ≠ '@' := fun heq => hat (heq ▸ List.mem_cons_self)
            obtain ⟨tokens, hscans⟩ := ih mid.length (Nat.lt_succ_of_le hmid.length_le)
              (hescapes.tail hread) (fun hmem => hat (List.mem_cons_of_mem c (hmid.subset hmem)))
              (mt (hread.hasOpenQuote_iff hc).mpr hclosed) rfl
            exact ⟨t :: tokens, .cons hread hscans⟩
          by_cases hquote : isQuote c = true
          · rw [hasOpenQuote_quote hquote, Classical.not_imp] at hclosed
            exact ⟨_, _, .quoted hquote hclosed.1⟩
          rw [Bool.not_eq_true] at hquote
          by_cases hopen : (letterForm? c).isSome ∧ rest.head? = some '\''
          · obtain ⟨form, hform⟩ := Option.isSome_iff_exists.mp hopen.1
            obtain ⟨after, rfl⟩ := List.head?_eq_some_iff.mp hopen.2
            rw [hasOpenQuote_plain hquote, hasOpenQuote_quote (by decide), Classical.not_imp]
              at hclosed
            refine ⟨_, _, .lettered hform ?_ rfl hclosed.1⟩
            rintro rfl
            exact hescapes [] c after (.done _) hform
          · exact ⟨_, _, .plain hquote fun hsome hhead => hopen ⟨hsome, hhead⟩⟩

/-- **The texts that are cut into tokens** are those whose quotes are closed. -/
theorem exists_tokens_iff {cs : List Char} (hescapes : OpensNoEscapes cs) (hat : '@' ∉ cs) :
    (∃ tokens, tokenize cs = .ok tokens) ↔ ¬ HasOpenQuote cs := by
  simp only [tokenize_eq_ok_iff]
  constructor
  · rintro ⟨tokens, hscans⟩
    rw [hscans.hasOpenQuote_iff hat]
    exact not_hasOpenQuote_nil
  · exact exists_tokens hescapes hat

/-- Outside quotes no string with escapes is read. -/
theorem ReadsOutside.ne_escaped {cs u : List Char} {t : Token} (h : ReadsOutside cs t u)
    (body : List Char) : t ≠ .string .escaped body := by
  cases h with
  | mark hmark =>
      rintro rfl
      rw [mark?] at hmark
      split_ifs at hmark <;> cases hmark
  | @number c rest _ _ _ hread =>
      generalize c :: rest = cs at hread
      cases hread <;> simp
  | operator =>
      rw [operatorToken]
      split <;> simp
  | _ => simp

/-- A string with escapes is read behind its letter only. -/
theorem Reads.of_escaped {c : Char} {rest mid body : List Char} (hascii : c.toNat < 0x80)
    (hat : c ≠ '@') (h : Reads c rest (.string .escaped body) mid) :
    letterForm? c = some .escaped ∧ ∃ after, rest = '\'' :: after := by
  generalize htoken : Token.string .escaped body = t at h
  cases h with
  | quoted hquote =>
      rw [sectionToken] at htoken
      split_ifs at htoken <;> cases htoken
  | lettered _ hne =>
      cases htoken
      exact absurd rfl hne
  | escaped hform hrest => exact ⟨hform, _, hrest⟩
  | plain => exact absurd htoken.symm ((readsOutside_readPlain hascii hat rest).ne_escaped body)

/-- Behind such a letter nothing else is read. -/
theorem Reads.exists_body {c : Char} {after mid : List Char} {t : Token}
    (hform : letterForm? c = some .escaped) (h : Reads c ('\'' :: after) t mid) :
    ∃ body, t = .string .escaped body := by
  cases h with
  | quoted hquote =>
      rw [isQuote_of_letterForm? hform] at hquote
      cases hquote
  | lettered hform' hne =>
      rw [hform] at hform'
      cases hform'
      exact absurd rfl hne
  | escaped => exact ⟨_, rfl⟩
  | plain _ hopen => exact absurd rfl (hopen (by rw [hform]; rfl))

/-- No string with escapes is read of a text in which none opens. -/
theorem OpensNoEscapes.ne_escaped {cs last : List Char} {tokens : List Token}
    (hescapes : OpensNoEscapes cs) (hcs : ∀ c ∈ cs, c.toNat < 0x80 ∧ c ≠ '@')
    (h : Scans cs tokens last) : ∀ t ∈ tokens, ∀ body, t ≠ .string .escaped body := by
  induction h with
  | done => simp
  | @cons c rest mid _ t tokens hread _ ih =>
      have htail := ih (hescapes.tail hread) fun d hd =>
        hcs d (List.mem_cons_of_mem c (hread.suffix.subset hd))
      refine List.forall_mem_cons.mpr ⟨?_, htail⟩
      rintro body rfl
      obtain ⟨hascii, hat⟩ := hcs c List.mem_cons_self
      obtain ⟨hform, after, rfl⟩ := hread.of_escaped hascii hat
      exact hescapes [] c after (.done _) hform

/-- **The tokens tell whether a string with escapes opens in a text.** -/
theorem opensNoEscapes_iff {cs : List Char} {tokens : List Token}
    (hcs : ∀ c ∈ cs, c.toNat < 0x80 ∧ c ≠ '@') (h : Scans cs tokens []) :
    OpensNoEscapes cs ↔ ∀ t ∈ tokens, ∀ body, t ≠ .string .escaped body := by
  refine ⟨fun hescapes => hescapes.ne_escaped hcs h, ?_⟩
  intro htokens front c after hfront hform
  generalize hend : c :: '\'' :: after = mid at hfront
  clear hcs
  induction hfront generalizing tokens with
  | done =>
      subst hend
      cases h with
      | cons hread =>
          obtain ⟨body, rfl⟩ := hread.exists_body hform
          exact htokens _ List.mem_cons_self body rfl
  | cons hread _ ih =>
      cases h with
      | cons hread' hscans =>
          obtain ⟨rfl, rfl⟩ := hread.unique hread'
          exact ih hscans (fun t ht => htokens t (List.mem_cons_of_mem _ ht)) hend

end SqlGateway.Sql
