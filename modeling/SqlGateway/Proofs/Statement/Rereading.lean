import SqlGateway.Proofs.Statement.Spelling
import SqlGateway.Proofs.Statement.Likeness

/-!
# Reading the Normal Form

The tokens that are read from the normal form of a statement are those of the statement, with four
exceptions.

* A run of operators may be cut in another way, since `!=` is written `<>`.
* A hexadecimal string written `X'…'` takes a string directly behind it into its body.
* A number with an exponent takes the first letter of a keyword directly behind it that starts
  with an `l`, since the letter has become the mark of a long number. What is left of the keyword
  is a word.
* What is left of the keyword `ln` opens a string directly behind it.

None of these changes what is written, so the normal form is its own normal form. Nor do they
change what is read of the statement, since only tokens that are passed over are concerned, but
for one word: `limit` directly behind a number with an exponent is no longer there.

## Main results

* `likens_dropGlued`: what is lost concerns the limit only.
* `ScansPiece.exists_rereadsAs`: what is read from the normal form of the tokens of a text.
-/

namespace SqlGateway

open Sql Text Statement

/-! ### What is passed over and what is lost -/

/-- Words that decide nothing about a statement where they stand behind a number. -/
def idleWord (name : String) : Bool :=
  !("LIMIT" :: decisiveWords).contains name

theorem idleWord_of_mem {name : String} (h : name ∈ decisiveWords) : idleWord name = false := by
  simp [idleWord, h]

theorem idleWord_limit : idleWord "LIMIT" = false := by
  simp [idleWord]

/-- Whether a word is `limit`, with a first letter that becomes a capital in the normal form. -/
def isGluedLimit (w : List Char) : Bool :=
  w.head? == some 'l' && String.ofList (upper w) == "LIMIT"

/-- The tokens without the word `limit` where it stands directly behind a number. -/
def dropGlued : List Token → List Token
  | [] => []
  | .number digits false :: .word w :: rest =>
    if isGluedLimit w then .number digits false :: dropGlued rest
    else .number digits false :: dropGlued (.word w :: rest)
  | t :: rest => t :: dropGlued rest

/-- The tokens that are no blanks. -/
def substance (tokens : List Token) : List Token :=
  tokens.filter (· != .blank)

theorem substance_cons {t : Token} (h : t ≠ .blank) (tokens : List Token) :
    substance (t :: tokens) = t :: substance tokens := by
  simp [substance, h]

theorem substance_blank (tokens : List Token) :
    substance (.blank :: tokens) = substance tokens := rfl

/-- Nothing is lost at a token that is no number with the word behind it. -/
theorem dropGlued_cons {t : Token} {tokens : List Token}
    (h : ∀ digits w rest, t = .number digits false → tokens = .word w :: rest →
      isGluedLimit w = false) : dropGlued (t :: tokens) = t :: dropGlued tokens := by
  rw [dropGlued.eq_def]
  split
  · rename_i heq
    cases heq
  · rename_i heq
    cases heq
    rw [h _ _ _ rfl rfl]
    rfl
  · rename_i heq
    cases heq
    rfl

/-- Words that decide nothing but the limit of a statement where they stand behind a number. -/
def undecidedWord (name : String) : Bool :=
  !decisiveWords.contains name

/-- A statement without the word is like the statement, if a limit is not told. -/
theorem likens_dropGlued (tokens : List Token) :
    Likens undecidedWord false (substance tokens) (substance (dropGlued tokens)) := by
  fun_induction dropGlued tokens with
  | case1 => exact .nil false
  | case2 digits w rest hglued ih =>
      rw [isGluedLimit, Bool.and_eq_true, beq_iff_eq, beq_iff_eq] at hglued
      have hlimit : undecidedWord "LIMIT" = true := by decide
      rw [substance_cons (by simp), substance_cons (by simp), substance_cons (by simp)]
      exact .noise rfl rfl (.skip (by simp [Token.isIdle, Token.keyword?, hglued.2, hlimit])
        (ih.weaken true))
  | case3 digits w rest hglued ih =>
      rw [substance_cons (by simp), substance_cons (by simp)]
      exact .same (.refl _) ih
  | case4 t rest hnumber ih =>
      by_cases ht : t = .blank
      · subst ht
        exact ih
      · rw [substance_cons ht, substance_cons ht]
        exact .same (.refl t) ih

/-! ### Runs of operators -/

/-- What is written of an operator is made of operator characters. -/
theorem isOperatorChar_text_operatorToken {cs op u : List Char} (hcs : IsTame cs)
    (h : splitOperator? cs = some (op, u)) :
    ∀ c ∈ (operatorToken op).text, isOperatorChar c = true := by
  obtain ⟨hop, rfl⟩ := of_splitOperator? h
  rw [text_operatorToken]
  split
  · exact List.all_eq_true.mp (by decide)
  · intro c hc
    exact isOperatorChar_of_mem hop (by simpa using hc) (hcs c (List.mem_append_left u hc)).2

/-- The signs of a run of operators. -/
structure IsRun (signs : List Token) (cs : List Char) : Prop where
  exists_text : ∀ t ∈ signs, ∃ text, t = .sign text
  text_ne_nil : ∀ t ∈ signs, t.text ≠ []
  isOperatorChar : ∀ c ∈ signs.flatMap Token.text, isOperatorChar c = true
  quiet : quiet false (signs.flatMap Token.text) = true
  head : ∀ c ∈ (signs.flatMap Token.text).head?, cs.head? = some c ∨ c = '<'

theorem text_operatorToken_ne_nil {cs op u : List Char} (h : splitOperator? cs = some (op, u)) :
    (operatorToken op).text ≠ [] := by
  have hne : ∀ op ∈ operators, op.toList ≠ [] := by decide
  have hop := hne _ (of_splitOperator? h).1
  rw [text_operatorToken]
  split
  · simp
  · simpa using hop

/-- What is written of an operator starts as the text does, or with the sign that is written for
an exclamation mark. -/
theorem head?_text_operatorToken {cs op u : List Char} (h : splitOperator? cs = some (op, u))
    (more : List Char) :
    ∀ c ∈ ((operatorToken op).text ++ more).head?, cs.head? = some c ∨ c = '<' := by
  obtain ⟨hop, rfl⟩ := of_splitOperator? h
  have hne : ∀ op ∈ operators, op.toList ≠ [] := by decide
  obtain ⟨d, rest, rfl⟩ := List.exists_cons_of_ne_nil (by simpa using hne _ hop)
  rw [text_operatorToken]
  intro c hc
  split at hc
  · cases hc
    exact .inr rfl
  · exact .inl hc

/-- The operators at the front of the tokens of a text. -/
theorem Sql.Scans.exists_run {cs v : List Char} {tokens : List Token} (h : Scans cs tokens v)
    (hcs : IsTame cs) (hv : ∀ c ∈ v.head?, isOperatorChar c = false) :
    ∃ signs more mid, tokens = signs ++ more ∧ Scans mid more v ∧ mid <:+ cs ∧
      (∀ c ∈ mid.head?, isOperatorChar c = false) ∧ IsRun signs cs ∧
      ((∃ c ∈ cs.head?, isOperatorChar c = true) → signs ≠ []) := by
  induction h with
  | done cs =>
      refine ⟨[], [], cs, rfl, .done cs, List.suffix_rfl, hv, ⟨by simp, by simp, by simp, rfl, by simp⟩, ?_⟩
      rintro ⟨c, hc, hoperator⟩
      rw [hv c hc] at hoperator
      cases hoperator
  | @cons c rest mid _ t tokens hread hscans ih =>
      by_cases hoperator : isOperatorChar c = true
      swap
      · refine ⟨[], t :: tokens, c :: rest, rfl, .cons hread hscans, List.suffix_rfl, ?_,
          ⟨by simp, by simp, by simp, rfl, by simp⟩, ?_⟩
        · simpa using hoperator
        · simpa using hoperator
      obtain ⟨op, u, hsplit⟩ := exists_splitOperator? hoperator rest
      obtain ⟨rfl, rfl⟩ := hread.unique (reads_operator hoperator hsplit)
      obtain ⟨signs, more, last, rfl, hmore, hlast, hhead, hrun, -⟩ := ih (hcs.tail hread) hv
      refine ⟨operatorToken op :: signs, more, last, rfl, hmore,
        hlast.trans (hread.suffix.trans (List.suffix_cons c rest)), hhead, ⟨?_, ?_, ?_, ?_, ?_⟩,
        by simp⟩
      · rw [List.forall_mem_cons]
        refine ⟨?_, hrun.exists_text⟩
        rw [operatorToken]
        split
        · exact ⟨_, rfl⟩
        · exact ⟨_, rfl⟩
      · rw [List.forall_mem_cons]
        exact ⟨text_operatorToken_ne_nil hsplit, hrun.text_ne_nil⟩
      · rw [List.flatMap_cons]
        intro d hd
        rcases List.mem_append.mp hd with hd | hd
        · exact isOperatorChar_text_operatorToken hcs hsplit d hd
        · exact hrun.isOperatorChar d hd
      · rw [List.flatMap_cons]
        exact quiet_append hsplit hrun.quiet hrun.head
      · rw [List.flatMap_cons]
        exact head?_text_operatorToken hsplit _

/-- The normal form of signs is what they are written as. -/
theorem renderFrom_signs {signs : List Token} (h : ∀ t ∈ signs, ∃ text, t = .sign text)
    (tokens : List Token) :
    renderFrom false true (signs ++ tokens) =
      signs.flatMap Token.text ++ renderFrom false true tokens := by
  rw [renderFrom_append_of_forall fun t ht => ?_]
  · refine congrArg (· ++ renderFrom false true tokens) (List.flatMap_congr fun t ht => ?_)
    obtain ⟨text, rfl⟩ := h t ht
    rfl
  · obtain ⟨text, rfl⟩ := h t ht
    simp

theorem dropGlued_signs {signs : List Token} (h : ∀ t ∈ signs, ∃ text, t = .sign text)
    (tokens : List Token) : dropGlued (signs ++ tokens) = signs ++ dropGlued tokens := by
  induction signs with
  | nil => rfl
  | cons t signs ih =>
      obtain ⟨text, rfl⟩ := h t List.mem_cons_self
      rw [List.cons_append, dropGlued_cons (by simp),
        ih fun u hu => h u (List.mem_cons_of_mem _ hu), List.cons_append]

theorem substance_signs {signs : List Token} (h : ∀ t ∈ signs, ∃ text, t = .sign text)
    (tokens : List Token) : substance (signs ++ tokens) = signs ++ substance tokens := by
  rw [substance, List.filter_append, List.filter_eq_self.mpr, substance]
  intro t ht
  obtain ⟨text, rfl⟩ := h t ht
  simp

/-- One run of operators is as good as another. -/
theorem likens_signs {idle : String → Bool} {signs signs' l l' : List Token}
    (h : ∀ t ∈ signs, ∃ text, t = .sign text) (h' : ∀ t ∈ signs', ∃ text, t = .sign text)
    (hne : signs ≠ []) (hne' : signs' ≠ []) (hrest : Likens idle false l l') :
    Likens idle false (signs ++ l) (signs' ++ l') := by
  have hskip : ∀ more : List Token, (∀ t ∈ more, ∃ text, t = .sign text) →
      Likens idle true l (more ++ l') := by
    intro more hmore
    induction more with
    | nil => exact hrest.weaken true
    | cons t more ih =>
        obtain ⟨text, rfl⟩ := hmore t List.mem_cons_self
        exact .skipOther rfl (ih fun u hu => hmore u (List.mem_cons_of_mem _ hu))
  have hboth : ∀ more : List Token, (∀ t ∈ more, ∃ text, t = .sign text) →
      ∀ more' : List Token, (∀ t ∈ more', ∃ text, t = .sign text) →
        Likens idle true (more ++ l) (more' ++ l') := by
    intro more hmore more' hmore'
    induction more with
    | nil => exact hskip more' hmore'
    | cons t more ih =>
        obtain ⟨text, rfl⟩ := hmore t List.mem_cons_self
        exact .skip rfl (ih fun u hu => hmore u (List.mem_cons_of_mem _ hu))
  obtain ⟨t, more, rfl⟩ := List.exists_cons_of_ne_nil hne
  obtain ⟨t', more', rfl⟩ := List.exists_cons_of_ne_nil hne'
  obtain ⟨text, rfl⟩ := h t List.mem_cons_self
  obtain ⟨text', rfl⟩ := h' t' List.mem_cons_self
  exact .noise rfl rfl (hboth more (fun u hu => h u (List.mem_cons_of_mem _ hu)) more'
    fun u hu => h' u (List.mem_cons_of_mem _ hu))

/-! ### Words -/

/-- A word is made of characters of the text. -/
theorem Sql.Reads.isTame_word {c : Char} {rest mid v : List Char} (h : Reads c rest (.word v) mid)
    (hcs : IsTame (c :: rest)) : IsTame v := by
  obtain ⟨hc, hat⟩ := hcs c List.mem_cons_self
  have hnumber : ∀ {cs u : List Char}, ReadsNumber cs (.word v) u → ∀ d ∈ v, d ∈ cs := by
    intro cs u hread
    generalize htoken : Token.word v = t at hread
    cases hread <;> cases htoken
    exact fun d hd => List.mem_append_left _ hd
  have hpart : ∀ {cs u : List Char}, ReadsOutside cs (.word v) u → ∀ d ∈ v, d ∈ cs := by
    intro cs u hread
    generalize htoken : Token.word v = t at hread
    cases hread with
    | word =>
        cases htoken
        exact fun d hd => List.mem_append_left _ hd
    | number _ hread =>
        cases htoken
        exact hnumber hread
    | operator =>
        rw [operatorToken] at htoken
        split at htoken <;> cases htoken
    | mark hmark =>
        rw [mark?] at hmark
        split_ifs at hmark <;> cases hmark <;> cases htoken
    | _ => cases htoken
  generalize htoken : Token.word v = t at h
  cases h with
  | quoted hquote =>
      rcases isQuote_iff.mp hquote with rfl | rfl | rfl <;> cases htoken
  | plain =>
      have hread := readsOutside_readPlain hc hat rest
      rw [← htoken] at hread
      exact fun d hd => hcs d (hpart hread d hd)
  | _ => cases htoken

/-- What is read again is written as before. -/
theorem formatToken_settled (t : Token) : formatToken (settled t) = formatToken t := by
  cases t with
  | word v =>
      rw [settled, formatToken_word, formatToken_word]
      by_cases hkey : isKeyword v = true
      · rw [if_pos hkey, upper_upper, ite_self]
      · rw [if_neg hkey, if_neg hkey]
  | _ => rfl

/-- What is read again agrees with what was read. -/
theorem agrees_settled {t : Token} (ht : ∀ v, t = .word v → IsTame v) : t.Agrees (settled t) := by
  cases t with
  | word v =>
      rw [settled, formatToken_word]
      split
      swap
      · exact .refl _
      have hv : ∀ c ∈ v, c.toNat < 0x80 := fun c hc => (ht v rfl c hc).1
      refine .word (upper_upper v).symm ?_ ?_
      · rw [upper_of_ascii hv, List.map_map]
        refine List.map_congr_left fun c hc => ?_
        exact of_ascii (p := fun c => c.toLower = c.toUpper.toLower) (by decide) (hv c hc)
      · rw [upper_of_ascii hv, List.head?_map]
        cases v with
        | nil => simp
        | cons c v =>
            have hsign := (of_toUpper (hv c List.mem_cons_self)).2.2.2
            simp [hsign]
  | _ => exact .refl _

theorem settled_ne {t : Token} (hblank : t ≠ .blank) (hsemi : t ≠ .semicolon) :
    settled t ≠ .blank ∧ settled t ≠ .semicolon := by
  cases t <;> simp_all [settled]

/-! ### One token after another -/

/-- What is known of the tokens that are read from the normal form of others. The flag tells
whether blanks stood in front. -/
structure RereadsAs (u : List Char) (afterBlank : Bool) (tokens tokens' : List Token) : Prop where
  scans : Scans (renderFrom afterBlank true tokens ++ u) tokens' u
  render_eq : renderFrom false true tokens' = renderFrom afterBlank true tokens
  likens : Likens idleWord false (substance (dropGlued tokens)) (substance tokens')
  semicolon : ∀ t ∈ tokens', t ≠ .semicolon

namespace RereadsAs

variable {u : List Char} {tokens tokens' : List Token}

theorem nil (u : List Char) (afterBlank : Bool) : RereadsAs u afterBlank [] [] :=
  ⟨.done u, rfl, .nil false, by simp⟩

/-- Blanks count only in front of other tokens. -/
theorem blank (h : RereadsAs u true tokens tokens') (afterBlank : Bool) :
    RereadsAs u afterBlank (.blank :: tokens) tokens' where
  scans := h.scans
  render_eq := h.render_eq
  likens := by
    rw [dropGlued_cons (by simp), substance_blank]
    exact h.likens
  semicolon := h.semicolon

/-- In front of other tokens they are one blank. -/
theorem afterBlank {t t' : Token} (ht : t ≠ .blank) (ht' : t' ≠ .blank)
    (h : RereadsAs u false (t :: tokens) (t' :: tokens')) :
    RereadsAs u true (t :: tokens) (.blank :: t' :: tokens') := by
  have hspace : renderFrom true true (t :: tokens) = ' ' :: renderFrom false true (t :: tokens) := by
    rw [renderFrom_cons ht, renderFrom_cons ht]
    rfl
  refine ⟨?_, ?_, h.likens, ?_⟩
  · rw [hspace]
    exact .cons (.plain (by decide) (by simp [letterForm?])) h.scans
  · rw [hspace, ← h.render_eq, renderFrom, renderFrom_cons ht', renderFrom_cons ht']
    rfl
  · rw [List.forall_mem_cons]
    exact ⟨by simp, h.semicolon⟩

/-- One token that is written as another is read as it. -/
theorem cons {t t' : Token} {d : Char} {ds : List Char} (ht : t ≠ .blank)
    (ht' : t' ≠ .blank ∧ t' ≠ .semicolon) (htext : formatToken t' = formatToken t)
    (hsource : formatToken t ++ (renderFrom false true tokens ++ u) = d :: ds)
    (hread : Reads d ds t' (renderFrom false true tokens ++ u))
    (hlikens : Likens idleWord false (substance (dropGlued tokens)) (substance tokens') →
      Likens idleWord false (substance (dropGlued (t :: tokens))) (t' :: substance tokens'))
    (h : RereadsAs u false tokens tokens') : RereadsAs u false (t :: tokens) (t' :: tokens') := by
  have hrender : renderFrom false true (t :: tokens) =
      formatToken t ++ renderFrom false true tokens := by
    rw [renderFrom_cons ht]
    rfl
  refine ⟨?_, ?_, ?_, ?_⟩
  · rw [hrender, List.append_assoc, hsource]
    exact .cons hread h.scans
  · rw [hrender, renderFrom_cons ht'.1, htext, h.render_eq]
    rfl
  · rw [substance_cons ht'.1]
    exact hlikens h.likens
  · rw [List.forall_mem_cons]
    exact ⟨ht'.2, h.semicolon⟩

/-- A run of operators is read as another run. -/
theorem signs {signs : List Token} {cs : List Char} (hrun : IsRun signs cs) (hne : signs ≠ [])
    (hhead : ∀ c ∈ (renderFrom false true tokens ++ u).head?, isOperatorChar c = false)
    (hat : (renderFrom false true tokens ++ u).head? ≠ some '@')
    (h : RereadsAs u false tokens tokens') :
    ∃ t' more, t' ≠ .blank ∧ RereadsAs u false (signs ++ tokens) (t' :: more) := by
  obtain ⟨signs', hscans, htext, hsigns⟩ :=
    exists_scans_of_quiet hrun.isOperatorChar hrun.quiet hhead hat
  have hne' : signs' ≠ [] := by
    rintro rfl
    have hall : ∀ t ∈ signs, t.text = [] := List.flatMap_eq_nil_iff.mp htext.symm
    obtain ⟨t, more, rfl⟩ := List.exists_cons_of_ne_nil hne
    exact hrun.text_ne_nil t List.mem_cons_self (hall t List.mem_cons_self)
  obtain ⟨t', more, rfl⟩ := List.exists_cons_of_ne_nil hne'
  obtain ⟨text, rfl⟩ := hsigns t' List.mem_cons_self
  refine ⟨.sign text, more ++ tokens', by simp, ?_⟩
  rw [← List.cons_append]
  refine ⟨?_, ?_, ?_, ?_⟩
  · rw [renderFrom_signs hrun.exists_text, List.append_assoc]
    exact hscans.trans h.scans
  · rw [renderFrom_signs hrun.exists_text, renderFrom_signs hsigns, htext, h.render_eq]
  · rw [dropGlued_signs hrun.exists_text, substance_signs hrun.exists_text,
      substance_signs hsigns]
    exact likens_signs hrun.exists_text hsigns hne (by simp) h.likens
  · intro t ht
    rcases List.mem_append.mp ht with ht | ht
    · obtain ⟨text, rfl⟩ := hsigns t ht
      simp
    · exact h.semicolon t ht

/-- A string directly behind a hexadecimal one is taken into its body. -/
theorem merge {digits body : List Char} (hdigits : ∀ c ∈ digits, isHexDigit c = true)
    (hbody : IsBody '\'' body)
    (hhead : (renderFrom false true tokens ++ u).head? ≠ some '\'')
    (h : RereadsAs u false tokens tokens') :
    RereadsAs u false (.string .hex digits :: .string .single body :: tokens)
      (.string .hex (digits ++ '\'' :: '\'' :: body) :: tokens') := by
  have hmerged : IsBody '\'' (digits ++ '\'' :: '\'' :: body) := by
    intro rest hrest
    rw [List.append_assoc, readQuoted_append fun c hc =>
      ⟨ne_quote_of_not_isBreak (plain_of_isHexDigit (hdigits c hc)).1,
        (plain_of_isHexDigit (hdigits c hc)).2⟩, hbody.double (by decide) rest hrest]
    rfl
  have hrender : renderFrom false true (.string .hex digits :: .string .single body :: tokens) =
      'X' :: '\'' :: ((digits ++ '\'' :: '\'' :: body) ++
        '\'' :: renderFrom false true tokens) := by
    simp [renderFrom, formatToken, Token.text, Token.opening, Token.closing]
  refine ⟨?_, ?_, ?_, ?_⟩
  · have hread : Reads 'X' _ _ _ := reads_lettered rfl (by simp) hmerged hhead
    rw [hrender]
    simpa using Scans.cons hread h.scans
  · rw [hrender, renderFrom_cons (by simp), h.render_eq]
    simp [formatToken, Token.text, Token.opening, Token.closing]
  · rw [dropGlued_cons (by simp), dropGlued_cons (by simp), substance_cons (by simp),
      substance_cons (by simp), substance_cons (by simp)]
    exact .noise rfl rfl (.skip rfl (h.likens.weaken true))
  · rw [List.forall_mem_cons]
    exact ⟨by simp, h.semicolon⟩

end RereadsAs

/-! ### Keywords behind a number -/

/-- The keywords that start with an `L`. -/
def lKeywords : List String := [
  "LAG", "LANGUAGE", "LARGE", "LAST", "LAST_VALUE", "LATERAL", "LEAD", "LEADING", "LEFT", "LEVEL",
  "LIKE", "LIKE_REGEX", "LIMIT", "LINES", "LN", "LOAD", "LOCAL", "LOCALTIME", "LOCALTIMESTAMP",
  "LOCATION", "LOCK", "LOCKED", "LOGIN", "LOGS", "LOWCARDINALITY", "LOWER", "LOW_PRIORITY"]

theorem filter_keywords : keywords.filter (firstByte? · == some 76) = lKeywords := by
  decide +kernel

/-- What is left of a keyword without its first letter: a word, of one letter for `LN` alone.
Neither it nor the keyword decides anything, unless the keyword is `LIMIT`. -/
structure IsTail (tail : List Char) : Prop where
  head : tail.head?.any (fun c => isWordStart c && c != '@') = true
  parts : tail.all isWordPart = true
  single : tail.length = 1 → tail = ['N']
  keyword : 'L' :: tail = "LIMIT".toList ∨ idleWord (String.ofList ('L' :: tail)) = true
  idle : idleWord (String.ofList tail) = true

instance (tail : List Char) : Decidable (IsTail tail) :=
  decidable_of_iff (tail.head?.any (fun c => isWordStart c && c != '@') = true ∧
      tail.all isWordPart = true ∧ (tail.length = 1 → tail = ['N']) ∧
      ('L' :: tail = "LIMIT".toList ∨ idleWord (String.ofList ('L' :: tail)) = true) ∧
      idleWord (String.ofList tail) = true)
    ⟨fun ⟨h₁, h₂, h₃, h₄, h₅⟩ => ⟨h₁, h₂, h₃, h₄, h₅⟩,
      fun ⟨h₁, h₂, h₃, h₄, h₅⟩ => ⟨h₁, h₂, h₃, h₄, h₅⟩⟩

/-- The keywords that start with an `l` in the text. -/
theorem isTail_of_isKeyword {w : List Char} (h : isKeyword ('l' :: w) = true) :
    IsTail (upper w) := by
  have hupper : upper ('l' :: w) = 'L' :: upper w := rfl
  have hmem : String.ofList ('L' :: upper w) ∈ lKeywords := by
    rw [← filter_keywords, List.mem_filter]
    exact ⟨List.contains_iff_mem.mp h, by rw [firstByte?_ofList (by decide)]; rfl⟩
  have hall : lKeywords.all (fun k => decide (IsTail (k.toList.drop 1))) = true := by
    decide +kernel
  have htail := of_decide_eq_true (List.all_eq_true.mp hall _ hmem)
  rwa [String.toList_ofList] at htail

/-- The word `limit` is one of them. -/
theorem of_isGluedLimit {w : List Char} (h : isGluedLimit w = true) :
    isKeyword w = true ∧ upper w = ['L', 'I', 'M', 'I', 'T'] := by
  rw [isGluedLimit, Bool.and_eq_true, beq_iff_eq, beq_iff_eq] at h
  have hmem : "LIMIT" ∈ keywords.filter (firstByte? · == some 76) := by
    rw [filter_keywords]
    simp [lKeywords]
  refine ⟨?_, ?_⟩
  · rw [isKeyword, h.2]
    exact List.contains_iff_mem.mpr (List.mem_filter.mp hmem).1
  · rw [← String.toList_ofList (l := upper w), h.2]
    rfl

/-- A number with an exponent is long with an `L` behind it. -/
theorem Sql.ReadsNumber.long_of_head {cs mid digits : List Char}
    (h : ReadsNumber cs (.number digits false) mid) (hmid : mid.head? = some 'l')
    (fs : List Char) : ReadsNumber (digits ++ 'L' :: fs) (.number digits true) fs := by
  obtain ⟨more, rfl⟩ := List.head?_eq_some_iff.mp hmid
  generalize htoken : Token.number digits false = t at h
  cases h with
  | plain hm hexponent hu =>
      rcases hu with hstart | hpart
      · simp [startsWithE] at hstart
      · exact absurd (hpart 'l' rfl) (by decide)
  | exponent hm he =>
      cases htoken
      exact .long (hm.congr he.head?_append) he
  | _ => cases htoken

/-- The word behind a number is passed over or lost. -/
theorem likens_glued {digits digits' w : List Char} {long : Bool} {tokens l : List Token}
    (hw : isGluedLimit w = true ∨ idleWord (String.ofList (upper w)) = true)
    (h : Likens idleWord true (substance (dropGlued tokens)) l) :
    Likens idleWord false (substance (dropGlued (.number digits false :: .word w :: tokens)))
      (.number digits' long :: l) := by
  rw [dropGlued]
  split
  · rw [substance_cons (by simp)]
    exact .noise rfl rfl h
  · rename_i hglued
    have hidle := hw.resolve_left hglued
    rw [dropGlued_cons (by simp), substance_cons (by simp), substance_cons (by simp)]
    refine .noise rfl rfl (.skip ?_ h)
    simp [Token.isIdle, Token.keyword?, hidle]

/-- The keyword is lost if it is `limit`, and passed over else. -/
theorem IsTail.glued {w : List Char} (h : IsTail (upper w)) :
    isGluedLimit ('l' :: w) = true ∨ idleWord (String.ofList (upper ('l' :: w))) = true := by
  have hupper : upper ('l' :: w) = 'L' :: upper w := rfl
  rw [hupper]
  refine h.keyword.imp_left fun hlimit => ?_
  rw [isGluedLimit, hupper, hlimit, String.ofList_toList]
  rfl

namespace RereadsAs

variable {u : List Char} {tokens tokens' : List Token} {c : Char} {digits w : List Char}

/-- A keyword directly behind a number with an exponent leaves its first letter to it. -/
theorem long (hread : ∀ fs, Reads c (digits ++ 'L' :: fs) (.number (c :: digits) true) fs)
    (hkey : isKeyword ('l' :: w) = true)
    (hhead : ∀ d ∈ (renderFrom false true tokens ++ u).head?, isWordPart d = false)
    (hopen : upper w = ['N'] → (renderFrom false true tokens ++ u).head? ≠ some '\'')
    (h : RereadsAs u false tokens tokens') :
    RereadsAs u false (.number (c :: digits) false :: .word ('l' :: w) :: tokens)
      (.number (c :: digits) true :: .word (upper w) :: tokens') := by
  have htail := isTail_of_isKeyword hkey
  have hrender : renderFrom false true
        (.number (c :: digits) false :: .word ('l' :: w) :: tokens) =
      c :: (digits ++ 'L' :: (upper w ++ renderFrom false true tokens)) := by
    rw [renderFrom_cons (by simp), renderFrom_cons (by simp), formatToken_word, if_pos hkey]
    simp [formatToken, Token.text, upper, upperChar_of_ascii]
  obtain ⟨d, more, hmore⟩ : ∃ d more, upper w = d :: more := by
    cases hcons : upper w with
    | nil =>
        have hnone := htail.head
        rw [hcons] at hnone
        cases hnone
    | cons d more => exact ⟨d, more, rfl⟩
  have hword : Reads d (more ++ (renderFrom false true tokens ++ u)) (.word (d :: more))
      (renderFrom false true tokens ++ u) := by
    have hstart := htail.head
    have hparts := List.all_eq_true.mp htail.parts
    rw [hmore] at hstart hparts
    simp only [List.head?_cons, Option.any_some, Bool.and_eq_true, bne_iff_ne] at hstart
    refine reads_word hstart.1 hstart.2 (fun e he => hparts e (List.mem_cons_of_mem d he)) hhead ?_
    rintro - rfl
    exact hopen (htail.single (by rw [hmore]; rfl))
  refine ⟨?_, ?_, ?_, ?_⟩
  · rw [hrender]
    have hscans := Scans.cons (hread _) (Scans.cons hword h.scans)
    rw [← hmore] at hscans
    simpa [hmore] using hscans
  · rw [hrender, renderFrom_cons (by simp), renderFrom_cons (by simp), formatToken_word,
      upper_upper, ite_self, h.render_eq]
    simp [formatToken, Token.text]
  · rw [substance_cons (by simp), substance_cons (by simp)]
    refine likens_glued htail.glued (.skipOther ?_ (h.likens.weaken true))
    have hidle := htail.idle
    rw [← upper_upper] at hidle
    simp [Token.isIdle, Token.keyword?, hidle]
  · rw [List.forall_mem_cons, List.forall_mem_cons]
    exact ⟨by simp, by simp, h.semicolon⟩

/-- What is left of the keyword `ln` opens the string directly behind it. -/
theorem national (hread : ∀ fs, Reads c (digits ++ 'L' :: fs) (.number (c :: digits) true) fs)
    (hkey : isKeyword ('l' :: w) = true) (hn : upper w = ['N']) {body : List Char}
    (hbody : IsBody '\'' body) (hhead : (renderFrom false true tokens ++ u).head? ≠ some '\'')
    (h : RereadsAs u false tokens tokens') :
    RereadsAs u false
      (.number (c :: digits) false :: .word ('l' :: w) :: .string .single body :: tokens)
      (.number (c :: digits) true :: .string .national body :: tokens') := by
  have htail := isTail_of_isKeyword hkey
  have hrender : renderFrom false true
        (.number (c :: digits) false :: .word ('l' :: w) :: .string .single body :: tokens) =
      c :: (digits ++ 'L' :: 'N' :: '\'' :: (body ++ '\'' :: renderFrom false true tokens)) := by
    have hupper : upper ('l' :: w) = ['L', 'N'] := congrArg ('L' :: ·) hn
    rw [renderFrom_cons (by simp), renderFrom_cons (by simp), renderFrom_cons (by simp),
      formatToken_word, if_pos hkey, hupper]
    simp [formatToken, Token.text, Token.opening, Token.closing]
  refine ⟨?_, ?_, ?_, ?_⟩
  · rw [hrender]
    have hstring : Reads 'N' _ (.string .national body) _ :=
      reads_lettered rfl (by simp) hbody hhead
    simpa using Scans.cons (hread _) (Scans.cons hstring h.scans)
  · rw [hrender, renderFrom_cons (by simp), renderFrom_cons (by simp), h.render_eq]
    simp [formatToken, Token.text, Token.opening, Token.closing]
  · rw [substance_cons (by simp), substance_cons (by simp)]
    refine likens_glued htail.glued ?_
    rw [dropGlued_cons (by simp), substance_cons (by simp)]
    exact .noise rfl rfl (h.likens.weaken true)
  · rw [List.forall_mem_cons, List.forall_mem_cons]
    exact ⟨by simp, by simp, h.semicolon⟩

end RereadsAs

/-! ### The normal form of a piece -/

/-- A text without variables and escaped strings, of which the tokens of one statement are read up
to a blank, a semicolon or the end. -/
structure ScansPiece (cs : List Char) (tokens : List Token) (v : List Char) : Prop where
  scans : Scans cs tokens v
  isTame : IsTame cs
  areTame : AreTame tokens
  semicolon : ∀ t ∈ tokens, t ≠ .semicolon
  stops : Stops v

namespace ScansPiece

variable {cs mid v u : List Char} {tokens more : List Token}

/-- What is left of a piece is a piece. -/
theorem suffix (h : ScansPiece cs tokens v) (hmid : mid <:+ cs) (hmore : more <:+ tokens)
    (hscans : Scans mid more v) : ScansPiece mid more v where
  scans := hscans
  isTame := h.isTame.suffix hmid
  areTame t ht := h.areTame t (hmore.subset ht)
  semicolon t ht := h.semicolon t (hmore.subset ht)
  stops := h.stops

theorem echoes (h : ScansPiece cs tokens v) (hu : Stops u) :
    Echoes cs (renderFrom false true tokens ++ u) :=
  h.scans.echoes h.isTame h.areTame hu

/-- A quote is the start of a string. -/
theorem exists_string (h : ScansPiece cs tokens v) (hcs : cs.head? = some '\'') :
    ∃ body more mid, tokens = .string .single body :: more ∧ IsBody '\'' body ∧
      ScansPiece mid more v ∧ mid.head? ≠ some '\'' := by
  obtain ⟨rest, rfl⟩ := List.head?_eq_some_iff.mp hcs
  have hscans := h.scans
  generalize hsource : '\'' :: rest = cs at hscans
  cases hscans with
  | done =>
      subst hsource
      have hstop := h.stops '\'' rfl
      simp at hstop
  | @cons c _ mid _ t more hread hrest =>
      cases hsource
      have hpiece := h.suffix (hread.suffix.trans (List.suffix_cons _ _)) (List.suffix_cons _ _)
        hrest
      cases hread with
      | quoted hquote hclosed =>
          exact ⟨_, more, _, rfl, isBody_readQuoted (by decide) hclosed, hpiece,
            head?_rest_readQuoted hclosed⟩
      | lettered hform => exact absurd hform (by simp [letterForm?])
      | escaped hform => exact absurd hform (by simp [letterForm?])
      | plain hquote => exact absurd hquote (by decide)

/-- A letter `l` is the start of a word. -/
theorem exists_word (h : ScansPiece cs tokens v) (hcs : cs.head? = some 'l') :
    ∃ w more mid, tokens = .word ('l' :: w) :: more ∧ (∀ d ∈ w, d.toNat < 0x80) ∧
      ScansPiece mid more v ∧ ∀ d ∈ mid.head?, isWordPart d = false := by
  obtain ⟨rest, rfl⟩ := List.head?_eq_some_iff.mp hcs
  have hscans := h.scans
  generalize hsource : 'l' :: rest = cs at hscans
  cases hscans with
  | done =>
      subst hsource
      have hstop := h.stops 'l' rfl
      simp at hstop
  | @cons c _ mid _ t more hread hrest =>
      cases hsource
      have hpiece := h.suffix (hread.suffix.trans (List.suffix_cons _ _)) (List.suffix_cons _ _)
        hrest
      have hword : Reads 'l' rest _ _ :=
        (readsOutside_readPlain (by decide) (by decide) rest).reads (by decide)
          (by simp [letterForm?])
      rw [readPlain_of_isWordStart (by decide) (by decide)] at hword
      obtain ⟨rfl, rfl⟩ := hread.unique hword
      refine ⟨rest.takeWhile isWordPart, more, _, ?_, ?_, hpiece, head?_dropWhile⟩
      · rfl
      · intro d hd
        exact (h.isTame d (List.mem_cons_of_mem _ ((List.takeWhile_prefix _).subset hd))).1

end ScansPiece

/-- A letter `L` of the normal form echoes the letter. -/
theorem Echoes.head?_l {cs fs : List Char} (h : Echoes cs fs) (hfs : fs.head? = some 'L') :
    cs.head? = some 'L' ∨ cs.head? = some 'l' := by
  obtain ⟨rest, rfl⟩ := List.head?_eq_some_iff.mp hfs
  rcases h.cases_head with (h | h) | ⟨c, cs', rfl, hascii, hc, -⟩ | ⟨h, -⟩ | ⟨h, -⟩
  · cases h
  · cases h
  · have hletter := of_ascii (p := fun c => 'L' = c ∨ 'L' = c.toUpper → c = 'L' ∨ c = 'l')
      (by decide) hascii hc
    simpa using hletter
  · cases h
  · cases h

/-- No `L` stands behind a number that is not long. -/
theorem Sql.ReadsNumber.head?_ne {cs mid digits : List Char}
    (h : ReadsNumber cs (.number digits false) mid) : mid.head? ≠ some 'L' := by
  rintro hmid
  obtain ⟨more, rfl⟩ := List.head?_eq_some_iff.mp hmid
  generalize htoken : Token.number digits false = t at h
  cases h with
  | plain hm hexponent hu =>
      rcases hu with hstart | hpart
      · simp [startsWithE] at hstart
      · exact absurd (hpart 'L' rfl) (by decide)
  | exponent _ _ _ hlong => exact hlong rfl
  | _ => cases htoken

/-- Outside quotes, numbers and strings in hexadecimal are read at a digit or a point. -/
theorem Sql.ReadsOutside.readsNumber {c : Char} {rest u : List Char} {t : Token}
    (h : ReadsOutside (c :: rest) t u)
    (ht : (∃ digits long, t = .number digits long) ∨ ∃ body, t = .string .hex body) :
    (c.isDigit || c == '.') = true ∧ ReadsNumber (c :: rest) t u := by
  generalize hcs : c :: rest = cs at h
  cases h with
  | number hstart hread =>
      cases hcs
      exact ⟨hstart, hread⟩
  | mark hmark =>
      rw [mark?] at hmark
      split_ifs at hmark <;> cases hmark <;> simp at ht
  | operator =>
      rw [operatorToken] at ht
      split at ht <;> simp at ht
  | _ => simp at ht

/-- A number is read at a digit or a point. -/
theorem Sql.Reads.readsNumber {c : Char} {rest mid digits : List Char} {long : Bool}
    (h : Reads c rest (.number digits long) mid) (hcs : IsTame (c :: rest)) :
    (c.isDigit || c == '.') = true ∧ ReadsNumber (c :: rest) (.number digits long) mid := by
  obtain ⟨hc, hat⟩ := hcs c List.mem_cons_self
  generalize htoken : Token.number digits long = t at h
  cases h with
  | quoted hquote =>
      rcases isQuote_iff.mp hquote with rfl | rfl | rfl <;> cases htoken
  | plain =>
      exact htoken ▸ (readsOutside_readPlain hc hat rest).readsNumber (.inl ⟨_, _, htoken.symm⟩)
  | _ => cases htoken

/-- Outside quotes, a string in hexadecimal is made of digits. -/
theorem Sql.ReadsOutside.isHexDigit {c : Char} {rest u body : List Char}
    (h : ReadsOutside (c :: rest) (.string .hex body) u) : ∀ d ∈ body, isHexDigit d = true := by
  have hread := (h.readsNumber (.inr ⟨body, rfl⟩)).2
  generalize hhex : Token.string .hex body = t at hread
  generalize hsource : c :: rest = cs at hread
  cases hread <;> cases hhex
  assumption

/-- Directly in front of a string, a hexadecimal one is written with digits behind `0x`. -/
theorem Sql.Reads.isHexDigit {c : Char} {rest mid body : List Char}
    (h : Reads c rest (.string .hex body) mid) (hcs : IsTame (c :: rest))
    (hmid : mid.head? = some '\'') : ∀ d ∈ body, isHexDigit d = true := by
  obtain ⟨hc, hat⟩ := hcs c List.mem_cons_self
  generalize htoken : Token.string .hex body = t at h
  cases h with
  | quoted hquote =>
      rcases isQuote_iff.mp hquote with rfl | rfl | rfl <;> cases htoken
  | lettered _ _ _ hclosed => exact absurd hmid (head?_rest_readQuoted hclosed)
  | escaped => cases htoken
  | plain =>
      have hread := readsOutside_readPlain hc hat rest
      rw [← htoken] at hread
      exact hread.isHexDigit

/-! ### The normal form is read again -/

section

variable {v u : List Char} (hu : Stops u)

include hu

section

variable {c : Char} {rest mid : List Char} {t : Token} {tokens : List Token}
  (h : ScansPiece (c :: rest) (t :: tokens) v)
  (ih : ∀ {more : List Token} {cs : List Char}, more.length ≤ tokens.length →
    ScansPiece cs more v → ∃ more', RereadsAs u false more more')

include h ih

/-- A run of operators at the start of a piece is read again as operators. -/
theorem ScansPiece.exists_rereadsAs_signs (hoperator : isOperatorChar c = true) :
    ∃ t' more, t' ≠ .blank ∧ RereadsAs u false (t :: tokens) (t' :: more) := by
  have hv : ∀ d ∈ v.head?, isOperatorChar d = false := by
    intro d hd
    rcases h.stops d hd with rfl | rfl <;> decide
  obtain ⟨signs, more, last, heq, hmore, hlast, hhead, hrun, hne⟩ := h.scans.exists_run h.isTame hv
  have hne := hne ⟨c, rfl, hoperator⟩
  have hlength : more.length ≤ tokens.length := by
    have hcons := congrArg List.length heq
    have hpos := List.length_pos_iff.mpr hne
    simp only [List.length_append, List.length_cons] at hcons
    omega
  have hlast := h.suffix hlast ⟨signs, heq.symm⟩ hmore
  obtain ⟨more', hmore'⟩ := ih hlength hlast
  rw [heq]
  refine hmore'.signs hrun hne ((hlast.echoes hu).head isStable_isOperatorChar hhead) ?_
  refine (hlast.echoes hu).head?_ne (by decide) fun hat => ?_
  obtain ⟨z, hz⟩ := List.head?_eq_some_iff.mp hat
  exact (hlast.isTame '@' (by rw [hz]; exact List.mem_cons_self)).2 rfl

variable (hread : Reads c rest t mid) (hpiece : ScansPiece mid tokens v)

include hread hpiece

/-- A number in hexadecimal directly in front of a quote is read again as one string with what
stands behind it. -/
theorem ScansPiece.exists_rereadsAs_hex {digits : List Char} (ht : t = .string .hex digits)
    (hquote : (renderFrom false true tokens ++ u).head? = some '\'') :
    ∃ t' more, t' ≠ .blank ∧ RereadsAs u false (t :: tokens) (t' :: more) := by
  subst ht
  have hmid : mid.head? = some '\'' := by
    by_contra hne
    exact (hpiece.echoes hu).head?_ne (by decide) hne hquote
  obtain ⟨body, more, last, rfl, hbody, hlast, hend⟩ := hpiece.exists_string hmid
  obtain ⟨more', hmore'⟩ := ih (by simp) hlast
  exact ⟨_, more', by simp, hmore'.merge (hread.isHexDigit h.isTame hmid) hbody
    ((hlast.echoes hu).head?_ne (by decide) hend)⟩

/-- A number directly in front of a keyword that starts with `l` takes that letter, and what is
left of the keyword is read as a word or opens the string behind it. -/
theorem ScansPiece.exists_rereadsAs_long {digits : List Char} (ht : t = .number digits false)
    (hletter : (renderFrom false true tokens ++ u).head? = some 'L') :
    ∃ t' more, t' ≠ .blank ∧ RereadsAs u false (t :: tokens) (t' :: more) := by
  subst ht
  obtain ⟨hstart, hnumber⟩ := hread.readsNumber h.isTame
  have hmid := ((hpiece.echoes hu).head?_l hletter).resolve_left hnumber.head?_ne
  obtain ⟨w, more, last, rfl, -, hlast, hend⟩ := hpiece.exists_word hmid
  have hkey : isKeyword ('l' :: w) = true := by
    by_contra hkey
    rw [renderFrom_cons (by simp), formatToken_word, if_neg hkey] at hletter
    cases hletter
  obtain ⟨digits, rfl⟩ : ∃ rest, digits = c :: rest := by
    simpa [Token.text] using hnumber.exists_text (by simp)
  have hlong : ∀ fs, Reads c (digits ++ 'L' :: fs) (.number (c :: digits) true) fs := by
    intro fs
    obtain ⟨hquote, hform⟩ := plain_of_number (h.isTame c List.mem_cons_self).1 hstart
    exact (ReadsOutside.number hstart (hnumber.long_of_head hmid fs)).reads hquote
      (by simp [hform])
  obtain ⟨more', hmore'⟩ := ih (by simp) hlast
  by_cases hopen : upper w = ['N'] ∧ (renderFrom false true more ++ u).head? = some '\''
  · obtain ⟨hn, hquote⟩ := hopen
    have hmid : last.head? = some '\'' := by
      by_contra hne
      exact (hlast.echoes hu).head?_ne (by decide) hne hquote
    obtain ⟨body, more, last, rfl, hbody, hlast, hend⟩ := hlast.exists_string hmid
    obtain ⟨more', hmore'⟩ := ih (by simp; omega) hlast
    exact ⟨_, _, by simp, hmore'.national hlong hkey hn hbody
      ((hlast.echoes hu).head?_ne (by decide) hend)⟩
  · exact ⟨_, _, by simp, hmore'.long hlong hkey
      ((hlast.echoes hu).head isStable_isWordPart hend) fun hn hquote => hopen ⟨hn, hquote⟩⟩

/-- Any other token is read again by itself. -/
theorem ScansPiece.exists_rereadsAs_settled (ht : t ≠ .blank) (hoperator : isOperatorChar c = false)
    (hhex : ∀ digits, t = .string .hex digits →
      (renderFrom false true tokens ++ u).head? ≠ some '\'')
    (hlong : ∀ digits, t = .number digits false →
      (renderFrom false true tokens ++ u).head? ≠ some 'L') :
    ∃ t' more, t' ≠ .blank ∧ RereadsAs u false (t :: tokens) (t' :: more) := by
  obtain ⟨d, ds, hsource, hagain⟩ := hread.settle h.isTame ht
    (h.areTame t List.mem_cons_self) hoperator (hpiece.echoes hu) hlong hhex
  have hword : ∀ w, t = .word w → IsTame w := by
    rintro w rfl
    exact hread.isTame_word h.isTame
  obtain ⟨more, hmore⟩ := ih le_rfl hpiece
  refine ⟨settled t, more, (settled_ne ht (h.semicolon t List.mem_cons_self)).1,
    hmore.cons ht (settled_ne ht (h.semicolon t List.mem_cons_self))
      (formatToken_settled _) hsource hagain fun hlikens => ?_⟩
  rw [dropGlued_cons, substance_cons ht]
  · exact .same (agrees_settled hword) hlikens
  · rintro digits w rest rfl rfl
    by_contra hglued
    obtain ⟨hkey, hupper⟩ := of_isGluedLimit (Bool.not_eq_false _ ▸ hglued)
    refine hlong digits rfl ?_
    rw [renderFrom_cons (by simp), formatToken_word, if_pos hkey, hupper]
    rfl

/-- The first token of a piece is read again, with those that are read together with it. -/
theorem ScansPiece.exists_rereadsAs_head (ht : t ≠ .blank) :
    ∃ t' more, t' ≠ .blank ∧ RereadsAs u false (t :: tokens) (t' :: more) := by
  by_cases hoperator : isOperatorChar c = true
  · exact h.exists_rereadsAs_signs hu ih hoperator
  by_cases hhex : (∃ digits, t = .string .hex digits) ∧
      (renderFrom false true tokens ++ u).head? = some '\''
  · obtain ⟨⟨digits, hdigits⟩, hquote⟩ := hhex
    exact h.exists_rereadsAs_hex hu ih hread hpiece hdigits hquote
  by_cases hlong : (∃ digits, t = .number digits false) ∧
      (renderFrom false true tokens ++ u).head? = some 'L'
  · obtain ⟨⟨digits, hdigits⟩, hletter⟩ := hlong
    exact h.exists_rereadsAs_long hu ih hread hpiece hdigits hletter
  exact h.exists_rereadsAs_settled hu ih hread hpiece ht (Bool.not_eq_true _ ▸ hoperator)
    (fun digits hdigits hquote => hhex ⟨⟨digits, hdigits⟩, hquote⟩)
    fun digits hdigits hletter => hlong ⟨⟨digits, hdigits⟩, hletter⟩

end

/-- **The normal form of a piece is read again**, and what is read of it is written and described
as the piece is, but for a limit that is lost. -/
theorem ScansPiece.exists_rereadsAs {cs : List Char} {tokens : List Token}
    (h : ScansPiece cs tokens v) (afterBlank : Bool) :
    ∃ tokens', RereadsAs u afterBlank tokens tokens' := by
  induction hlen : tokens.length using Nat.strong_induction_on generalizing tokens cs afterBlank with
  | h n ih =>
      subst hlen
      cases tokens with
      | nil => exact ⟨[], .nil u afterBlank⟩
      | cons t tokens =>
          have hscans := h.scans
          cases hscans with
          | @cons c rest mid _ _ _ hread hrest =>
              have hpiece := h.suffix (hread.suffix.trans (List.suffix_cons _ _))
                (List.suffix_cons _ _) hrest
              by_cases ht : t = .blank
              · subst ht
                obtain ⟨tokens', htokens'⟩ := ih _ (Nat.lt_succ_self _) hpiece true rfl
                exact ⟨tokens', htokens'.blank afterBlank⟩
              · obtain ⟨t', more, ht', hmore⟩ := h.exists_rereadsAs_head hu
                  (fun hlength hmore => ih _ (Nat.lt_succ_of_le hlength) hmore false rfl)
                  hread hpiece ht
                cases afterBlank with
                | false => exact ⟨_, hmore⟩
                | true => exact ⟨_, hmore.afterBlank ht ht'⟩

end

end SqlGateway
