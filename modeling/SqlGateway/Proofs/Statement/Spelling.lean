import SqlGateway.Proofs.Statement.Echo
import SqlGateway.Proofs.Text.Case

/-!
# How the Normal Form Spells a Token

In the normal form most tokens are spelled as in the text. Keywords are spelled in capitals, and
so is the letter that opens a string; `!=` and `0x…` are spelled in another way.

A token is read again from its spelling as long as what follows echoes what followed in the text.
Three kinds need more than that, and are left out here: an operator may be read together with the
one behind it, a hexadecimal string with the string behind it, and a number with an `L` that was
no capital before.

## Main results

* `Reads.exists_spelling`: how a token is spelled.
* `Scans.echoes`: the normal form of the tokens of a text echoes it.
* `Reads.settle`: a token is read again from its spelling.
-/

namespace SqlGateway

open Sql Text Statement

/-! ### Spellings -/

/-- `Respells s f`: what is spelled `s` in the text is spelled `f` in the normal form. -/
inductive Respells : List Char → List Char → Prop
  | same (s : List Char) : Respells s s
  | capitals (s : List Char) : Respells s (upper s)
  | letter (c : Char) (s : List Char) : Respells (c :: s) (c.toUpper :: s)
  | inequality : Respells ['!', '='] ['<', '>']
  | hex {digits : List Char} (hdigits : ∀ c ∈ digits, isHexDigit c = true) :
      Respells ('0' :: 'x' :: digits) ('X' :: '\'' :: (digits ++ ['\'']))

/-- The normal form of a token echoes its spelling. -/
theorem Respells.echoes {s f cs fs : List Char} (h : Respells s f) (hs : ∀ c ∈ s, c.toNat < 0x80)
    (hrest : Echoes cs fs) : Echoes (s ++ cs) (f ++ fs) := by
  cases h with
  | same => exact hrest.append hs
  | capitals => exact hrest.upper_append hs
  | letter c s =>
      exact .cons (hs c List.mem_cons_self) (.inr rfl)
        (hrest.append fun d hd => hs d (List.mem_cons_of_mem c hd))
  | inequality => exact .inequality _ _
  | hex => exact .hex _ _

/-- A token is spelled as it is read. -/
theorem Sql.ReadsNumber.exists_spelling {cs u : List Char} {t : Token} (h : ReadsNumber cs t u) :
    ∃ s, cs = s ++ u ∧ Respells s (formatToken t) := by
  cases h with
  | hex hdigits => exact ⟨_, rfl, .hex hdigits⟩
  | period => exact ⟨['.'], rfl, .same _⟩
  | plain => exact ⟨_, rfl, by simpa [formatToken, Token.text] using .same _⟩
  | word =>
      refine ⟨_, rfl, ?_⟩
      rw [formatToken]
      split
      · exact .capitals _
      · exact .same _
  | exponent => exact ⟨_, rfl, by simpa [formatToken, Token.text] using .same _⟩
  | @long m e =>
      exact ⟨m ++ e ++ ['L'], by simp, by simpa [formatToken, Token.text] using .same _⟩

theorem formatToken_word (v : List Char) :
    formatToken (.word v) = if isKeyword v then upper v else v := rfl

theorem respells_word (v : List Char) : Respells v (formatToken (.word v)) := by
  rw [formatToken_word]
  split
  · exact .capitals v
  · exact .same v

theorem Sql.ReadsOutside.exists_spelling {cs u : List Char} {t : Token} (h : ReadsOutside cs t u)
    (hblank : t ≠ .blank) : ∃ s, cs = s ++ u ∧ Respells s (formatToken t) := by
  cases h with
  | blank => exact absurd rfl hblank
  | @mark c _ _ hmark =>
      refine ⟨[c], rfl, ?_⟩
      rw [mark?] at hmark
      split_ifs at hmark <;> cases hmark <;> subst_vars <;> exact .same _
  | parameter => exact ⟨_, rfl, .same _⟩
  | word => exact ⟨_, rfl, respells_word _⟩
  | number _ hread => exact hread.exists_spelling
  | @operator c rest op _ _ hsplit =>
      refine ⟨op, (of_splitOperator? hsplit).2, ?_⟩
      rw [operatorToken]
      split
      · rename_i heq
        rw [heq]
        exact .inequality
      · exact .same op
  | other => exact ⟨_, rfl, .same _⟩

/-- **How a token is spelled** in a text without variables. -/
theorem Sql.Reads.exists_spelling {c : Char} {rest mid : List Char} {t : Token}
    (h : Reads c rest t mid) (hascii : c.toNat < 0x80) (hat : c ≠ '@') (hblank : t ≠ .blank)
    (hescaped : ∀ body, t ≠ .string .escaped body) :
    ∃ s, c :: rest = s ++ mid ∧ Respells s (formatToken t) := by
  cases h with
  | quoted hquote hclosed =>
      refine ⟨c :: (readQuoted c rest).body ++ [c], ?_, ?_⟩
      · rw [List.cons_append, List.cons_append, List.append_assoc, List.singleton_append,
          ← eq_body_append_of_closed hclosed]
      · rcases isQuote_iff.mp hquote with rfl | rfl | rfl <;> exact .same _
  | @lettered form after hform hne hrest hclosed =>
      refine ⟨c :: '\'' :: (readQuoted '\'' after).body ++ ['\''], ?_, ?_⟩
      · have hafter := eq_body_append_of_closed hclosed
        simp only [hrest, List.cons_append, List.append_assoc, List.nil_append]
        rw [← hafter]
      · rcases of_letterForm? hform with ⟨rfl, rfl | rfl⟩ | ⟨rfl, rfl | rfl⟩ | ⟨rfl, -⟩
        · exact .same _
        · exact .letter 'n' _
        · exact .same _
        · exact .letter 'x' _
        · exact absurd rfl hne
  | escaped => exact absurd rfl (hescaped _)
  | plain hquote hform =>
      exact (readsOutside_readPlain hascii hat rest).exists_spelling hblank

/-! ### The normal form echoes the text -/

/-- What is asked of the characters of a text: that they are in ASCII and not the sign that starts
a variable. -/
def IsTame (cs : List Char) : Prop :=
  ∀ c ∈ cs, c.toNat < 0x80 ∧ c ≠ '@'

/-- What is asked of tokens: that none is an escaped string. -/
def AreTame (tokens : List Token) : Prop :=
  ∀ t ∈ tokens, ∀ body, t ≠ .string .escaped body

theorem IsTame.suffix {cs u : List Char} (h : IsTame cs) (hu : u <:+ cs) : IsTame u :=
  fun c hc => h c (hu.subset hc)

/-- What is left of a text behind a token. -/
theorem IsTame.tail {c : Char} {rest mid : List Char} {t : Token} (h : IsTame (c :: rest))
    (hread : Reads c rest t mid) : IsTame mid :=
  h.suffix (hread.suffix.trans (List.suffix_cons c rest))

/-- A text that is empty or goes on with a blank or a semicolon. -/
def Stops (u : List Char) : Prop :=
  ∀ c ∈ u.head?, c = ' ' ∨ c = ';'

theorem renderFrom_cons {t : Token} (h : t ≠ .blank) (afterBlank started : Bool)
    (tokens : List Token) :
    renderFrom afterBlank started (t :: tokens) =
      (if afterBlank && started then [' '] else []) ++ formatToken t ++
        renderFrom false true tokens := by
  cases t <;> first | rfl | exact absurd rfl h

/-- Tokens without blanks are written one behind the other, with nothing between them. -/
theorem renderFrom_append_of_forall {front : List Token} (h : ∀ t ∈ front, t ≠ .blank)
    (tokens : List Token) :
    renderFrom false true (front ++ tokens) =
      front.flatMap formatToken ++ renderFrom false true tokens := by
  induction front with
  | nil => rfl
  | cons t front ih =>
      obtain ⟨ht, hfront⟩ := List.forall_mem_cons.mp h
      rw [List.cons_append, renderFrom_cons ht, ih hfront]
      simp

/-- Behind a blank, the normal form goes on with one or ends. -/
theorem stops_renderFrom {u : List Char} (hu : Stops u) (tokens : List Token) :
    Stops (renderFrom true true tokens ++ u) := by
  induction tokens with
  | nil => exact hu
  | cons t tokens ih =>
      by_cases h : t = .blank
      · subst h
        exact ih
      · rw [renderFrom_cons h]
        intro c hc
        exact .inl (by simpa using hc.symm)

/-- **The normal form of the tokens of a text echoes it.** -/
theorem Sql.Scans.echoes {cs v u : List Char} {tokens : List Token} (h : Scans cs tokens v)
    (hcs : IsTame cs) (htokens : AreTame tokens) (hu : Stops u) :
    Echoes cs (renderFrom false true tokens ++ u) := by
  induction h with
  | done => exact .stop hu
  | @cons c rest mid _ t tokens hread _ ih =>
      by_cases hblank : t = .blank
      · subst hblank
        exact .stop (stops_renderFrom hu tokens)
      · obtain ⟨hc, hat⟩ := hcs c List.mem_cons_self
        obtain ⟨s, hs, hspell⟩ := hread.exists_spelling hc hat hblank
          (htokens t List.mem_cons_self)
        have hrest := ih (hcs.tail hread) fun t' ht' => htokens t' (List.mem_cons_of_mem t ht')
        rw [renderFrom_cons hblank, Bool.false_and, if_neg (by simp), List.nil_append,
          List.append_assoc, hs]
        refine hspell.echoes (fun d hd => (hcs d ?_).1) hrest
        rw [hs]
        exact List.mem_append_left _ hd

/-! ### Tokens that are read again -/

/-- A token as it is read from the normal form. -/
def settled : Token → Token
  | .word v => .word (formatToken (.word v))
  | t => t

/-- A mantissa ends where it did. -/
theorem Sql.EndsMantissa.echoes {m rest fs : List Char} (h : EndsMantissa m rest)
    (hfs : Echoes rest fs) : EndsMantissa m fs := by
  cases h with
  | whole hne hm hrest hhex =>
      refine .whole hne hm (fun c hc => ⟨?_, ?_⟩) fun ⟨hm, hx⟩ => ?_
      · exact hfs.head isStable_isDigit (fun d hd => (hrest d hd).1) c hc
      · rintro rfl
        exact hfs.head?_ne (by decide) (fun hp => (hrest '.' hp).2 rfl) hc
      · exact hfs.head?_ne (by decide) (fun hx' => hhex ⟨hm, hx'⟩) hx
  | point hne hwhole hplaces hrest =>
      exact .point hne hwhole hplaces (hfs.head isStable_isDigit hrest)

/-- A letter `e` in front stays one. -/
theorem Echoes.startsWithE {cs fs : List Char} (h : Echoes cs fs)
    (hfs : startsWithE fs = false) (hcs : startsWithE cs = true) :
    ∀ c ∈ fs.head?, isWordPart c = false := by
  cases cs with
  | nil => cases hcs
  | cons c cs =>
      have hc : c = 'e' ∨ c = 'E' := by simpa [Sql.startsWithE] using hcs
      cases h with
      | stop hstop =>
          intro d hd
          rcases hstop d hd with rfl | rfl <;> decide
      | cons hascii hd hrest =>
          rcases hc with rfl | rfl <;> rcases hd with rfl | rfl <;> simp [Sql.startsWithE] at hfs
      | inequality => simp at hc
      | hex => simp at hc

/-- A number that is no string in hexadecimal is read again. -/
theorem Sql.ReadsNumber.echoes {cs u fs : List Char} {t : Token} (h : ReadsNumber cs t u)
    (hfs : Echoes u fs) (hhex : ∀ body, t ≠ .string .hex body)
    (hlong : ∀ digits, t = .number digits false → fs.head? ≠ some 'L') :
    ReadsNumber (t.text ++ fs) t fs := by
  cases h with
  | hex => exact absurd rfl (hhex _)
  | period hu => exact .period (hfs.head isStable_isDigit hu)
  | plain hm hexponent hu =>
      have hread : ReadsNumber (_ ++ fs) _ fs :=
        .plain (hm.echoes hfs) (hfs.splitExponent?_eq_none hexponent) (by
          by_cases hstart : startsWithE fs = true
          · exact .inl hstart
          · rw [Bool.not_eq_true] at hstart
            exact .inr (hu.elim (hfs.startsWithE hstart) (hfs.head isStable_isWordPart)))
      simpa [Token.text] using hread
  | @word m w _ hm hne hw hstart hu =>
      refine .word (hm.congr ?_) hne hw hstart (hfs.head isStable_isWordPart hu)
      obtain ⟨c, more, rfl⟩ := List.exists_cons_of_ne_nil hne
      rfl
  | @exponent m e _ hm he hu hlast =>
      have hread : ReadsNumber (m ++ e ++ fs) _ fs :=
        .exponent (hm.congr he.head?_append) he (hfs.head isStable_isDigit hu) (hlong _ rfl)
      simpa [Token.text] using hread
  | @long m e _ hm he =>
      have hread : ReadsNumber (m ++ e ++ 'L' :: fs) _ fs := .long (hm.congr he.head?_append) he
      simpa [Token.text] using hread

/-! ### Words -/

/-- What a capital is read as, as far as words go. -/
theorem of_toUpper {c : Char} (hascii : c.toNat < 0x80) :
    isWordStart c.toUpper = isWordStart c ∧ isWordPart c.toUpper = isWordPart c ∧
      (letterForm? c.toUpper).isSome = (letterForm? c).isSome ∧
      (c.toUpper = '@' ↔ c = '@') :=
  of_ascii (p := fun c => isWordStart c.toUpper = isWordStart c ∧
    isWordPart c.toUpper = isWordPart c ∧ (letterForm? c.toUpper).isSome = (letterForm? c).isSome ∧
    (c.toUpper = '@' ↔ c = '@')) (by decide) hascii

/-- The first byte of a string, by which the many keywords are told apart faster than by their
characters. -/
def firstByte? (s : String) : Option UInt8 :=
  s.toByteArray.data.toList.head?

theorem firstByte?_ofList {c : Char} (hascii : c.toNat < 0x80) (w : List Char) :
    firstByte? (String.ofList (c :: w)) = some (UInt8.ofNat c.toNat) := by
  have hle : c.toNat ≤ 127 := Nat.le_of_lt_succ hascii
  simp [firstByte?, String.toByteArray_ofList, List.utf8Encode, String.utf8EncodeChar, hle]

theorem firstByte?_upper {c : Char} (hascii : c.toNat < 0x80) (w : List Char) :
    firstByte? (String.ofList (upper (c :: w))) = some (UInt8.ofNat c.toUpper.toNat) := by
  have hupper : c.toUpper.toNat < 0x80 :=
    of_ascii (p := fun c => c.toUpper.toNat < 0x80) (by decide) hascii
  rw [upper, List.flatMap_cons, upperChar_of_ascii hascii]
  exact firstByte?_ofList hupper _

/-- Keywords start with a capital letter. -/
theorem isUpper_of_isKeyword {c : Char} {w : List Char} (hascii : c.toNat < 0x80)
    (h : isKeyword (c :: w) = true) : c.toUpper.isUpper = true := by
  have hall : keywords.all (fun k => (firstByte? k).any fun b => 65 ≤ b && b ≤ 90) = true := by
    decide +kernel
  have hfirst := List.all_eq_true.mp hall _ (List.contains_iff_mem.mp h)
  rw [firstByte?_upper hascii, Option.any_some] at hfirst
  exact of_ascii (p := fun c => (65 ≤ UInt8.ofNat c.toUpper.toNat &&
    UInt8.ofNat c.toUpper.toNat ≤ 90) = true → c.toUpper.isUpper = true) (by decide) hascii hfirst

/-- No keyword starts with a digit or a point. -/
theorem isKeyword_of_number {c : Char} (hascii : c.toNat < 0x80)
    (hc : (c.isDigit || c == '.') = true) (w : List Char) : isKeyword (c :: w) = false := by
  rw [Bool.eq_false_iff]
  intro hkey
  have hupper := isUpper_of_isKeyword hascii hkey
  have hnot := of_ascii (p := fun c => (c.isDigit || c == '.') = true → c.toUpper.isUpper = false)
    (by decide) hascii hc
  rw [hupper] at hnot
  cases hnot

/-- A word is read up to the first character that is no part of it, unless its only letter opens
a string. -/
theorem reads_word {c : Char} {w u : List Char} (hstart : isWordStart c = true) (hat : c ≠ '@')
    (hw : ∀ d ∈ w, isWordPart d = true) (hu : ∀ d ∈ u.head?, isWordPart d = false)
    (hform : (letterForm? c).isSome → w = [] → u.head? ≠ some '\'') :
    Reads c (w ++ u) (.word (c :: w)) u := by
  have hquote : isQuote c = false := by
    rw [Bool.eq_false_iff]
    intro hquote
    rcases isQuote_iff.mp hquote with rfl | rfl | rfl <;> exact absurd hstart (by decide)
  have hread : Reads c (w ++ u) _ _ := .plain hquote fun hsome => by
    cases w with
    | nil => exact hform hsome rfl
    | cons d w =>
        have hd := hw d List.mem_cons_self
        intro heq
        cases heq
        exact absurd hd (by decide)
  have hplain : readPlain c (w ++ u) = _ :=
    readPlain_of_readsOutside (.word hstart hat hw hu)
  rwa [hplain] at hread

/-- A word is read again, in capitals or as it was. -/
theorem Sql.Reads.settle_word {c : Char} {w mid fs : List Char} (hstart : isWordStart c = true)
    (hat : c ≠ '@') (hascii : ∀ d ∈ c :: w, d.toNat < 0x80) (hw : ∀ d ∈ w, isWordPart d = true)
    (hmid : ∀ d ∈ mid.head?, isWordPart d = false)
    (hform : (letterForm? c).isSome → (w ++ mid).head? ≠ some '\'') (hfs : Echoes mid fs) :
    ∃ d ds, formatToken (.word (c :: w)) ++ fs = d :: ds ∧
      Reads d ds (settled (.word (c :: w))) fs := by
  have hend := hfs.head isStable_isWordPart hmid
  have hopen : (letterForm? c).isSome → w = [] → fs.head? ≠ some '\'' := by
    rintro hsome rfl
    exact hfs.head?_ne (by decide) (hform hsome)
  rw [settled, formatToken_word]
  split
  · have hc := hascii c List.mem_cons_self
    obtain ⟨hupper, -, hletter, hsign⟩ := of_toUpper hc
    rw [upper_of_ascii hascii, List.map_cons]
    refine ⟨c.toUpper, w.map Char.toUpper ++ fs, rfl,
      reads_word (by rwa [hupper]) (by rwa [Ne, hsign]) ?_ hend ?_⟩
    · intro d hd
      obtain ⟨d', hd', rfl⟩ := List.mem_map.mp hd
      rw [(of_toUpper (hascii d' (List.mem_cons_of_mem c hd'))).2.1]
      exact hw d' hd'
    · rw [hletter, List.map_eq_nil_iff]
      exact hopen
  · exact ⟨c, w ++ fs, rfl, reads_word hstart hat hw hend hopen⟩

/-! ### Strings and numbers -/

/-- A string that a letter opens is read up to the end of its body. -/
theorem reads_lettered {c : Char} {form : StringForm} (hform : letterForm? c = some form)
    (hne : form ≠ .escaped) {body fs : List Char} (hbody : IsBody '\'' body)
    (hfs : fs.head? ≠ some '\'') :
    Reads c ('\'' :: (body ++ '\'' :: fs)) (.string form body) fs := by
  have hquoted := hbody fs hfs
  have hread : Reads c ('\'' :: (body ++ '\'' :: fs)) _ _ :=
    .lettered hform hne rfl (by rw [hquoted])
  rwa [hquoted] at hread

/-- Hexadecimal digits are the body of a string. -/
theorem isBody_of_isHexDigit {digits : List Char} (h : ∀ c ∈ digits, isHexDigit c = true) :
    IsBody '\'' digits := by
  intro rest hrest
  rw [readQuoted_append fun c hc => ⟨ne_quote_of_not_isBreak (plain_of_isHexDigit (h c hc)).1,
    (plain_of_isHexDigit (h c hc)).2⟩, readQuoted_quote (by decide) hrest]
  simp [QuotedTail.extend]

/-- What is read outside quotes, at a character that opens no string. -/
theorem Sql.ReadsOutside.reads {c : Char} {rest u : List Char} {t : Token}
    (h : ReadsOutside (c :: rest) t u) (hquote : isQuote c = false)
    (hform : (letterForm? c).isSome → rest.head? ≠ some '\'') : Reads c rest t u := by
  have hread : Reads c rest _ _ := .plain hquote hform
  rwa [readPlain_of_readsOutside h] at hread

/-- A digit or a point opens nothing. -/
theorem plain_of_number {c : Char} (hascii : c.toNat < 0x80)
    (hc : (c.isDigit || c == '.') = true) : isQuote c = false ∧ letterForm? c = none :=
  of_ascii (p := fun c => (c.isDigit || c == '.') = true →
    isQuote c = false ∧ letterForm? c = none) (by decide) hascii hc

/-- A number that is no string in hexadecimal is written as it is read. -/
theorem Sql.ReadsNumber.exists_text {c : Char} {rest u : List Char} {t : Token}
    (h : ReadsNumber (c :: rest) t u) (hhex : ∀ body, t ≠ .string .hex body) :
    ∃ w, t.text = c :: w := by
  have hhead : ∀ {m v u : List Char}, EndsMantissa m v → m ++ u = c :: rest →
      ∃ w, m = c :: w := by
    intro m v u hm heq
    obtain ⟨d, w, rfl, -⟩ := hm.exists_head
    cases heq
    exact ⟨w, rfl⟩
  generalize hcs : c :: rest = cs at h
  cases h with
  | hex => exact absurd rfl (hhex _)
  | period =>
      cases hcs
      exact ⟨[], rfl⟩
  | plain hm =>
      obtain ⟨w, rfl⟩ := hhead hm hcs.symm
      exact ⟨w, by simp [Token.text]⟩
  | word hm =>
      rw [List.append_assoc] at hcs
      obtain ⟨w, rfl⟩ := hhead hm hcs.symm
      exact ⟨_, rfl⟩
  | exponent hm =>
      rw [List.append_assoc] at hcs
      obtain ⟨w, rfl⟩ := hhead hm hcs.symm
      exact ⟨_, rfl⟩
  | long hm =>
      rw [List.append_assoc] at hcs
      obtain ⟨w, rfl⟩ := hhead hm hcs.symm
      exact ⟨_, rfl⟩

/-- A number is read again. -/
theorem Sql.ReadsNumber.settle {c : Char} {rest u fs : List Char} {t : Token}
    (h : ReadsNumber (c :: rest) t u) (hstart : (c.isDigit || c == '.') = true)
    (hascii : c.toNat < 0x80) (hfs : Echoes u fs)
    (hlong : ∀ digits, t = .number digits false → fs.head? ≠ some 'L')
    (hhex : ∀ body, t = .string .hex body → fs.head? ≠ some '\'') :
    ∃ d ds, formatToken t ++ fs = d :: ds ∧ Reads d ds (settled t) fs := by
  obtain ⟨hquote, hform⟩ := plain_of_number hascii hstart
  by_cases hstring : ∃ body, t = .string .hex body
  · obtain ⟨body, rfl⟩ := hstring
    have hdigits : ∀ d ∈ body, isHexDigit d = true := by
      generalize hsource : c :: rest = cs at h
      generalize htoken : Token.string .hex body = t at h
      cases h <;> cases htoken
      assumption
    refine ⟨'X', '\'' :: (body ++ '\'' :: fs), by simp [formatToken, Token.text, Token.opening,
      Token.closing], ?_⟩
    exact reads_lettered rfl (by simp) (isBody_of_isHexDigit hdigits) (hhex body rfl)
  · rw [not_exists] at hstring
    have hread := h.echoes hfs hstring hlong
    obtain ⟨w, hw⟩ := h.exists_text hstring
    -- A word that starts with a digit or a point is no keyword.
    have hsame : formatToken t = t.text ∧ settled t = t := by
      cases t with
      | word v =>
          have hv : v = c :: w := hw
          rw [settled, formatToken_word, hv, isKeyword_of_number hascii hstart]
          exact ⟨rfl, rfl⟩
      | _ => exact ⟨rfl, rfl⟩
    rw [hw, List.cons_append] at hread
    rw [hsame.1, hsame.2, hw]
    exact ⟨c, w ++ fs, rfl, (ReadsOutside.number hstart hread).reads hquote (by simp [hform])⟩

/-! ### Tokens that are read again -/

/-- What is read outside quotes and is no operator is read again. -/
theorem Sql.ReadsOutside.settle {c : Char} {rest mid fs : List Char} {t : Token}
    (h : ReadsOutside (c :: rest) t mid) (hcs : IsTame (c :: rest)) (hblank : t ≠ .blank)
    (hquote : isQuote c = false) (hform : (letterForm? c).isSome → rest.head? ≠ some '\'')
    (hoperator : isOperatorChar c = false) (hfs : Echoes mid fs)
    (hlong : ∀ digits, t = .number digits false → fs.head? ≠ some 'L')
    (hhex : ∀ body, t = .string .hex body → fs.head? ≠ some '\'') :
    ∃ d ds, formatToken t ++ fs = d :: ds ∧ Reads d ds (settled t) fs := by
  generalize hsource : c :: rest = cs at h
  cases h with
  | blank => exact absurd rfl hblank
  | @mark d _ _ hmark =>
      cases hsource
      have hread : ReadsOutside (c :: fs) t fs := .mark hmark
      rw [mark?] at hmark
      split_ifs at hmark <;> cases hmark <;> subst_vars <;>
        exact ⟨_, fs, rfl, hread.reads hquote (by simp [letterForm?])⟩
  | @parameter digits _ hdigits hu =>
      cases hsource
      exact ⟨'?', digits ++ fs, rfl, (ReadsOutside.parameter hdigits
        (hfs.head isStable_isNumeric hu)).reads hquote (by simp [letterForm?])⟩
  | @word d w _ hstart hat hw hu =>
      cases hsource
      refine Reads.settle_word hstart hat (fun d hd => (hcs d ?_).1) hw hu hform hfs
      exact List.mem_append_left _ hd
  | number hstart hread =>
      cases hsource
      exact hread.settle hstart (hcs c List.mem_cons_self).1 hfs hlong hhex
  | operator hstart =>
      cases hsource
      rw [hstart] at hoperator
      cases hoperator
  | other hother =>
      cases hsource
      refine ⟨c, fs, rfl, (ReadsOutside.other hother).reads hquote fun hsome => ?_⟩
      obtain ⟨form, hsome⟩ := Option.isSome_iff_exists.mp hsome
      rcases of_letterForm? hsome with ⟨-, rfl | rfl⟩ | ⟨-, rfl | rfl⟩ | ⟨-, rfl | rfl⟩ <;>
        exact absurd hother (by decide)

/-- **A token that is no operator is read again from its spelling.** -/
theorem Sql.Reads.settle {c : Char} {rest mid fs : List Char} {t : Token}
    (h : Reads c rest t mid) (hcs : IsTame (c :: rest)) (hblank : t ≠ .blank)
    (hescaped : ∀ body, t ≠ .string .escaped body) (hoperator : isOperatorChar c = false)
    (hfs : Echoes mid fs) (hlong : ∀ digits, t = .number digits false → fs.head? ≠ some 'L')
    (hhex : ∀ body, t = .string .hex body → fs.head? ≠ some '\'') :
    ∃ d ds, formatToken t ++ fs = d :: ds ∧ Reads d ds (settled t) fs := by
  cases h with
  | quoted hquote hclosed =>
      have hbody := isBody_readQuoted (ne_backslash_of_isQuote hquote) hclosed
      have hmid : fs.head? ≠ some c := by
        refine hfs.head?_ne ?_ (head?_rest_readQuoted hclosed)
        rcases isQuote_iff.mp hquote with rfl | rfl | rfl <;> decide
      have hquoted := hbody fs hmid
      have hread : Reads c ((readQuoted c rest).body ++ c :: fs) _ _ :=
        .quoted hquote (by rw [hquoted])
      rw [hquoted] at hread
      refine ⟨c, (readQuoted c rest).body ++ c :: fs, ?_, ?_⟩
      · rcases isQuote_iff.mp hquote with rfl | rfl | rfl <;>
          simp [sectionToken, formatToken, Token.text, Token.opening, Token.closing]
      · rcases isQuote_iff.mp hquote with rfl | rfl | rfl <;> exact hread
  | @lettered form after hform hne hrest hclosed =>
      have hbody := isBody_readQuoted (by decide) hclosed
      have hmid := hfs.head?_ne (by decide) (head?_rest_readQuoted hclosed)
      rcases of_letterForm? hform with ⟨rfl, -⟩ | ⟨rfl, -⟩ | ⟨rfl, -⟩
      · exact ⟨'N', '\'' :: ((readQuoted '\'' after).body ++ '\'' :: fs), by
          simp [formatToken, Token.text, Token.opening, Token.closing],
          reads_lettered rfl hne hbody hmid⟩
      · exact ⟨'X', '\'' :: ((readQuoted '\'' after).body ++ '\'' :: fs), by
          simp [formatToken, Token.text, Token.opening, Token.closing],
          reads_lettered rfl hne hbody hmid⟩
      · exact absurd rfl hne
  | escaped => exact absurd rfl (hescaped _)
  | plain hquote hform =>
      obtain ⟨hc, hat⟩ := hcs c List.mem_cons_self
      exact (readsOutside_readPlain hc hat rest).settle hcs hblank hquote hform hoperator hfs hlong
        hhex

end SqlGateway
