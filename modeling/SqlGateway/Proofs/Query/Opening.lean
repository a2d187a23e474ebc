import SqlGateway.Proofs.Text.Spread
import SqlGateway.Query.Redaction

/-!
# What Stands Before a Secret

A secret is looked for behind three kinds of words: `IDENTIFIED BY`, with or without the name of a
plugin, `PASSWORD(` and `PASSWORD =`. This module says which texts these are (`Opens`), and that
the recognisers read just these.

The recognisers of the last two kinds do not read over a quote. The first one may, if the name of
a plugin is still to come: a text that `AwaitsPlugin` can be continued through a quote.

## Main results

* `opener_eq_some_iff`: what is read as an opening.
* `opener_before_quote`: an opening in front of a quote is read up to it, or over it where a plugin
  is awaited.
* `Opens.kind_unique`: a text ends with an opening of one kind.
-/

namespace SqlGateway.Query

open Text

variable {a b cs lit o o' rest u w x y z : List Char} {c q : Char}

/-- The quotes in which a secret may stand. -/
def isLiteralQuote (c : Char) : Bool :=
  c == '\'' || c == '"'

/-- A text without quotes. -/
def Unquoted (cs : List Char) : Prop :=
  ∀ c ∈ cs, isLiteralQuote c = false

theorem unquoted_append : Unquoted (a ++ b) ↔ Unquoted a ∧ Unquoted b :=
  List.forall_mem_append

theorem isBlank_of_isLiteralQuote (h : isLiteralQuote c = true) : isBlank c = false := by
  rw [isLiteralQuote, Bool.or_eq_true, beq_iff_eq, beq_iff_eq] at h
  rcases h with rfl | rfl <;> decide

theorem isLiteralQuote_of_isBlank (h : isBlank c = true) : isLiteralQuote c = false := by
  by_contra hquote
  rw [isBlank_of_isLiteralQuote (by simpa using hquote)] at h
  cases h

theorem isLiteralQuote_of_isWordChar (h : isWordChar c = true) : isLiteralQuote c = false := by
  by_contra hquote
  rw [Bool.not_eq_false, isLiteralQuote, Bool.or_eq_true, beq_iff_eq, beq_iff_eq] at hquote
  rcases hquote with rfl | rfl <;> exact absurd h (by decide)

theorem unquoted_of_blank (h : ∀ c ∈ cs, isBlank c = true) : Unquoted cs :=
  fun c hc => isLiteralQuote_of_isBlank (h c hc)

/-! ### Words and gaps -/

/-- A keyword in some letter case, with blanks behind it. -/
def IsWordGap (keyword : String) (cs : List Char) : Prop :=
  ∃ word gap, cs = word ++ gap ∧ Spells keyword.toList word ∧ IsBlanks gap

theorem dropWordGap?_iff {keyword : String} :
    dropWordGap? keyword cs = some rest ↔
      ∃ front, cs = front ++ rest ∧ IsWordGap keyword front ∧
        ∀ c ∈ rest.head?, isBlank c = false := by
  rw [dropWordGap?_eq_some_iff]
  constructor
  · rintro ⟨word, gap, rfl, hspells, hne, hgap, hrest⟩
    exact ⟨word ++ gap, by simp, ⟨word, gap, rfl, hspells, hne, hgap⟩, hrest⟩
  · rintro ⟨_, rfl, ⟨word, gap, rfl, hspells, hne, hgap⟩, hrest⟩
    exact ⟨word, gap, by simp, hspells, hne, hgap, hrest⟩

theorem IsWordGap.unquoted {keyword : String} (hkeyword : IsKeyword keyword)
    (h : IsWordGap keyword cs) : Unquoted cs := by
  obtain ⟨word, gap, rfl, hspells, -, hgap⟩ := h
  exact unquoted_append.mpr
    ⟨fun c hc => isLiteralQuote_of_isWordChar (hspells.isWordChar hkeyword c hc),
      unquoted_of_blank hgap⟩

theorem dropFieldGap?_iff :
    dropFieldGap? cs = some rest ↔
      ∃ field gap, cs = field ++ (gap ++ rest) ∧ field ≠ [] ∧ (∀ c ∈ field, isBlank c = false) ∧
        IsBlanks gap ∧ ∀ c ∈ rest.head?, isBlank c = false := by
  rw [dropFieldGap?]
  constructor
  · intro h
    split at h
    · cases h
    · rename_i hne
      obtain ⟨gap, heq, hgap, hblank, hrest⟩ := dropBlanks?_eq_some_iff.mp h
      refine ⟨_, gap, by rw [← heq, List.takeWhile_append_dropWhile], by simpa using hne, ?_,
        ⟨hgap, hblank⟩, hrest⟩
      intro c hc
      simpa using List.mem_takeWhile_imp hc
  · rintro ⟨field, gap, rfl, hne, hfield, ⟨hgap, hblank⟩, hrest⟩
    have hrun : ∀ c ∈ field, (!isBlank c) = true := by simpa using hfield
    have hstop : ∀ c ∈ (gap ++ rest).head?, (!isBlank c) = false := by
      obtain ⟨c, gap, rfl⟩ := List.exists_cons_of_ne_nil hgap
      simpa using hblank c List.mem_cons_self
    rw [takeWhile_run hrun hstop, dropWhile_run hrun hstop, if_neg (by simpa using hne)]
    exact dropBlanks?_eq_some_iff.mpr ⟨gap, rfl, hgap, hblank, hrest⟩

/-! ### Openings -/

/-- `IDENTIFIED BY` and `IDENTIFIED WITH plugin BY`, with blanks behind. -/
inductive IsIdentifiedBy : List Char → Prop
  | bare {w y : List Char} (identified : IsWordGap "IDENTIFIED" w) (by' : IsWordGap "BY" y) :
      IsIdentifiedBy (w ++ y)
  | plugin {w v field gap y : List Char} (identified : IsWordGap "IDENTIFIED" w)
      (with' : IsWordGap "WITH" v) (ne : field ≠ []) (solid : ∀ c ∈ field, isBlank c = false)
      (blanks : IsBlanks gap) (by' : IsWordGap "BY" y) :
      IsIdentifiedBy (w ++ (v ++ (field ++ (gap ++ y))))

/-- `PASSWORD` and a sign, with or without blanks on either side of it. -/
def IsPasswordSign (sign : Char) (o : List Char) : Prop :=
  ∃ word gap gap', o = word ++ (gap ++ sign :: gap') ∧ Spells "PASSWORD".toList word ∧
    (∀ c ∈ gap, isBlank c = true) ∧ ∀ c ∈ gap', isBlank c = true

theorem dropWordGap?_with_of_by (h : IsWordGap "BY" y) :
    dropWordGap? "WITH" (y ++ rest) = none := by
  by_contra hsome
  obtain ⟨after, hafter⟩ := Option.ne_none_iff_exists'.mp hsome
  obtain ⟨front, heq, ⟨word, gap, rfl, hspells, -⟩, -⟩ := dropWordGap?_iff.mp hafter
  obtain ⟨word', gap', rfl, hspells', -⟩ := h
  have hwith : "WITH".toList = ['W', 'I', 'T', 'H'] := by decide
  have hby : "BY".toList = ['B', 'Y'] := by decide
  rw [hwith] at hspells
  rw [hby] at hspells'
  cases hspells with
  | cons hw _ =>
      cases hspells' with
      | cons hb _ =>
          obtain rfl := (List.cons.inj heq).1
          exact absurd (capital_unique (by decide) (by decide) hw hb) (by decide)

/-- **What is read as `IDENTIFIED BY`.** -/
theorem identifiedBy_eq_some_iff :
    identifiedBy cs = some lit ↔
      ∃ o, cs = o ++ lit ∧ IsIdentifiedBy o ∧ ∀ c ∈ lit.head?, isBlank c = false := by
  rw [identifiedBy, Option.bind_eq_bind, Option.bind_eq_some_iff]
  constructor
  · rintro ⟨rest, hidentified, h⟩
    obtain ⟨w, rfl, hw, -⟩ := dropWordGap?_iff.mp hidentified
    split at h
    · rename_i after hplugin
      obtain rfl := Option.some.inj h
      obtain ⟨tail, htail, hby⟩ := Option.bind_eq_some_iff.mp hplugin
      obtain ⟨fields, hwith, hfield⟩ := Option.bind_eq_some_iff.mp htail
      obtain ⟨v, rfl, hv, -⟩ := dropWordGap?_iff.mp hwith
      obtain ⟨field, gap, rfl, hne, hsolid, hgap, -⟩ := dropFieldGap?_iff.mp hfield
      obtain ⟨y, rfl, hy, hlit⟩ := dropWordGap?_iff.mp hby
      exact ⟨_, by simp, .plugin hw hv hne hsolid hgap hy, hlit⟩
    · obtain ⟨y, rfl, hy, hlit⟩ := dropWordGap?_iff.mp h
      exact ⟨_, by simp, .bare hw hy, hlit⟩
  · rintro ⟨_, rfl, ho, hlit⟩
    have hstart {keyword : String} (hkeyword : IsKeyword keyword) {front : List Char}
        (hfront : IsWordGap keyword front) (rest : List Char) :
        ∀ c ∈ (front ++ rest).head?, isBlank c = false := by
      obtain ⟨word, gap, rfl, hspells, -⟩ := hfront
      obtain ⟨c, word, rfl⟩ := List.exists_cons_of_ne_nil (hspells.ne_nil hkeyword)
      intro d hd
      obtain rfl : c = d := by simpa using hd
      exact isBlank_of_isNameChar
        (isNameChar_of_isWordChar (hspells.isWordChar hkeyword c List.mem_cons_self))
    cases ho with
    | @bare w y hw hy =>
        refine ⟨y ++ lit, dropWordGap?_iff.mpr ⟨w, by simp, hw, hstart (by decide) hy _⟩, ?_⟩
        rw [dropWordGap?_with_of_by hy]
        exact dropWordGap?_iff.mpr ⟨y, rfl, hy, hlit⟩
    | @plugin w v field gap y hw hv hne hsolid hgap hy =>
        refine ⟨v ++ (field ++ (gap ++ (y ++ lit))),
          dropWordGap?_iff.mpr ⟨w, by simp, hw, hstart (by decide) hv _⟩, ?_⟩
        have hwith : dropWordGap? "WITH" (v ++ (field ++ (gap ++ (y ++ lit)))) =
            some (field ++ (gap ++ (y ++ lit))) := by
          refine dropWordGap?_iff.mpr ⟨v, rfl, hv, ?_⟩
          obtain ⟨c, field, rfl⟩ := List.exists_cons_of_ne_nil hne
          simpa using hsolid c List.mem_cons_self
        have hfield : dropFieldGap? (field ++ (gap ++ (y ++ lit))) = some (y ++ lit) :=
          dropFieldGap?_iff.mpr ⟨field, gap, rfl, hne, hsolid, hgap, hstart (by decide) hy _⟩
        have hby : dropWordGap? "BY" (y ++ lit) = some lit :=
          dropWordGap?_iff.mpr ⟨y, rfl, hy, hlit⟩
        rw [hwith, Option.bind_some, hfield, Option.bind_some, hby]
        rfl

/-- **What is read as `PASSWORD` and a sign.** -/
theorem passwordSign_eq_some_iff {sign : Char} (hsign : isBlank sign = false) :
    passwordSign sign cs = some lit ↔
      ∃ o, cs = o ++ lit ∧ IsPasswordSign sign o ∧ ∀ c ∈ lit.head?, isBlank c = false := by
  rw [passwordSign, Option.bind_eq_bind, Option.bind_eq_some_iff]
  constructor
  · rintro ⟨rest, hword, h⟩
    obtain ⟨word, rfl, hspells⟩ := dropLetters?_eq_some_iff.mp hword
    split at h
    · rename_i c after hdrop
      split at h
      · rename_i hc
        obtain rfl := beq_iff_eq.mp hc
        obtain rfl := Option.some.inj h
        refine ⟨word ++ (rest.takeWhile isBlank ++ c :: after.takeWhile isBlank), ?_,
          ⟨word, _, _, rfl, hspells, fun d hd => List.mem_takeWhile_imp hd,
            fun d hd => List.mem_takeWhile_imp hd⟩, head?_dropWhile⟩
        rw [List.append_assoc, List.append_assoc, List.cons_append,
          List.takeWhile_append_dropWhile, ← hdrop, List.takeWhile_append_dropWhile]
      · cases h
    · cases h
  · rintro ⟨_, rfl, ⟨word, gap, gap', rfl, hspells, hgap, hgap'⟩, hlit⟩
    refine ⟨gap ++ sign :: (gap' ++ lit), dropLetters?_eq_some_iff.mpr ⟨word, by simp, hspells⟩, ?_⟩
    rw [dropWhile_run hgap (by simpa using hsign)]
    simp [dropWhile_run hgap' hlit]

/-- The kinds of openings, in the order in which they are looked for. -/
inductive Kind where
  | identified
  | call
  | assign
  deriving DecidableEq, Repr

/-- What reads the openings of a kind. -/
def Kind.opener : Kind → Opener
  | identified => identifiedBy
  | call => passwordSign '('
  | assign => passwordSign '='

/-- A text is an opening of a kind. -/
def Opens : Kind → List Char → Prop
  | .identified => IsIdentifiedBy
  | .call => IsPasswordSign '('
  | .assign => IsPasswordSign '='

variable {k k' : Kind}

/-- **What is read as an opening.** -/
theorem opener_eq_some_iff :
    k.opener cs = some lit ↔
      ∃ o, cs = o ++ lit ∧ Opens k o ∧ ∀ c ∈ lit.head?, isBlank c = false := by
  cases k with
  | identified => exact identifiedBy_eq_some_iff
  | call => exact passwordSign_eq_some_iff (by decide)
  | assign => exact passwordSign_eq_some_iff (by decide)

/-! ### In front of a quote -/

/-- At the end of a text, the name of a plugin is to come, or may go on. -/
def AwaitsPlugin (cs : List Char) : Prop :=
  ∃ a w v field, cs = a ++ (w ++ (v ++ field)) ∧ IsWordGap "IDENTIFIED" w ∧ IsWordGap "WITH" v ∧
    ∀ c ∈ field, isBlank c = false

theorem IsWordGap.length_lt {keyword : String} (h : IsWordGap keyword cs) :
    keyword.toList.length < cs.length := by
  obtain ⟨word, gap, rfl, hspells, hne, -⟩ := h
  have hpos := List.length_pos_iff.mpr hne
  have hlength : keyword.toList.length = word.length := hspells.length_eq
  rw [List.length_append]
  omega

theorem AwaitsPlugin.length_le (h : AwaitsPlugin cs) : 16 ≤ cs.length := by
  obtain ⟨a, w, v, field, rfl, hw, hv, -⟩ := h
  have hidentified : 10 < w.length := hw.length_lt
  have hwith : 4 < v.length := hv.length_lt
  simp only [List.length_append]
  omega

theorem AwaitsPlugin.of_suffix (h : AwaitsPlugin z) (hz : z <:+ x) : AwaitsPlugin x := by
  obtain ⟨a, w, v, field, rfl, hw, hv, hfield⟩ := h
  obtain ⟨b, rfl⟩ := hz
  exact ⟨b ++ a, w, v, field, by simp, hw, hv, hfield⟩

theorem IsPasswordSign.unquoted {sign : Char} (hsign : isLiteralQuote sign = false)
    (h : IsPasswordSign sign o) : Unquoted o := by
  obtain ⟨word, gap, gap', rfl, hspells, hgap, hgap'⟩ := h
  refine unquoted_append.mpr ⟨fun c hc => ?_, unquoted_append.mpr ⟨unquoted_of_blank hgap, ?_⟩⟩
  · exact isLiteralQuote_of_isWordChar (hspells.isWordChar (by decide) c hc)
  · exact List.forall_mem_cons.mpr ⟨hsign, unquoted_of_blank hgap'⟩

/-- A text without quotes at the front of another stands before the quotes in it. -/
theorem exists_append_of_unquoted (hw : Unquoted w) (hq : isLiteralQuote q = true)
    (h : z ++ q :: u = w ++ rest) : ∃ t, z = w ++ t ∧ rest = t ++ q :: u := by
  rcases List.append_eq_append_iff.mp h with ⟨t, rfl, ht⟩ | ht
  · cases t with
    | nil => exact ⟨[], by simp, ht.symm⟩
    | cons d t =>
        obtain rfl := (List.cons.inj ht).1
        rw [hw q (by simp)] at hq
        cases hq
  · exact ht

/-- Only in the name of a plugin may an opening have a quote in it. -/
theorem Opens.awaitsPlugin (hz : Unquoted z) (hq : isLiteralQuote q = true)
    (h : Opens k (z ++ q :: y)) : k = .identified ∧ AwaitsPlugin z := by
  have hnot : ¬ Unquoted (z ++ q :: y) := fun hall => by
    rw [hall q (by simp)] at hq
    cases hq
  cases k with
  | call => exact absurd (IsPasswordSign.unquoted (by decide) h) hnot
  | assign => exact absurd (IsPasswordSign.unquoted (by decide) h) hnot
  | identified =>
      refine ⟨rfl, ?_⟩
      generalize htext : z ++ q :: y = text at h hnot
      cases h with
      | bare hw hy =>
          exact absurd (unquoted_append.mpr ⟨hw.unquoted (by decide), hy.unquoted (by decide)⟩) hnot
      | @plugin w v field gap y' hw hv hne hsolid hgap hy =>
          have hfront : Unquoted (w ++ v) :=
            unquoted_append.mpr ⟨hw.unquoted (by decide), hv.unquoted (by decide)⟩
          have hback : Unquoted (gap ++ y') :=
            unquoted_append.mpr ⟨unquoted_of_blank hgap.2, hy.unquoted (by decide)⟩
          rw [← List.append_assoc w] at htext
          obtain ⟨t, rfl, ht⟩ := exists_append_of_unquoted hfront hq htext
          rcases List.append_eq_append_iff.mp ht with ⟨t', -, hrest⟩ | ⟨t', rfl, -⟩
          · rw [hback q (by rw [hrest]; simp)] at hq
            cases hq
          · exact ⟨[], w, v, t, by simp, hw, hv, fun c hc => hsolid c (List.mem_append_left _ hc)⟩

/-- **An opening in front of a quote** is read up to the quote, unless the name of a plugin is
awaited there. -/
theorem opener_before_quote (hz : Unquoted z) (hq : isLiteralQuote q = true)
    (h : k.opener (z ++ q :: u) = some lit) (hlit : ∀ c ∈ lit.head?, isLiteralQuote c = true) :
    (Opens k z ∧ lit = q :: u) ∨ (k = .identified ∧ AwaitsPlugin z) := by
  obtain ⟨o, heq, ho, -⟩ := opener_eq_some_iff.mp h
  rcases List.append_eq_append_iff.mp heq with ⟨t, rfl, ht⟩ | ⟨t, rfl, rfl⟩
  · cases t with
    | nil =>
        rw [List.append_nil] at ho
        exact .inl ⟨ho, ht.symm⟩
    | cons d t =>
        obtain rfl := (List.cons.inj ht).1
        exact .inr (ho.awaitsPlugin hz hq)
  · cases t with
    | nil =>
        rw [List.append_nil]
        exact .inl ⟨ho, rfl⟩
    | cons d t =>
        have hd := hz d (by simp)
        rw [hlit d rfl] at hd
        cases hd

/-! ### How openings end -/

/-- The last character of a text that is no blank. -/
def lastSolid? (cs : List Char) : Option Char :=
  (cs.reverse.dropWhile isBlank).head?

theorem lastSolid?_append (hc : isBlank c = false) (hb : ∀ d ∈ b, isBlank d = true) :
    lastSolid? (a ++ c :: b) = some c := by
  have hrun : ∀ d ∈ b.reverse, isBlank d = true := by simpa using hb
  rw [lastSolid?, List.reverse_append, List.reverse_cons, List.append_assoc,
    dropWhile_run hrun (by simpa using hc)]
  rfl

theorem Spells.exists_last {front : List Char} (h : Spells (front ++ [c]) w) :
    ∃ w' d, w = w' ++ [d] ∧ sameLetter c d = true := by
  induction front generalizing w with
  | nil =>
      cases h with
      | cons hd hnil =>
          cases hnil
          exact ⟨[], _, rfl, hd⟩
  | cons e front ih =>
      cases h with
      | cons _ h =>
          obtain ⟨w', d, rfl, hd⟩ := ih h
          exact ⟨_ :: w', d, rfl, hd⟩

theorem IsWordGap.exists_lastSolid? {keyword : String} {front : List Char}
    (hkeyword : keyword.toList = front ++ [c]) (hc : c.isUpper = true) (h : IsWordGap keyword w)
    (a : List Char) : ∃ d, lastSolid? (a ++ w) = some d ∧ sameLetter c d = true := by
  obtain ⟨word, gap, rfl, hspells, -, hgap⟩ := h
  rw [hkeyword] at hspells
  obtain ⟨word, d, rfl, hd⟩ := Spells.exists_last hspells
  have hsolid : isBlank d = false :=
    isBlank_of_isNameChar (isNameChar_of_isWordChar (isWordChar_of_sameLetter hc hd))
  refine ⟨d, ?_, hd⟩
  have happ : a ++ (word ++ [d] ++ gap) = a ++ word ++ d :: gap := by simp
  rw [happ, lastSolid?_append hsolid hgap]

/-- How an opening of a kind ends, blanks apart. -/
def Kind.endsWith : Kind → Char → Bool
  | identified, c => sameLetter 'Y' c
  | call, c => c == '('
  | assign, c => c == '='

theorem IsIdentifiedBy.exists_append (h : IsIdentifiedBy o) :
    ∃ o' y, o = o' ++ y ∧ IsWordGap "BY" y := by
  cases h with
  | bare _ hy => exact ⟨_, _, rfl, hy⟩
  | @plugin w v field gap y _ _ _ _ _ hy => exact ⟨w ++ (v ++ (field ++ gap)), y, by simp, hy⟩

theorem Opens.exists_lastSolid? (h : Opens k o) (a : List Char) :
    ∃ c, lastSolid? (a ++ o) = some c ∧ k.endsWith c = true := by
  have hsign {sign : Char} (hsign : isBlank sign = false) (h : IsPasswordSign sign o) :
      lastSolid? (a ++ o) = some sign := by
    obtain ⟨word, gap, gap', rfl, -, -, hgap'⟩ := h
    have happ : a ++ (word ++ (gap ++ sign :: gap')) = a ++ word ++ gap ++ sign :: gap' := by simp
    rw [happ, lastSolid?_append hsign hgap']
  cases k with
  | identified =>
      obtain ⟨o', y, rfl, hy⟩ := IsIdentifiedBy.exists_append h
      obtain ⟨c, hc, hsame⟩ :=
        hy.exists_lastSolid? (show "BY".toList = ['B'] ++ ['Y'] by decide) (by decide) (a ++ o')
      exact ⟨c, by rw [← hc, List.append_assoc], hsame⟩
  | call => exact ⟨'(', hsign (by decide) h, rfl⟩
  | assign => exact ⟨'=', hsign (by decide) h, rfl⟩

/-- **A text ends with an opening of one kind.** -/
theorem Opens.kind_unique (h : Opens k o) (h' : Opens k' o') (heq : a ++ o = b ++ o') : k = k' := by
  obtain ⟨c, hc, hends⟩ := h.exists_lastSolid? a
  obtain ⟨d, hd, hends'⟩ := h'.exists_lastSolid? b
  rw [heq, hd] at hc
  obtain rfl := Option.some.inj hc
  have hcall : sameLetter 'Y' '(' = false := by decide
  have hassign : sameLetter 'Y' '=' = false := by decide
  cases k <;> cases k' <;> simp_all [Kind.endsWith]

/-- Behind `BY` no plugin is awaited. -/
theorem Opens.not_awaitsPlugin (h : Opens .identified o) (a : List Char) :
    ¬ AwaitsPlugin (a ++ o) := by
  rintro ⟨b, w, v, field, heq, -, hv, hfield⟩
  obtain ⟨c, hc, hends⟩ := h.exists_lastSolid? a
  rcases List.eq_nil_or_concat field with rfl | ⟨field, d, rfl⟩
  · obtain ⟨d, hd, hsame⟩ := hv.exists_lastSolid?
      (show "WITH".toList = ['W', 'I', 'T'] ++ ['H'] by decide) (by decide) (b ++ w)
    have htext : a ++ o = b ++ w ++ v := by simp [heq]
    rw [htext, hd] at hc
    obtain rfl := Option.some.inj hc
    exact absurd (capital_unique (by decide) (by decide) hsame hends) (by decide)
  · -- the field ends with no blank, the opening with one
    obtain ⟨o', y, rfl, word, gap, rfl, -, hne, hgap⟩ := IsIdentifiedBy.exists_append h
    obtain ⟨gap, e, rfl⟩ := (List.eq_nil_or_concat gap).resolve_left hne
    have hlast : some e = some d := by
      have hlast := congrArg List.getLast? heq
      simpa [← List.append_assoc] using hlast
    obtain rfl := Option.some.inj hlast
    have hblank := hgap e (by simp)
    rw [hfield e (by simp)] at hblank
    cases hblank

end SqlGateway.Query
