import SqlGateway.Proofs.Sql.Gap
import SqlGateway.Proofs.Sql.Source
import SqlGateway.Proofs.Sql.Unclosed
import SqlGateway.Proofs.Statement.Spelling

/-!
# Tokens That Cross the Start of a Word

A word stands behind a character that ends words, outside quotes. A token that is read in front of
it may go on into the word all the same: in `1.E5` a number starts in front of the point, and the
point is part of it. Such a token is written as it stands there, but for its letter case. It takes
the whole word, unless it is a number with an exponent behind a point; and in front of a zero such a
number ends with the mark of a long one.

## Main results

* `Scans.stops_or_crosses`: a scan stops at a place outside quotes, or a token crosses it.
* `ReadsOutside.crosses`: what crosses the start of a word.
-/

namespace SqlGateway

open Sql Text Statement

/-! ### Outside quotes -/

namespace Sql.Outside

variable {before u : List Char}

/-- What stands in front of the text begins with the first segment of all. -/
theorem exists_cons {s : Segment} {l : List Segment} (h : Outside before u) (hne : before ≠ [])
    (hsegments : segments (before ++ u) = s :: l) :
    ∃ more, l = more ++ segments u ∧ before = s.source ++ more.flatMap Segment.source := by
  obtain ⟨front, hfront⟩ := h
  have hsource := congrArg (List.flatMap Segment.source) hfront
  rw [List.flatMap_append, Segment.source_segments, Segment.source_segments] at hsource
  have hbefore := List.append_cancel_right hsource
  cases front with
  | nil => exact absurd hbefore hne
  | cons s' more =>
      rw [hsegments, List.cons_append] at hfront
      obtain ⟨rfl, rfl⟩ := List.cons.inj hfront
      exact ⟨more, rfl, by rw [hbefore, List.flatMap_cons]⟩

/-- A text outside quotes stays so without the characters in front that are no quotes. -/
theorem drop {w : List Char} (hw : ∀ c ∈ w, isQuote c = false) (h : Outside (w ++ before) u) :
    Outside before u := by
  induction w with
  | nil => exact h
  | cons c w ih =>
      obtain ⟨hc, hw⟩ := List.forall_mem_cons.mp hw
      refine ih hw ?_
      obtain ⟨more, hmore, -⟩ := h.exists_cons (List.cons_ne_nil _ _)
        (segments_of_plain hc (w ++ before ++ u))
      exact ⟨more, hmore⟩

/-- A quoted section in front of the text ends in front of it. -/
theorem of_isQuote {q : Char} (hq : isQuote q = true) (h : Outside (q :: before) u) :
    ∃ before', (readQuoted q (before ++ u)).rest = before' ++ u ∧ before' <:+ before ∧
      Outside before' u := by
  obtain ⟨more, hmore, hbefore⟩ := h.exists_cons (List.cons_ne_nil _ _)
    (segments_of_quote hq (before ++ u))
  have hrest := congrArg (List.flatMap Segment.source) hmore
  rw [List.flatMap_append, Segment.source_segments, Segment.source_segments] at hrest
  refine ⟨_, hrest, ?_, more, by rw [← hrest]; exact hmore⟩
  rw [Segment.source, quotedSource, List.cons_append, List.cons_append] at hbefore
  exact ⟨_, (List.cons.inj hbefore).2.symm⟩

end Sql.Outside

/-! ### Tokens at a place -/

/-- **A token in front of a place outside quotes** ends there at the latest, unless it is read
outside quotes. -/
theorem Sql.Reads.ends_or_crosses {c : Char} {before u mid : List Char} {t : Token}
    (h : Reads c (before ++ u) t mid) (hascii : c.toNat < 0x80) (hat : c ≠ '@')
    (hout : Outside (c :: before) u) (hu : ∀ d ∈ u.head?, isQuote d = false) :
    (∃ before', mid = before' ++ u ∧ before' <:+ before ∧ Outside before' u) ∨
      ∃ x, x ≠ [] ∧ u = x ++ mid ∧ ReadsOutside (c :: (before ++ u)) t mid := by
  -- A string that a letter opens starts in front of the place, since no quote stands there.
  have hlettered : ∀ {form : StringForm} {after : List Char}, letterForm? c = some form →
      before ++ u = '\'' :: after → ∃ before', (readQuoted '\'' after).rest = before' ++ u ∧
        before' <:+ before ∧ Outside before' u := by
    intro form after hform hrest
    have hout' : Outside before u :=
      Outside.drop (w := [c]) (by simpa using isQuote_of_letterForm? hform) hout
    cases before with
    | nil =>
        have hquote := hu '\'' (by rw [← List.nil_append u, hrest]; rfl)
        cases hquote
    | cons q before =>
        obtain ⟨rfl, rfl⟩ := List.cons.inj hrest
        obtain ⟨before', hmid, hsuffix, hbefore'⟩ := hout'.of_isQuote rfl
        exact ⟨before', hmid, hsuffix.trans (List.suffix_cons _ _), hbefore'⟩
  cases h with
  | quoted hquote hclosed => exact .inl (hout.of_isQuote hquote)
  | lettered hform hne hrest hclosed => exact .inl (hlettered hform hrest)
  | escaped hform hrest hread =>
      obtain ⟨-, rfl⟩ := readQuoted_of_readEscaped? hread
      exact .inl (hlettered hform hrest)
  | plain hquote hform =>
      obtain ⟨chunk, hchunk, hbreak⟩ := readPlain_chunk hat (before ++ u)
      have hplain : ∀ d ∈ c :: chunk, isQuote d = false := by
        refine List.forall_mem_cons.mpr ⟨hquote, fun d hd => ?_⟩
        exact (Bool.or_eq_false_iff.mp (hbreak d hd)).1
      rcases List.append_eq_append_iff.mp hchunk with ⟨x, hx, hu'⟩ | ⟨before', rfl, hmid⟩
      · by_cases hnil : x = []
        · subst hnil
          rw [List.append_nil] at hx
          rw [List.nil_append] at hu'
          exact .inl ⟨[], hu'.symm, List.nil_suffix, [], rfl⟩
        · exact .inr ⟨x, hnil, hu', readsOutside_readPlain hascii hat _⟩
      · exact .inl ⟨before', hmid, List.suffix_append _ _, Outside.drop hplain hout⟩

/-- **A scan of a text with a place outside quotes** stops there, or a token outside quotes crosses
it. -/
theorem Sql.Scans.stops_or_crosses {before u last : List Char} {tokens : List Token}
    (h : Scans (before ++ u) tokens last) (hcs : IsTame (before ++ u)) (hout : Outside before u)
    (hu : ∀ d ∈ u.head?, isQuote d = false) (hlast : last.length < u.length) :
    (∃ front behind, tokens = front ++ behind ∧ Scans (before ++ u) front u ∧
      Scans u behind last) ∨
    ∃ front t behind c run x mid, tokens = front ++ t :: behind ∧ c :: run <:+ before ∧
      x ≠ [] ∧ u = x ++ mid ∧ ReadsOutside (c :: (run ++ u)) t mid ∧ Scans mid behind last := by
  generalize hsource : before ++ u = cs at h
  induction h generalizing before with
  | done cs =>
      have hlength := congrArg List.length hsource
      rw [List.length_append] at hlength
      omega
  | @cons c rest mid last t tokens hread hscans ih =>
      cases before with
      | nil =>
          rw [List.nil_append] at hsource
          subst hsource
          exact .inl ⟨[], t :: tokens, rfl, .done _, .cons hread hscans⟩
      | cons d before =>
          obtain ⟨rfl, rfl⟩ := List.cons.inj hsource
          obtain ⟨hascii, hat⟩ := hcs d List.mem_cons_self
          rcases hread.ends_or_crosses hascii hat hout hu with
            ⟨before', rfl, hsuffix, hout'⟩ | ⟨x, hx, hu', hcross⟩
          · have hsuffix' : before' <:+ d :: before := hsuffix.trans (List.suffix_cons _ _)
            rcases ih (hcs.tail hread) hout' hlast rfl with
              ⟨front, behind, rfl, hfront, hbehind⟩ |
              ⟨front, t', behind, e, run, x, mid, rfl, hrun, hx, hu', hcross, hbehind⟩
            · exact .inl ⟨t :: front, behind, rfl, .cons hread hfront, hbehind⟩
            · exact .inr ⟨t :: front, t', behind, e, run, x, mid, rfl, hrun.trans hsuffix', hx,
                hu', hcross, hbehind⟩
          · exact .inr ⟨[], t, tokens, d, before, x, mid, rfl, List.suffix_rfl, hx, hu', hcross,
              hscans⟩

/-! ### Numbers, character by character -/

theorem Sql.EndsMantissa.of_mem {m rest : List Char} (h : EndsMantissa m rest) {c : Char}
    (hc : c ∈ m) : c.isDigit = true ∨ c = '.' := by
  cases h with
  | whole _ hm => exact .inl (hm c hc)
  | point _ hwhole hplaces =>
      rcases List.mem_append.mp hc with hc | hc
      · exact .inl (hwhole c hc)
      · exact (List.mem_cons.mp hc).elim .inr fun hc => .inl (hplaces c hc)

/-- The characters of a number. -/
def isNumberChar (c : Char) : Bool :=
  isWordPart c || c == '.' || c == '+' || c == '-'

theorem isNumberChar_of_isWordPart {c : Char} (h : isWordPart c = true) :
    isNumberChar c = true := by
  simp [isNumberChar, h]

theorem isNumberChar_of_isDigit {c : Char} (h : c.isDigit = true) : isNumberChar c = true :=
  isNumberChar_of_isWordPart (by rw [isWordPart, h, Bool.or_true])

theorem Sql.EndsMantissa.isNumberChar {m rest : List Char} (h : EndsMantissa m rest) :
    ∀ c ∈ m, isNumberChar c = true := by
  intro c hc
  rcases h.of_mem hc with hdigit | rfl
  · exact isNumberChar_of_isDigit hdigit
  · rfl

theorem Sql.IsExponent.isNumberChar {e : List Char} (h : IsExponent e) :
    ∀ c ∈ e, isNumberChar c = true := by
  obtain ⟨letter, sign, digits, rfl, hletter, hsign, -, hdigits⟩ := h.exists_parts
  simp only [List.mem_cons, List.mem_append]
  rintro c (rfl | hc | hc)
  · rcases hletter with rfl | rfl <;> rfl
  · rcases hsign with rfl | rfl | rfl
    · cases hc
    · rw [List.mem_singleton.mp hc]
      rfl
    · rw [List.mem_singleton.mp hc]
      rfl
  · exact isNumberChar_of_isDigit (hdigits c hc)

/-- **What a number is read from**: characters of numbers, and in front of a zero it ends with the
mark of a long one. -/
theorem Sql.ReadsNumber.exists_characters {cs u : List Char} {t : Token}
    (h : ReadsNumber cs t u) (hhex : ∀ body, t ≠ .string .hex body) :
    ∃ s, cs = s ++ u ∧ (∀ c ∈ s, isNumberChar c = true) ∧
      (u.head? = some '0' → s.getLast? = some 'L') := by
  have hzero : (∀ c ∈ u.head?, c.isDigit = false) → u.head? ≠ some '0' := by
    intro hu hhead
    have hnot := hu '0' hhead
    cases hnot
  cases h with
  | hex => exact absurd rfl (hhex _)
  | period hu => exact ⟨['.'], rfl, by simp [isNumberChar], fun h => absurd h (hzero hu)⟩
  | @plain m _ hm =>
      refine ⟨m, rfl, hm.isNumberChar, fun h => absurd h (hzero ?_)⟩
      cases hm with
      | whole _ _ hrest => exact fun c hc => (hrest c hc).1
      | point _ _ _ hrest => exact hrest
  | @word m w _ hm hne hw hstart hu =>
      refine ⟨m ++ w, rfl, List.forall_mem_append.mpr ⟨hm.isNumberChar, fun c hc =>
        isNumberChar_of_isWordPart (hw c hc)⟩, fun h => absurd h (hzero fun c hc => ?_)⟩
      have hnot := hu c hc
      rw [isWordPart, Bool.or_eq_false_iff] at hnot
      exact hnot.2
  | @exponent m e _ hm he hu hlong =>
      exact ⟨m ++ e, rfl, List.forall_mem_append.mpr ⟨hm.isNumberChar, he.isNumberChar⟩,
        fun h => absurd h (hzero hu)⟩
  | @long m e _ hm he =>
      refine ⟨m ++ e ++ ['L'], by simp, ?_, fun _ => by simp⟩
      rw [List.forall_mem_append, List.forall_mem_append]
      exact ⟨⟨hm.isNumberChar, he.isNumberChar⟩, List.forall_mem_singleton.mpr rfl⟩

/-! ### What is written of a token that crosses -/

/-- In upper case most tokens are written as they are spelled. -/
theorem Respells.upper_eq {s f : List Char} (h : Respells s f) (hs : ∀ c ∈ s, c.toNat < 0x80)
    (hmark : s.head? ≠ some '!') (hhex : ¬ ['0', 'x'] <+: s) : upper f = upper s := by
  cases h with
  | same => rfl
  | capitals => exact upper_upper _
  | letter c s =>
      have hc := upper_upper [c]
      have hcons : ∀ c : Char, upper (c :: s) = upper [c] ++ upper s := fun c => upper_append [c] s
      rw [hcons, hcons, ← hc]
      simp [upper, upperChar_of_ascii (hs c List.mem_cons_self)]
  | inequality => exact absurd rfl hmark
  | @hex digits => exact absurd ⟨digits, rfl⟩ hhex

/-- In upper case a word is written as it stands there. -/
theorem upper_formatToken_word (w : List Char) : upper (formatToken (.word w)) = upper w := by
  rw [formatToken_word]
  split
  · exact upper_upper w
  · rfl

/-! ### Tokens that cross the place in front of a word -/

/-- A letter in ASCII or an underscore starts no number, no sign and no operator. -/
theorem plain_of_isWordChar {d : Char} (hascii : d.toNat < 0x80) (hd : isWordChar d = true)
    (hdigit : d.isDigit = false) :
    isNumeric d = false ∧ isOperatorChar d = false ∧ d ≠ '.' ∧ d ≠ '+' ∧ d ≠ '-' :=
  of_ascii (p := fun d => isWordChar d = true → d.isDigit = false → isNumeric d = false ∧
    isOperatorChar d = false ∧ d ≠ '.' ∧ d ≠ '+' ∧ d ≠ '-') (by decide) hascii hd hdigit

theorem isWordChar_of_isDigit {c : Char} (h : c.isDigit = true) : isWordChar c = true := by
  have halpha : c.isAlphanum = true := by rw [Char.isAlphanum, h, Bool.or_true]
  rw [isWordChar, if_pos (toNat_lt_of_isAlphanum halpha), halpha, Bool.true_or]

/-- What stands of an exponent in front of a letter ends with a word character, and not with the
sign, since a digit follows there. -/
theorem Sql.IsExponent.isWordChar_of_append {e z y x : List Char} {d : Char} (he : IsExponent e)
    (hz : ∀ c ∈ z, isWordChar c = true) (h : y ++ d :: x = e ++ z) (hdigit : d.isDigit = false) :
    ∀ c ∈ y.getLast?, isWordChar c = true := by
  obtain ⟨letter, sign, digits, rfl, hletter, hsign, hne, hdigits⟩ := he.exists_parts
  obtain ⟨first, more, rfl⟩ := List.exists_cons_of_ne_nil hne
  have hletter' : isWordChar letter = true := by rcases hletter with rfl | rfl <;> decide
  have hbehind : ∀ c ∈ first :: more ++ z, isWordChar c = true :=
    List.forall_mem_append.mpr ⟨fun c hc => isWordChar_of_isDigit (hdigits c hc), hz⟩
  intro c hc
  obtain ⟨y, rfl⟩ := List.getLast?_eq_some_iff.mp hc
  simp only [List.append_assoc, List.cons_append, List.nil_append] at h
  rcases hsign with rfl | hsign
  · have hall := List.forall_mem_cons (p := (isWordChar · = true)).mpr ⟨hletter', hbehind⟩
    exact hall c (h ▸ by simp)
  · obtain ⟨s, rfl⟩ : ∃ s, sign = [s] := hsign.elim (⟨_, ·⟩) (⟨_, ·⟩)
    match y, h with
    | [], h =>
        obtain ⟨rfl, -⟩ := List.cons.inj h
        exact hletter'
    | [_], h =>
        obtain ⟨rfl, -⟩ := List.cons.inj (List.cons.inj (List.cons.inj h).2).2
        rw [hdigits d List.mem_cons_self] at hdigit
        cases hdigit
    | _ :: _ :: y, h =>
        have htail : y ++ c :: d :: x = first :: more ++ z := (List.cons.inj (List.cons.inj h).2).2
        exact hbehind c (htail ▸ by simp)

/-- Behind the end of a word an exponent starts only behind a point. -/
theorem Sql.IsExponent.of_append {m e z a x rest : List Char} {d : Char} (he : IsExponent e)
    (hm : EndsMantissa m rest) (hz : ∀ c ∈ z, isWordChar c = true)
    (h : a ++ d :: x = m ++ (e ++ z)) (ha : ∃ c ∈ a.getLast?, isWordChar c = false)
    (hd : isWordChar d = true) (hascii : d.toNat < 0x80) (hdigit : d.isDigit = false) :
    a.getLast? = some '.' ∧ d :: x = e ++ z := by
  obtain ⟨last, hlast, hword⟩ := ha
  -- The mantissa ends where the word before ends.
  suffices hsplit : a = m ∧ d :: x = e ++ z by
    obtain ⟨rfl, hx⟩ := hsplit
    rcases hm.of_mem (List.mem_of_getLast? hlast) with hlastdigit | rfl
    · rw [isWordChar_of_isDigit hlastdigit] at hword
      cases hword
    · exact ⟨hlast, hx⟩
  rcases List.append_eq_append_iff.mp h with ⟨y, rfl, hx⟩ | ⟨y, rfl, hx⟩
  · cases y with
    | nil => exact ⟨(List.append_nil a).symm, hx⟩
    | cons c y =>
        obtain ⟨rfl, -⟩ := List.cons.inj hx
        rcases hm.of_mem (c := d) (by simp) with hdigit' | rfl
        · rw [hdigit] at hdigit'
          cases hdigit'
        · exact absurd rfl (plain_of_isWordChar hascii hd hdigit).2.2.1
  · cases y with
    | nil => exact ⟨List.append_nil m, hx.symm⟩
    | cons letter y =>
        rw [List.getLast?_append_of_ne_nil _ (List.cons_ne_nil _ _)] at hlast
        rw [he.isWordChar_of_append hz hx.symm hdigit last hlast] at hword
        cases hword

/-- **A token that crosses the place in front of a word** behind the end of another is written as it
stands there. It takes the whole word, unless it is a number with an exponent behind a point. -/
theorem Sql.ReadsNumber.crosses {a x mid : List Char} {d : Char} {t : Token}
    (h : ReadsNumber (a ++ d :: x ++ mid) t mid) (hcs : IsTame (a ++ d :: x))
    (hrun : ∃ e ∈ a.getLast?, isWordChar e = false) (hd : isWordChar d = true)
    (hdigit : d.isDigit = false) :
    upper (formatToken t) = upper (a ++ d :: x) ∧
      (∀ e ∈ a ++ d :: x, isNumberChar e = true) ∧
      (∀ e ∈ mid.head?, isWordPart e = true → a.getLast? = some '.' ∧
        (e = '0' → (d :: x).getLast? = some 'L')) := by
  have hascii := (hcs d (by simp)).1
  obtain ⟨last, hlast, hword⟩ := hrun
  generalize hsource : a ++ d :: x ++ mid = cs at h
  cases h with
  | @hex digits _ hdigits hu =>
      have heq := List.append_cancel_right hsource
      have hall : ∀ e ∈ '0' :: 'x' :: digits, e.toNat < 0x80 → isWordChar e = true := by
        refine List.forall_mem_cons.mpr ⟨by decide, List.forall_mem_cons.mpr ⟨by decide, ?_⟩⟩
        exact fun e he hascii => of_ascii (p := fun e => isHexDigit e = true → isWordChar e = true)
          (by decide) hascii (hdigits e he)
      have hmem : last ∈ a ++ d :: x := List.mem_append_left _ (List.mem_of_getLast? hlast)
      rw [hall last (heq ▸ hmem) (hcs last hmem).1] at hword
      cases hword
  | @period _ hu =>
      have hdot : a ++ d :: x = ['.'] := List.append_cancel_right hsource
      have hlength := congrArg List.length hdot
      have hpos := List.length_pos_of_mem (List.mem_of_getLast? hlast)
      simp only [List.length_append, List.length_cons, List.length_nil] at hlength
      omega
  | @plain m _ hm =>
      obtain rfl : a ++ d :: x = m := List.append_cancel_right hsource
      rcases hm.of_mem (c := d) (by simp) with hdigit' | hpoint
      · rw [hdigit] at hdigit'
        cases hdigit'
      · exact absurd hpoint (plain_of_isWordChar hascii hd hdigit).2.2.1
  | @word m w _ hm hne hw hstart hu =>
      have hwhole : a ++ d :: x = m ++ w := List.append_cancel_right hsource
      rw [hwhole] at hcs ⊢
      refine ⟨upper_formatToken_word _, ?_, fun e he hpart => ?_⟩
      · exact List.forall_mem_append.mpr ⟨hm.isNumberChar, fun e he =>
          isNumberChar_of_isWordPart (hw e he)⟩
      · rw [hu e he] at hpart
        cases hpart
  | @exponent m e _ hm he hu hlong =>
      have hwhole : a ++ d :: x = m ++ (e ++ []) := by
        rw [List.append_nil]
        exact List.append_cancel_right hsource
      have hpoint := (he.of_append hm (by simp) hwhole ⟨last, hlast, hword⟩ hd hascii hdigit).1
      rw [hwhole, List.append_nil]
      refine ⟨by simp [formatToken, Token.text], ?_, fun c hc _ => ⟨hpoint, ?_⟩⟩
      · exact List.forall_mem_append.mpr ⟨hm.isNumberChar, he.isNumberChar⟩
      · rintro rfl
        have hnot := hu '0' hc
        cases hnot
  | @long m e _ hm he =>
      have hmark : ∀ c ∈ ['L'], isWordChar c = true := List.forall_mem_singleton.mpr (by decide)
      have hwhole : a ++ d :: x = m ++ (e ++ ['L']) := by
        refine List.append_cancel_right (?_ : _ ++ mid = _ ++ mid)
        simpa using hsource
      obtain ⟨hpoint, hx⟩ := he.of_append hm hmark hwhole ⟨last, hlast, hword⟩ hd hascii hdigit
      refine ⟨?_, ?_, fun c _ _ => ⟨hpoint, fun _ => by simp [hx]⟩⟩
      · rw [hwhole]
        simp [formatToken, Token.text]
      · rw [hwhole]
        refine List.forall_mem_append.mpr ⟨hm.isNumberChar, ?_⟩
        exact List.forall_mem_append.mpr ⟨he.isNumberChar, List.forall_mem_singleton.mpr rfl⟩

/-- **A token that crosses the place in front of a word** behind the end of another is written as it
stands there. It takes the whole word, unless it is a number with an exponent behind a point. -/
theorem Sql.ReadsOutside.crosses {c d : Char} {run x mid : List Char} {t : Token}
    (h : ReadsOutside (c :: run ++ d :: x ++ mid) t mid) (hcs : IsTame (c :: run ++ d :: x))
    (hrun : ∃ e ∈ (c :: run).getLast?, isWordChar e = false) (hd : isWordChar d = true)
    (hdigit : d.isDigit = false) :
    t.isLayout = false ∧ upper (formatToken t) = upper (c :: run ++ d :: x) ∧
      (∀ e ∈ c :: run ++ d :: x, isNumberChar e = true) ∧
      (∀ e ∈ mid.head?, isWordPart e = true → (c :: run).getLast? = some '.' ∧
        (e = '0' → (d :: x).getLast? = some 'L')) := by
  have hascii := (hcs d (by simp)).1
  obtain ⟨hnumeric, hoperator, -⟩ := plain_of_isWordChar hascii hd hdigit
  have hmem : d ∈ run ++ d :: x := by simp
  have hshort : ∀ {e : Char}, c :: run ++ d :: x ++ mid ≠ e :: mid := by
    intro e heq
    have hlength := congrArg List.length heq
    simp only [List.length_append, List.length_cons] at hlength
    omega
  generalize hsource : c :: run ++ d :: x ++ mid = cs at h
  cases h with
  | blank hblank hascii => exact absurd hsource hshort
  | mark hmark => exact absurd hsource hshort
  | other hother => exact absurd hsource hshort
  | @parameter digits _ hdigits hu =>
      obtain ⟨-, rfl⟩ := List.cons.inj (List.append_cancel_right hsource)
      rw [hdigits d hmem] at hnumeric
      cases hnumeric
  | @word _ w _ hstart hat hw hu =>
      obtain ⟨rfl, rfl⟩ := List.cons.inj (List.append_cancel_right hsource)
      refine ⟨rfl, upper_formatToken_word _, ?_, fun e he hpart => ?_⟩
      · refine List.forall_mem_cons.mpr ⟨?_, fun e he => isNumberChar_of_isWordPart (hw e he)⟩
        exact isNumberChar_of_isWordPart (by rw [isWordPart, hstart, Bool.true_or])
      · rw [hu e he] at hpart
        cases hpart
  | number hstart hread =>
      rw [← hsource] at hread
      refine ⟨?_, hread.crosses hcs hrun hd hdigit⟩
      rw [← isLayout_readNumber (c :: run ++ d :: x ++ mid), readNumber_of_readsNumber hread]
  | operator hstart hsplit =>
      rw [← hsource] at hsplit
      obtain ⟨hop, heq⟩ := of_splitOperator? hsplit
      obtain rfl := List.append_cancel_right heq
      rw [isOperatorChar_of_mem hop (c := d) (by simp) (hcs d (by simp)).2] at hoperator
      cases hoperator

end SqlGateway
