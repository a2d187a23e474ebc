import SqlGateway.Proofs.Statement.Crossing

/-!
# How a Word in Front of a Blank Is Written

In the normal form a word in front of a blank is written as it stands in the text, in upper case,
also where a number takes a part of it, as in `1.E5L`. There is one exception: behind a long number
a number in hexadecimal may start within the word, and that is written as a string. A token that
ends where a word starts is written with the end of a word behind it, too, so that the word does not
become part of a longer one.

## Main results

* `Scans.exists_written`: how word characters in front of a blank are written.
* `ReadsOutside.exists_written`: how a word is written that a token in front goes on into.
* `Scans.exists_first_word`: how a word in front of a blank is written.
-/

namespace SqlGateway

open Sql Text Statement

/-! ### Words cut by numbers -/

/-- Whether a word can hide a number in hexadecimal behind a long one. -/
def HidesHex (w : List Char) : Prop :=
  ['L', '0', 'x'] <:+: w

/-- A digit starts a number. -/
theorem Sql.Reads.readsNumber_of_isDigit {c : Char} {rest mid : List Char} {t : Token}
    (h : Reads c rest t mid) (hc : c.isDigit = true) (hascii : c.toNat < 0x80) :
    ReadsNumber (c :: rest) t mid := by
  have hstart : (c.isDigit || c == '.') = true := by rw [hc, Bool.true_or]
  have hnumber := readsNumber_readNumber hstart rest
  obtain ⟨hquote, hform⟩ := plain_of_number hascii hstart
  obtain ⟨rfl, rfl⟩ := h.unique ((ReadsOutside.number hstart hnumber).reads hquote
    (by simp [hform]))
  exact hnumber

/-- A string in hexadecimal starts with its mark. -/
theorem Sql.ReadsNumber.ne_hex {cs u : List Char} {t : Token} (h : ReadsNumber cs t u)
    (hstart : ¬ ['0', 'x'] <+: cs) (body : List Char) : t ≠ .string .hex body := by
  cases h with
  | @hex digits => exact absurd ⟨digits ++ u, rfl⟩ hstart
  | _ => simp

/-- What does not hold a character stands in front of the place where it comes first. -/
theorem exists_append_of_not_mem {s v u mid : List Char} {b : Char} (hs : b ∉ s)
    (hb : u.head? = some b) (h : s ++ mid = v ++ u) : ∃ v', v = s ++ v' ∧ mid = v' ++ u := by
  rcases List.append_eq_append_iff.mp h with ⟨v', rfl, rfl⟩ | ⟨x, rfl, rfl⟩
  · exact ⟨v', rfl, rfl⟩
  · cases x with
    | nil => exact ⟨[], by simp, rfl⟩
    | cons d x =>
        obtain rfl : d = b := Option.some.inj hb
        exact absurd (by simp) hs

/-- What the word characters in ASCII are to the tokenizer. -/
theorem isWordPart_of_isWordChar {c : Char} (hascii : c.toNat < 0x80)
    (h : isWordChar c = true) :
    isWordPart c = true ∧ c ≠ '!' ∧ (c.isDigit = false → isWordStart c = true ∧ c ≠ '@') :=
  of_ascii (p := fun c => isWordChar c = true → isWordPart c = true ∧ c ≠ '!' ∧
    (c.isDigit = false → isWordStart c = true ∧ c ≠ '@')) (by decide) hascii h

/-- A blank in ASCII ends words, and opens nothing. -/
theorem ends_of_isBlank {c : Char} (hascii : c.toNat < 0x80) (h : isBlank c = true) :
    isWordPart c = false ∧ isNumberChar c = false ∧ c ≠ '\'' :=
  of_ascii (p := fun c => isBlank c = true → isWordPart c = false ∧ isNumberChar c = false ∧
    c ≠ '\'') (by decide) hascii h

/-- A plain word in front of a blank is read as such. -/
theorem reads_plainWord {c b : Char} {w u : List Char}
    (hw : ∀ d ∈ c :: w, d.toNat < 0x80 ∧ isWordChar d = true) (hdigit : c.isDigit = false)
    (hb : u.head? = some b) (hascii : b.toNat < 0x80) (hblank : isBlank b = true) :
    Reads c (w ++ u) (.word (c :: w)) u := by
  obtain ⟨hc, hword⟩ := hw c List.mem_cons_self
  obtain ⟨hstart, hat⟩ := (isWordPart_of_isWordChar hc hword).2.2 hdigit
  obtain ⟨hpart, -, hquote⟩ := ends_of_isBlank hascii hblank
  refine reads_word hstart hat (fun d hd => ?_) (fun d hd => ?_) fun _ _ hhead => ?_
  · obtain ⟨hd', hword'⟩ := hw d (List.mem_cons_of_mem c hd)
    exact (isWordPart_of_isWordChar hd' hword').1
  · rwa [← Option.some.inj (hb.symm.trans hd)]
  · exact hquote (Option.some.inj (hb.symm.trans hhead))

/-- A number among word characters takes some of them, and is written as it stands there. -/
theorem Sql.Reads.exists_number {c b : Char} {v u mid : List Char} {t : Token}
    (h : Reads c (v ++ u) t mid) (hdigit : c.isDigit = true)
    (hv : ∀ d ∈ c :: v, d.toNat < 0x80 ∧ isWordChar d = true) (hstart : ¬ ['0', 'x'] <+: c :: v)
    (hb : u.head? = some b) (hascii : b.toNat < 0x80) (hblank : isBlank b = true) :
    ∃ s v', c :: v = s ++ v' ∧ mid = v' ++ u ∧ v'.length ≤ v.length ∧ t.isLayout = false ∧
      upper (formatToken t) = upper s ∧ (v'.head? = some '0' → s.getLast? = some 'L') := by
  obtain ⟨hc, hword⟩ := hv c List.mem_cons_self
  have hnumber := h.readsNumber_of_isDigit hdigit hc
  have hnot : ∀ {s : List Char}, (∀ d ∈ s, isNumberChar d = true) → b ∉ s := by
    intro s hs hmem
    have hbnumber := (ends_of_isBlank hascii hblank).2.1
    rw [hs b hmem] at hbnumber
    cases hbnumber
  have hne : ∀ body, t ≠ .string .hex body := by
    refine hnumber.ne_hex fun ⟨more, hmore⟩ => hstart ?_
    have hmark : b ∉ ['0', 'x'] := hnot (List.all_eq_true.mp (by rfl))
    obtain ⟨v', hv', -⟩ := exists_append_of_not_mem (v := c :: v) hmark hb hmore
    exact ⟨v', hv'.symm⟩
  obtain ⟨s, hs, hchars, hzero⟩ := hnumber.exists_characters hne
  obtain ⟨s', hs', hspell⟩ := hnumber.exists_spelling
  obtain rfl : s' = s := List.append_cancel_right (hs'.symm.trans hs)
  obtain ⟨v', hv', rfl⟩ := exists_append_of_not_mem (v := c :: v) (hnot hchars) hb hs.symm
  have hlength := h.suffix.length_le
  simp only [List.length_append] at hlength
  have hmem : ∀ d ∈ s', d ∈ c :: v := fun d hd => by
    rw [hv']
    exact List.mem_append_left _ hd
  refine ⟨s', v', hv', rfl, by omega, ?_, ?_, fun hhead => hzero ?_⟩
  · rw [← isLayout_readNumber (c :: (v ++ u)), readNumber_of_readsNumber hnumber]
  · refine hspell.upper_eq (fun d hd => (hv d (hmem d hd)).1) (fun hmark => ?_) fun hbegins =>
      hstart (hbegins.trans ⟨v', hv'.symm⟩)
    obtain ⟨hmark', hword'⟩ := hv '!' (hmem '!' (List.mem_of_mem_head? hmark))
    exact (isWordPart_of_isWordChar hmark' hword').2.1 rfl
  · simp [List.head?_append, hhead]

/-- **What is read of word characters** up to a blank is written as it stands there, unless a number
in hexadecimal starts among them. -/
theorem Sql.Scans.exists_written {v u last : List Char} {tokens : List Token} {b : Char}
    (h : Scans (v ++ u) tokens last) (hv : ∀ c ∈ v, c.toNat < 0x80 ∧ isWordChar c = true)
    (hstart : ¬ ['0', 'x'] <+: v) (hhex : ¬ HidesHex v) (hb : u.head? = some b)
    (hascii : b.toNat < 0x80) (hblank : isBlank b = true) (hlast : last.length < u.length) :
    ∃ front behind, tokens = front ++ behind ∧ Scans u behind last ∧
      (∀ t ∈ front, t.isLayout = false) ∧ upper (front.flatMap formatToken) = upper v := by
  induction hlen : v.length using Nat.strong_induction_on generalizing v tokens with
  | h n ih =>
      subst hlen
      cases v with
      | nil => exact ⟨[], tokens, rfl, h, by simp, rfl⟩
      | cons c v =>
          cases h with
          | done =>
              simp only [List.cons_append, List.length_cons, List.length_append] at hlast
              omega
          | @cons _ _ mid _ t tokens hread hscans =>
              by_cases hdigit : c.isDigit = true
              · -- A number takes some of the characters; it hides none of the others.
                obtain ⟨s, v', hsplit, rfl, hle, hlayout, hwritten, hzero⟩ :=
                  hread.exists_number hdigit hv hstart hb hascii hblank
                have hback : v' <:+ c :: v := ⟨s, hsplit.symm⟩
                have hstart' : ¬ ['0', 'x'] <+: v' := by
                  rintro ⟨rest, rfl⟩
                  obtain ⟨front, rfl⟩ := List.getLast?_eq_some_iff.mp (hzero rfl)
                  exact hhex ⟨front, rest, by rw [hsplit]; simp⟩
                obtain ⟨front, behind, rfl, hbehind, hfront, hrest⟩ :=
                  ih v'.length (Nat.lt_succ_of_le hle) hscans
                    (fun d hd => hv d (hback.subset hd)) hstart'
                    (fun hwithin => hhex (hwithin.trans hback.isInfix)) rfl
                refine ⟨t :: front, behind, rfl, hbehind,
                  List.forall_mem_cons.mpr ⟨hlayout, hfront⟩, ?_⟩
                rw [List.flatMap_cons, upper_append, hwritten, hrest, hsplit, upper_append]
              · rw [Bool.not_eq_true] at hdigit
                obtain ⟨rfl, rfl⟩ :=
                  hread.unique (reads_plainWord hv hdigit hb hascii hblank)
                refine ⟨[.word (c :: v)], tokens, rfl, hscans, by simp [Token.isLayout], ?_⟩
                simpa using upper_formatToken_word _

/-! ### The first of several words -/

/-- A token that is written with the end of a word in front, or is a blank. -/
def StartsApart (t : Token) : Prop :=
  t = .blank ∨ ∃ c, (formatToken t).head? = some c ∧ endsPlainWord c = true

/-- A token that is written with the end of a word behind it, or is a blank. -/
def EndsApart (t : Token) : Prop :=
  t = .blank ∨ ∃ c, (formatToken t).getLast? = some c ∧ endsPlainWord c = true

/-- What ends a word at the start of a token ends one where it is written. -/
theorem Respells.head? {s f : List Char} (h : Respells s f) {c : Char} (hc : s.head? = some c)
    (hends : endsPlainWord c = true) : ∃ d, f.head? = some d ∧ endsPlainWord d = true := by
  cases h with
  | same => exact ⟨c, hc, hends⟩
  | capitals =>
      obtain ⟨rest, rfl⟩ := List.head?_eq_some_iff.mp hc
      exact ⟨c, by simp [upper, upperChar_of_endsPlainWord hends], hends⟩
  | letter d rest =>
      obtain rfl : d = c := Option.some.inj hc
      have hupper := upperChar_of_endsPlainWord hends
      rw [upperChar_of_ascii (endsPlainWord_iff.mp hends).1] at hupper
      exact ⟨d, by rw [(List.cons.inj hupper).1]; rfl, hends⟩
  | inequality => exact ⟨'<', rfl, by decide⟩
  | hex =>
      obtain rfl : '0' = c := Option.some.inj hc
      exact absurd hends (by decide)

/-- What ends a word at the end of a token ends one where it is written. -/
theorem Respells.getLast? {s f : List Char} (h : Respells s f) {c : Char}
    (hc : s.getLast? = some c) (hends : endsPlainWord c = true) :
    ∃ d, f.getLast? = some d ∧ endsPlainWord d = true := by
  obtain ⟨front, rfl⟩ := List.getLast?_eq_some_iff.mp hc
  generalize hs : front ++ [c] = s at h
  cases h with
  | same => exact ⟨c, by simp [← hs], hends⟩
  | capitals =>
      refine ⟨c, ?_, hends⟩
      rw [← hs, upper_append]
      simp [upper, upperChar_of_endsPlainWord hends]
  | letter d rest =>
      cases front with
      | nil =>
          obtain ⟨rfl, rfl⟩ := List.cons.inj hs
          have hupper := upperChar_of_endsPlainWord hends
          rw [upperChar_of_ascii (endsPlainWord_iff.mp hends).1] at hupper
          exact ⟨c, by rw [(List.cons.inj hupper).1]; rfl, hends⟩
      | cons e front =>
          obtain ⟨rfl, rfl⟩ := List.cons.inj hs
          exact ⟨c, by simp [List.getLast?_cons], hends⟩
  | inequality => exact ⟨'>', rfl, by decide⟩
  | hex => exact ⟨'\'', by simp [List.getLast?_cons], by decide⟩

/-- A token that starts with the end of a word is written so. -/
theorem Sql.Reads.startsApart {c : Char} {rest mid : List Char} {t : Token}
    (h : Reads c rest t mid) (hat : c ≠ '@') (hends : endsPlainWord c = true) : StartsApart t := by
  have hascii := (endsPlainWord_iff.mp hends).1
  by_cases hblank : t = .blank
  · exact .inl hblank
  refine .inr ?_
  have hescaped : ∀ body, t ≠ .string .escaped body := by
    rintro body rfl
    obtain ⟨hform, -⟩ := h.of_escaped hascii hat
    rcases of_letterForm? hform with ⟨-, rfl | rfl⟩ | ⟨-, rfl | rfl⟩ | ⟨-, rfl | rfl⟩ <;>
      exact absurd hends (by decide)
  obtain ⟨s, hs, hspell⟩ := h.exists_spelling hascii hat hblank hescaped
  have hlength := h.suffix.length_le
  cases s with
  | nil =>
      rw [List.nil_append] at hs
      rw [← hs, List.length_cons] at hlength
      omega
  | cons d s =>
      obtain ⟨rfl, -⟩ := List.cons.inj hs
      exact hspell.head? rfl hends

/-- A token that ends with the end of a word is written so. -/
theorem Sql.Reads.endsApart {c e : Char} {rest mid s : List Char} {t : Token}
    (h : Reads c rest t mid) (hascii : c.toNat < 0x80) (hat : c ≠ '@')
    (hs : c :: rest = s ++ mid) (he : s.getLast? = some e) (hends : endsPlainWord e = true) :
    EndsApart t := by
  by_cases hblank : t = .blank
  · exact .inl hblank
  refine .inr ?_
  by_cases hescaped : ∃ body, t = .string .escaped body
  · obtain ⟨body, rfl⟩ := hescaped
    exact ⟨'\'', by simp [formatToken, Token.text, Token.closing], by decide⟩
  · obtain ⟨s', hs', hspell⟩ :=
      h.exists_spelling hascii hat hblank fun body heq => hescaped ⟨body, heq⟩
    obtain rfl : s = s' := List.append_cancel_right (hs.symm.trans hs')
    exact hspell.getLast? he hends

/-- The last token in front of a place behind the end of a word is written so. -/
theorem Sql.Scans.endsApart {before u : List Char} {tokens : List Token}
    (h : Scans (before ++ u) tokens u) (hcs : IsTame (before ++ u))
    (hbefore : ∀ c ∈ before.getLast?, endsPlainWord c = true) :
    ∀ t ∈ tokens.getLast?, EndsApart t := by
  generalize hsource : before ++ u = cs at h
  generalize hlast : u = last at h
  induction h generalizing before with
  | done => simp
  | @cons c rest mid last t tokens hread hscans ih =>
      subst hlast
      rw [hsource] at hcs
      obtain ⟨before', hmid⟩ := hscans.suffix
      obtain ⟨taken, htaken⟩ := hread.suffix
      have hsplit : before = c :: taken ++ before' := by
        refine List.append_cancel_right (?_ : before ++ u = _ ++ u)
        rw [hsource, ← htaken, ← hmid]
        simp
      have hbefore' : ∀ d ∈ before'.getLast?, endsPlainWord d = true := fun d hd =>
        hbefore d (by rw [hsplit, List.getLast?_append, Option.mem_def.mp hd]; rfl)
      cases tokens with
      | nil =>
          cases hscans
          obtain ⟨hascii, hat⟩ := hcs c List.mem_cons_self
          intro t' ht'
          obtain rfl : t = t' := Option.some.inj ht'
          have hlast := List.getLast?_eq_some_getLast (l := before) (by simp [hsplit])
          exact hread.endsApart hascii hat hsource.symm hlast (hbefore _ hlast)
      | cons t' tokens =>
          rw [List.getLast?_cons_cons]
          exact ih (hmid ▸ hcs.tail hread) hbefore' hmid rfl

/-- A token that goes on into a word in front of a blank, and the tokens that are read of what it
leaves of the word, are written as it stands there. -/
theorem Sql.ReadsOutside.exists_written {c b : Char} {run w u x mid : List Char} {t : Token}
    {tokens : List Token} (h : ReadsOutside (c :: (run ++ (w ++ u))) t mid)
    (hscans : Scans mid tokens []) (hcs : IsTame (c :: run ++ (w ++ u))) (hx : x ≠ [])
    (hsplit : w ++ u = x ++ mid) (hrun : ∃ e ∈ (c :: run).getLast?, endsPlainWord e = true)
    (hw : IsPlainWord w) (hfree : (c :: run).getLast? ≠ some '.' ∨ ¬ HidesHex w)
    (hb : u.head? = some b) (hblank : isBlank b = true) :
    ∃ front behind, t :: tokens = front ++ behind ∧ Scans u behind [] ∧ front ≠ [] ∧
      (∀ t ∈ front, t.isLayout = false) ∧
      upper (front.flatMap formatToken) = upper (c :: run) ++ upper w := by
  obtain ⟨d, w, rfl⟩ := List.exists_cons_of_ne_nil hw.ne_nil
  obtain ⟨e, x, rfl⟩ := List.exists_cons_of_ne_nil hx
  obtain rfl : d = e := (List.cons.inj hsplit).1
  obtain ⟨last, hlast, hends⟩ := hrun
  have hb' : b.toNat < 0x80 := (hcs b (by simp [List.mem_of_mem_head? hb])).1
  rw [hsplit, ← List.append_assoc] at hcs
  rw [hsplit, ← List.append_assoc, ← List.cons_append, ← List.cons_append] at h
  obtain ⟨hlayout, hwritten, hchars, hmid⟩ :=
    h.crosses (fun e he => hcs e (List.mem_append_left _ he))
      ⟨last, hlast, isWordChar_of_endsPlainWord hends⟩ (hw.of_mem List.mem_cons_self).2
      (hw.start d rfl)
  rw [upper_append] at hwritten
  have hblank' : b ∉ d :: x := fun hmem => by
    have hnot := (ends_of_isBlank hb' hblank).2.1
    rw [hchars b (List.mem_append_right _ hmem)] at hnot
    cases hnot
  obtain ⟨v, hv, rfl⟩ := exists_append_of_not_mem hblank' hb hsplit.symm
  rw [hv] at hw hfree ⊢
  cases v with
  | nil =>
      exact ⟨[t], tokens, rfl, hscans, List.cons_ne_nil _ _, by simpa using hlayout,
        by simpa using hwritten⟩
  | cons e v =>
      -- Only a number with an exponent leaves something, and only behind a point.
      obtain ⟨he, hpart⟩ := hw.of_mem (c := e) (by simp)
      obtain ⟨hpoint, hzero⟩ := hmid e rfl (isWordPart_of_isWordChar he hpart).1
      have hfree' : ¬ HidesHex (d :: x ++ e :: v) := hfree.resolve_left fun hnot => hnot hpoint
      have hstart : ¬ ['0', 'x'] <+: e :: v := by
        rintro ⟨rest, hrest⟩
        obtain ⟨rfl, rfl⟩ := List.cons.inj hrest
        obtain ⟨earlier, hearlier⟩ := List.getLast?_eq_some_iff.mp (hzero rfl)
        exact hfree' ⟨earlier, rest, by rw [hearlier]; simp⟩
      have hhex : ¬ HidesHex (e :: v) := fun hwithin =>
        hfree' (hwithin.trans (List.suffix_append _ _).isInfix)
      obtain ⟨front, behind, rfl, hbehind, hfront, hrest⟩ :=
        hscans.exists_written (fun c hc => hw.of_mem (List.mem_append_right _ hc)) hstart hhex hb
          hb' hblank (by simpa using List.length_pos_of_mem (List.mem_of_mem_head? hb))
      refine ⟨t :: front, behind, rfl, hbehind, List.cons_ne_nil _ _,
        List.forall_mem_cons.mpr ⟨hlayout, hfront⟩, ?_⟩
      rw [List.flatMap_cons, upper_append, hwritten, hrest, upper_append, List.append_assoc]

/-- **A word in front of a blank** is written as it stands there, together with what one token takes
in front of it; and where nothing is taken, it starts apart. -/
theorem Sql.Scans.exists_first_word {before w u : List Char} {tokens : List Token} {b : Char}
    (h : Scans (before ++ (w ++ u)) tokens []) (hcs : IsTame (before ++ (w ++ u)))
    (hout : Outside before (w ++ u)) (hbefore : ∀ c ∈ before.getLast?, endsPlainWord c = true)
    (hw : IsPlainWord w) (hfree : before.getLast? ≠ some '.' ∨ ¬ HidesHex w)
    (hb : u.head? = some b) (hblank : isBlank b = true) :
    ∃ front mid behind a, tokens = front ++ (mid ++ behind) ∧ Scans u behind [] ∧ mid ≠ [] ∧
      (∀ t ∈ mid, t.isLayout = false) ∧ upper (mid.flatMap formatToken) = a ++ upper w ∧
      (∀ c ∈ a.getLast?, endsPlainWord c = true) ∧
      (a = [] → ∀ t ∈ front.getLast?, EndsApart t) := by
  obtain ⟨d, w, rfl⟩ := List.exists_cons_of_ne_nil hw.ne_nil
  obtain ⟨hascii, hword⟩ := hw.of_mem List.mem_cons_self
  have hquote : ∀ e ∈ (d :: w ++ u).head?, isQuote e = false := by
    rintro e he
    obtain rfl : d = e := Option.some.inj he
    exact of_ascii (p := fun d => isWordChar d = true → isQuote d = false) (by decide) hascii hword
  rcases h.stops_or_crosses hcs hout hquote (by simp) with
    ⟨front, behind, rfl, hfront, hbehind⟩ |
    ⟨front, t, behind, c, run, x, mid, rfl, hrun, hx, hsplit, hcross, hbehind⟩
  · -- A token starts with the word, and so it is the word.
    have hb' : b.toNat < 0x80 := (hcs b (by simp [List.mem_of_mem_head? hb])).1
    cases hbehind with
    | cons hread hscans =>
        obtain ⟨rfl, rfl⟩ := hread.unique
          (reads_plainWord (fun _ he => hw.of_mem he) (hw.start d rfl) hb hb' hblank)
        refine ⟨front, [.word (d :: w)], _, [], rfl, hscans, List.cons_ne_nil _ _, by
          simp [Token.isLayout], ?_, by simp, fun _ => hfront.endsApart hcs hbefore⟩
        simpa using upper_formatToken_word _
  · -- A token goes on into the word.
    have hlast : (c :: run).getLast? = before.getLast? := by
      obtain ⟨earlier, rfl⟩ := hrun
      exact (List.getLast?_append_of_ne_nil _ (List.cons_ne_nil _ _)).symm
    have hends : ∀ e ∈ (c :: run).getLast?, endsPlainWord e = true := hlast ▸ hbefore
    obtain ⟨mid, behind, hmid, hbehind, hne, hlayout, hwritten⟩ :=
      hcross.exists_written hbehind
        (List.forall_mem_append.mpr ⟨fun e he => hcs e (List.mem_append_left _ (hrun.subset he)),
          fun e he => hcs e (List.mem_append_right _ he)⟩) hx hsplit
        ⟨_, List.getLast?_eq_some_getLast (List.cons_ne_nil c run),
          hends _ (List.getLast?_eq_some_getLast _)⟩ hw (hlast ▸ hfree) hb hblank
    refine ⟨front, mid, behind, upper (c :: run), by rw [hmid], hbehind, hne, hlayout, hwritten,
      endsPlainWord_getLast?_upper hends, fun hnil => absurd hnil ?_⟩
    have hc := (hcs c (List.mem_append_left _ (hrun.subset List.mem_cons_self))).1
    simp [upper, upperChar_of_ascii hc]

end SqlGateway
