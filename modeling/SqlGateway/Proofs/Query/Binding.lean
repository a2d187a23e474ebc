import SqlGateway.Query.Placeholder
import SqlGateway.Proofs.Text.Phrase

/-!
# Binding by Name

A statement with named placeholders is bound by putting a `?` in the place of each. This module
says which places these are without mention of the scanner: a text is divided into placeholders
and what stands between them (`Divides`), so that each placeholder begins outside quotes and none
begins in what is left. The quotes are those of the texts in between; whatever the name in `%(..)s`
holds, it opens none.

A text can be divided in one way only, since a placeholder and where it ends can be told from the
place at which it begins. The scanner finds this way, and binding works along it.

## Main results

* `Divides.unique`: a text is divided in one way.
* `exists_divides_partsFrom`: the parts that the scanner reads are such a division.
* `bind_named_exact`: when values can be bound by name, and what is then sent.
-/

namespace SqlGateway.Query

open Text

/-! ### Placeholders -/

/-- A named placeholder. -/
inductive Placeholder where
  /-- `%(name)s` -/
  | percent (name : List Char)
  /-- `:name` -/
  | colon (name : List Char)
  deriving DecidableEq, Repr

namespace Placeholder

/-- The text of a placeholder. -/
def source : Placeholder → List Char
  | percent x => '%' :: '(' :: x ++ [')', 's']
  | colon x => ':' :: x

/-- The name that a placeholder asks for. -/
def name : Placeholder → String
  | percent x | colon x => String.ofList x

/-- The placeholder as a part of a statement. -/
def part : Placeholder → Part
  | percent x => .percent x
  | colon x => .colon x

/-- A placeholder may stand behind the character `before` and in front of `after`. The name
behind a colon goes on as far as it can, and the colon follows neither a name nor a colon. -/
def Fits (before : Option Char) (after : List Char) : Placeholder → Prop
  | percent x => x ≠ [] ∧ ')' ∉ x
  | colon x =>
      (∃ c y, x = c :: y ∧ isNameStart c = true) ∧ (∀ d ∈ x, isNameChar d = true) ∧
      (∀ d ∈ after.head?, isNameChar d = false) ∧
      ∀ d ∈ before, isNameChar d = false ∧ d ≠ ':'

/-- A placeholder stands at the front of a text that follows the character `before`. -/
def Begins (before : Option Char) (cs : List Char) (q : Placeholder) : Prop :=
  ∃ rest, cs = q.source ++ rest ∧ q.Fits before rest

variable {before : Option Char} {rest rest' : List Char} {q q' : Placeholder}

@[simp] theorem source_part (q : Placeholder) : q.part.source = q.source := by cases q <;> rfl

@[simp] theorem sent_part (q : Placeholder) : q.part.sent = ['?'] := by cases q <;> rfl

@[simp] theorem name?_part (q : Placeholder) : q.part.name? = some q.name := by cases q <;> rfl

theorem source_ne_nil (q : Placeholder) : q.source ≠ [] := by cases q <;> simp [source]

/-- The name in a placeholder with a percent sign ends where the first parenthesis is closed. -/
theorem eq_of_percent {x x' : List Char} (hx : ')' ∉ x) (hx' : ')' ∉ x')
    (h : x ++ ')' :: 's' :: rest = x' ++ ')' :: 's' :: rest') : x = x' ∧ rest = rest' := by
  have hname {y : List Char} (hy : ')' ∉ y) : ∀ c ∈ y, (c != ')') = true := fun c hc => by
    simpa using fun heq : c = ')' => hy (heq ▸ hc)
  have htake : x = x' := by
    have h := congrArg (List.takeWhile (· != ')')) h
    rwa [takeWhile_run (hname hx) (by simp), takeWhile_run (hname hx') (by simp)] at h
  subst htake
  simpa using List.append_cancel_left h

/-- Where a placeholder stands, no other does, and it is clear where it ends. -/
theorem eq_of_append_eq (hq : q.Fits before rest) (hq' : q'.Fits before rest')
    (h : q.source ++ rest = q'.source ++ rest') : q = q' ∧ rest = rest' := by
  cases q with
  | percent x =>
      cases q' with
      | percent x' =>
          obtain ⟨rfl, rfl⟩ := eq_of_percent hq.2 hq'.2 (by simpa [source] using h)
          exact ⟨rfl, rfl⟩
      | colon x' => simp [source] at h
  | colon x =>
      cases q' with
      | percent x' => simp [source] at h
      | colon x' =>
          replace h : x ++ rest = x' ++ rest' := by simpa [source] using h
          obtain ⟨-, hx, hrest, -⟩ := hq
          obtain ⟨-, hx', hrest', -⟩ := hq'
          have htake : x = x' := by
            have h := congrArg (List.takeWhile isNameChar) h
            rwa [takeWhile_run hx hrest, takeWhile_run hx' hrest'] at h
          subst htake
          exact ⟨rfl, List.append_cancel_left h⟩

end Placeholder

/-! ### Quotes -/

/-- How a place in a text stands to the quotes before it. -/
inductive Quoting where
  | outside
  /-- In a section that the quote opened. -/
  | inside (quote : Char)
  /-- In a section, behind a backslash that takes the next character with it. -/
  | escaping (quote : Char)
  deriving DecidableEq, Repr

namespace Quoting

/-- What a character leads to. -/
def next : Quoting → Char → Quoting
  | outside, c => if Sql.isQuote c then inside c else outside
  | inside q, c =>
      if c = '\\' ∧ q ≠ '`' then escaping q else if c = q then outside else inside q
  | escaping q, _ => inside q

/-- What a text leads to. -/
def after (m : Quoting) (cs : List Char) : Quoting :=
  cs.foldl next m

@[simp] theorem after_nil (m : Quoting) : m.after [] = m := rfl

@[simp] theorem after_cons (m : Quoting) (c : Char) (cs : List Char) :
    m.after (c :: cs) = (m.next c).after cs := rfl

theorem after_append (m : Quoting) (a b : List Char) : m.after (a ++ b) = (m.after a).after b :=
  List.foldl_append

/-- The place behind an open quote, if one is open. -/
def ofQuote : Option Char → Quoting
  | none => outside
  | some q => inside q

end Quoting

/-! ### Divisions -/

/-- No placeholder begins in the text `t` outside quotes, where `rest` follows the text. -/
def IsClear (m : Quoting) (before : Option Char) (t rest : List Char) : Prop :=
  ∀ a z, t = a ++ z → z ≠ [] → m.after a = .outside →
    ∀ q : Placeholder, ¬ q.Begins (lastOf? before a) (z ++ rest)

/-- A text divided into placeholders, each with the text before it, and what stands behind the
last. Every placeholder begins outside quotes, and no other placeholder does. -/
inductive Divides : Quoting → Option Char → List Char → List (List Char × Placeholder) →
    List Char → Prop
  | last {m : Quoting} {before : Option Char} {t : List Char} (clear : IsClear m before t []) :
      Divides m before t [] t
  | next {m : Quoting} {before : Option Char} {t rest last : List Char} {q : Placeholder}
      {ds : List (List Char × Placeholder)}
      (clear : IsClear m before t (q.source ++ rest)) (outside : m.after t = .outside)
      (fits : q.Fits (lastOf? before t) rest)
      (divides : Divides .outside (lastOf? before (t ++ q.source)) rest ds last) :
      Divides m before (t ++ (q.source ++ rest)) ((t, q) :: ds) last

variable {m : Quoting} {before : Option Char} {t t' rest rest' cs last last' : List Char}
  {q q' : Placeholder} {ds ds' : List (List Char × Placeholder)}

theorem isClear_nil : IsClear m before [] rest :=
  fun _ _ hz hne => absurd (List.append_eq_nil_iff.mp hz.symm).2 hne

theorem isClear_singleton {c : Char}
    (h : m = .outside → ∀ q : Placeholder, ¬ q.Begins before (c :: rest)) :
    IsClear m before [c] rest := by
  intro a z hz hne hout q
  cases a with
  | nil =>
      rw [← show [c] = z from hz]
      exact h hout q
  | cons d a =>
      have hz := (List.cons.inj hz).2
      exact absurd (List.append_eq_nil_iff.mp hz.symm).2 hne

theorem Divides.eq_flatMap_append (h : Divides m before cs ds last) :
    cs = ds.flatMap (fun d => d.1 ++ d.2.source) ++ last := by
  induction h with
  | last => rfl
  | next _ _ _ _ ih =>
      rw [List.flatMap_cons, List.append_assoc, ← ih, List.append_assoc]

/-- A placeholder that begins behind a clear text does not begin inside another. -/
theorem IsClear.length_le (h : IsClear m before t rest) (outside : m.after t' = .outside)
    (fits : q.Fits (lastOf? before t') rest') (heq : t ++ rest = t' ++ (q.source ++ rest')) :
    t.length ≤ t'.length := by
  by_contra hlt
  obtain ⟨z, rfl, hz⟩ : ∃ z, t = t' ++ z ∧ q.source ++ rest' = z ++ rest := by
    rcases List.append_eq_append_iff.mp heq with ⟨z, rfl, -⟩ | ⟨z, hz, hrest⟩
    · simp at hlt
    · exact ⟨z, hz, hrest⟩
  refine h t' z rfl ?_ outside q ⟨rest', hz.symm, fits⟩
  rintro rfl
  simp at hlt

/-- **A text is divided in one way.** -/
theorem Divides.unique (h : Divides m before cs ds last) (h' : Divides m before cs ds' last') :
    ds' = ds ∧ last' = last := by
  induction h generalizing ds' last' with
  | last clear =>
      cases h' with
      | last => exact ⟨rfl, rfl⟩
      | @next _ _ t' rest' _ q' _ _ outside' fits' _ =>
          have hle := clear.length_le outside' fits' (by rw [List.append_nil])
          have hpos := List.length_pos_iff.mpr q'.source_ne_nil
          simp only [List.length_append] at hle
          omega
  | @next m before t rest last q ds clear outside fits divides ih =>
      generalize hcs : t ++ (q.source ++ rest) = cs at h'
      cases h' with
      | last clear' =>
          have hle := clear'.length_le outside fits (by rw [List.append_nil, hcs])
          have hpos := List.length_pos_iff.mpr q.source_ne_nil
          simp only [← hcs, List.length_append] at hle
          omega
      | @next _ _ t' rest' _ q' _ clear' outside' fits' divides' =>
          have hlength : t.length = t'.length :=
            le_antisymm (clear.length_le outside' fits' hcs)
              (clear'.length_le outside fits hcs.symm)
          obtain ⟨rfl, hrest⟩ := List.append_inj hcs hlength
          obtain ⟨rfl, rfl⟩ := Placeholder.eq_of_append_eq fits fits' hrest
          obtain ⟨rfl, rfl⟩ := ih divides'
          exact ⟨rfl, rfl⟩

/-- Text that stands in front of a division goes to its first text. -/
theorem Divides.exists_append {a : List Char}
    (h : Divides (m.after a) (lastOf? before a) cs ds last) (ha : IsClear m before a cs) :
    ∃ ds' last', Divides m before (a ++ cs) ds' last' ∧
      ds'.map (·.2.name) = ds.map (·.2.name) ∧
      ds'.flatMap (fun d => d.1 ++ ['?']) ++ last' =
        a ++ (ds.flatMap (fun d => d.1 ++ ['?']) ++ last) := by
  have hclear {t rest : List Char} (heq : cs = t ++ rest)
      (ht : IsClear (m.after a) (lastOf? before a) t rest) : IsClear m before (a ++ t) rest := by
    subst heq
    intro b z hz hne hout q hq
    rcases List.append_eq_append_iff.mp hz with ⟨y, rfl, ht'⟩ | ⟨y, rfl, rfl⟩
    · rw [Quoting.after_append] at hout
      rw [lastOf?_append] at hq
      exact ht y z ht' hne hout q hq
    · by_cases hy : y = []
      · subst hy
        rw [List.append_nil] at ht
        exact ht [] t rfl hne hout q hq
      · exact ha b y rfl hy hout q (by simpa using hq)
  cases h with
  | last clear =>
      exact ⟨[], a ++ cs, .last (hclear (by simp) clear), rfl, by simp⟩
  | @next _ _ t rest _ q ds clear outside fits divides =>
      refine ⟨(a ++ t, q) :: ds, last, ?_, rfl, by simp⟩
      rw [← List.append_assoc]
      refine .next (hclear rfl clear) ?_ ?_ ?_
      · rwa [Quoting.after_append]
      · rwa [lastOf?_append]
      · rwa [List.append_assoc, lastOf?_append]

/-! ### The scanner -/

theorem lastOf?_of_ne_nil {a : List Char} (h : a ≠ []) : lastOf? before a = a.getLast? := by
  rw [lastOf?, List.getLast?_eq_some_getLast h, Option.some_or]

/-- **What is read off as `%(name)s`**, given the text behind its first parenthesis. -/
theorem splitPercent?_eq_some_iff {x : List Char} :
    splitPercent? cs = some (x, rest) ↔ x ≠ [] ∧ ')' ∉ x ∧ cs = x ++ ')' :: 's' :: rest := by
  constructor
  · intro h
    have heq := eq_append_of_splitPercent? h
    rw [splitPercent?] at h
    split at h
    · split at h
      · cases h
      · rename_i hne
        cases h
        refine ⟨by simpa using hne, fun hmem => ?_, heq⟩
        simpa using List.mem_takeWhile_imp hmem
    · cases h
  · rintro ⟨hne, hmem, rfl⟩
    have hname : ∀ c ∈ x, (c != ')') = true := fun c hc => by
      simpa using fun heq : c = ')' => hmem (heq ▸ hc)
    simp only [splitPercent?]
    rw [takeWhile_run hname (by simp), dropWhile_run hname (by simp)]
    simp [hne]

theorem allowsColon_iff :
    allowsColon before = true ↔ ∀ d ∈ before, isNameChar d = false ∧ d ≠ ':' := by
  cases before <;> simp [allowsColon]

/-- The part that a character is on its own. -/
def plainPart (c : Char) : Part :=
  if c = '?' then .mark else .text [c]

@[simp] theorem source_plainPart (c : Char) : (plainPart c).source = [c] := by
  rw [plainPart]
  split
  · rename_i h
    rw [h]
    rfl
  · rfl

@[simp] theorem sent_plainPart (c : Char) : (plainPart c).sent = [c] := by
  rw [plainPart]
  split
  · rename_i h
    rw [h]
    rfl
  · rfl

@[simp] theorem name?_plainPart (c : Char) : (plainPart c).name? = none := by
  rw [plainPart]
  split <;> rfl

theorem Placeholder.of_percent_begins {c : Char} {x : List Char}
    (h : (Placeholder.percent x).Begins before (c :: rest)) :
    c = '%' ∧ rest.head? = some '(' ∧ splitPercent? (rest.drop 1) ≠ none := by
  obtain ⟨after, heq, hne, hmem⟩ := h
  obtain ⟨rfl, rfl⟩ := List.cons.inj heq
  have hsplit : splitPercent? (x ++ ')' :: 's' :: after) = some (x, after) :=
    splitPercent?_eq_some_iff.mpr ⟨hne, hmem, rfl⟩
  exact ⟨rfl, rfl, by simp [hsplit]⟩

theorem Placeholder.of_colon_begins {c : Char} {x : List Char}
    (h : (Placeholder.colon x).Begins before (c :: rest)) :
    c = ':' ∧ startsName rest = true ∧ allowsColon before = true := by
  obtain ⟨after, heq, ⟨d, y, rfl, hd⟩, -, -, hbefore⟩ := h
  obtain ⟨rfl, rfl⟩ := List.cons.inj heq
  exact ⟨rfl, hd, allowsColon_iff.mpr hbefore⟩

/-- A colon with a name behind it is a placeholder, if it may stand there. -/
theorem fits_colon (hname : startsName rest = true) (hbefore : allowsColon before = true) :
    (Placeholder.colon (rest.takeWhile isNameChar)).Fits before (rest.dropWhile isNameChar) := by
  refine ⟨?_, fun d hd => List.mem_takeWhile_imp hd, head?_dropWhile, allowsColon_iff.mp hbefore⟩
  cases rest with
  | nil => cases hname
  | cons d more =>
      have hd : isNameStart d = true := hname
      have hchar : isNameChar d = true := by
        simp only [isNameStart, isNameChar, Char.isAlphanum, Bool.or_eq_true] at hd ⊢
        exact hd.imp_left .inl
      exact ⟨d, more.takeWhile isNameChar, by rw [List.takeWhile_cons_of_pos hchar], hd⟩

/-- **What is read outside quotes**: a placeholder that begins there, or one character at which
none begins. -/
theorem nextPlainPart_cases (before : Option Char) (c : Char) (rest : List Char) :
    (∃ (q : Placeholder) (after : List Char), c :: rest = q.source ++ after ∧
      q.Fits before after ∧ nextPlainPart before c rest = ⟨q.part, none, after⟩) ∨
    ((∀ q : Placeholder, ¬ q.Begins before (c :: rest)) ∧
      nextPlainPart before c rest =
        ⟨plainPart c, if Sql.isQuote c then some c else none, rest⟩) := by
  have hplain {c : Char} (h : c ≠ '?') : plainPart c = .text [c] := if_neg h
  rw [nextPlainPart]
  split
  · -- a quote
    rename_i hquote
    refine .inr ⟨fun q hq => ?_, ?_⟩
    · cases q with
      | percent x => simp [(Placeholder.of_percent_begins hq).1, Sql.isQuote] at hquote
      | colon x => simp [(Placeholder.of_colon_begins hq).1, Sql.isQuote] at hquote
    · rw [hplain (by rintro rfl; simp [Sql.isQuote] at hquote)]
  rename_i hquote
  split
  · -- a question mark
    rename_i hmark
    obtain rfl := beq_iff_eq.mp hmark
    refine .inr ⟨fun q hq => ?_, rfl⟩
    cases q with
    | percent x => simpa using (Placeholder.of_percent_begins hq).1
    | colon x => simpa using (Placeholder.of_colon_begins hq).1
  rename_i hmark
  rw [beq_iff_eq] at hmark
  split
  · -- a percent sign and a parenthesis
    rename_i hopen
    obtain ⟨hc, hhead⟩ : c = '%' ∧ rest.head? = some '(' := by simpa using hopen
    obtain ⟨more, rfl⟩ : ∃ more, rest = '(' :: more := List.head?_eq_some_iff.mp hhead
    split
    · rename_i x after hsplit
      obtain ⟨hne, hmem, heq⟩ := splitPercent?_eq_some_iff.mp hsplit
      rw [List.drop_one, List.tail_cons] at heq
      exact .inl ⟨.percent x, after, by simp [Placeholder.source, hc, heq], ⟨hne, hmem⟩, rfl⟩
    · rename_i hsplit
      refine .inr ⟨fun q hq => ?_, by rw [hplain hmark]⟩
      cases q with
      | percent x => exact (Placeholder.of_percent_begins hq).2.2 hsplit
      | colon x => simpa [hc] using (Placeholder.of_colon_begins hq).1
  rename_i hopen
  split
  · -- a colon and a name
    rename_i hstart
    obtain ⟨⟨hc, hname⟩, hbefore⟩ :
        (c = ':' ∧ startsName rest = true) ∧ allowsColon before = true := by
      simpa using hstart
    exact .inl ⟨.colon (rest.takeWhile isNameChar), rest.dropWhile isNameChar,
      by simp [Placeholder.source, hc], fits_colon hname hbefore, rfl⟩
  · -- any other character
    rename_i hstart
    refine .inr ⟨fun q hq => ?_, by rw [hplain hmark]⟩
    cases q with
    | percent x =>
        obtain ⟨hc, hhead, -⟩ := Placeholder.of_percent_begins hq
        exact hopen (by simp [hc, hhead])
    | colon x =>
        obtain ⟨hc, hname, hbefore⟩ := Placeholder.of_colon_begins hq
        exact hstart (by simp [hc, hname, hbefore])

/-- What the scanner reads at a place: a placeholder that begins there, or a text in which none
begins. Unless the statement ends with it, the scanner knows whether it leaves a quote open. -/
inductive Scans : Option Char → Option Char → List Char → PartStep → Prop
  | placeholder {before : Option Char} {q : Placeholder} {after : List Char}
      (fits : q.Fits before after) :
      Scans none before (q.source ++ after) ⟨q.part, none, after⟩
  | text {quote quote' before : Option Char} {p : Part} {a after : List Char} (ne : a ≠ [])
      (source : p.source = a) (sent : p.sent = a) (name : p.name? = none)
      (quoting : after = [] ∨ (Quoting.ofQuote quote).after a = .ofQuote quote')
      (clear : IsClear (.ofQuote quote) before a after) :
      Scans quote before (a ++ after) ⟨p, quote', after⟩

theorem scans_nextQuotedPart (quote c : Char) (rest : List Char) :
    Scans (some quote) before (c :: rest) (nextQuotedPart quote c rest) := by
  have hclear (rest : List Char) : IsClear (.inside quote) before [c] rest :=
    isClear_singleton fun hout => nomatch hout
  have hone {quote' : Option Char} (h : (Quoting.inside quote).next c = .ofQuote quote') :
      Scans (some quote) before ([c] ++ rest) ⟨.text [c], quote', rest⟩ :=
    .text (List.cons_ne_nil _ _) rfl rfl rfl (.inr h) (hclear rest)
  unfold nextQuotedPart
  split
  · rename_i hescape
    replace hescape : c = '\\' ∧ quote ≠ '`' := by simpa using hescape
    split
    · rename_i d more
      refine .text (a := [c, d]) (List.cons_ne_nil _ _) rfl rfl rfl (.inr ?_) ?_
      · simp [Quoting.next, hescape, Quoting.ofQuote]
      · intro a z hz hne hout
        match a, hz, hout with
        | [], _, hout => cases hout
        | [e], hz, hout =>
            obtain rfl : c = e := (List.cons.inj hz).1
            simp [Quoting.next, hescape, Quoting.ofQuote] at hout
        | e :: f :: a, hz, _ => simp_all
    · exact .text (a := [c]) (List.cons_ne_nil _ _) rfl rfl rfl (.inl rfl) (hclear [])
  · rename_i hescape
    replace hescape : ¬ (c = '\\' ∧ quote ≠ '`') := by simpa using hescape
    split
    · rename_i hclose
      obtain rfl := beq_iff_eq.mp hclose
      exact hone (by simp [Quoting.next, hescape, Quoting.ofQuote])
    · rename_i hclose
      rw [beq_iff_eq] at hclose
      exact hone (by simp [Quoting.next, hescape, hclose, Quoting.ofQuote])

theorem scans_nextPart (quote before : Option Char) (c : Char) (rest : List Char) :
    Scans quote before (c :: rest) (nextPart quote before c rest) := by
  cases quote with
  | some quote => exact scans_nextQuotedPart quote c rest
  | none =>
      rw [nextPart]
      rcases nextPlainPart_cases before c rest with
        ⟨q, after, heq, hfits, hstep⟩ | ⟨hnone, hstep⟩
      · rw [heq, hstep]
        exact .placeholder hfits
      · rw [hstep]
        refine .text (a := [c]) (List.cons_ne_nil _ _) (source_plainPart c) (sent_plainPart c)
          (name?_plainPart c) (.inr ?_) (isClear_singleton fun _ => hnone)
        by_cases hquote : Sql.isQuote c = true <;> simp [Quoting.next, Quoting.ofQuote, hquote]

theorem Divides.of_nil {m' : Quoting} {before' : Option Char} (h : Divides m before [] ds last) :
    Divides m' before' [] ds last := by
  generalize hcs : [] = cs at h
  cases h with
  | last =>
      subst hcs
      exact .last isClear_nil
  | next => simp [Placeholder.source_ne_nil] at hcs

/-- **The parts of a statement are its division**, with a `?` sent in the place of each
placeholder. -/
theorem exists_divides_partsFrom (quote before : Option Char) (cs : List Char) :
    ∃ ds last, Divides (.ofQuote quote) before cs ds last ∧
      (partsFrom quote before cs).flatMap Part.sent = ds.flatMap (fun d => d.1 ++ ['?']) ++ last ∧
      (partsFrom quote before cs).filterMap Part.name? = ds.map (·.2.name) := by
  fun_induction partsFrom quote before cs with
  | case1 quote before => exact ⟨[], [], .last isClear_nil, rfl, rfl⟩
  | case2 quote before c rest step _ ih =>
      have hscan : Scans quote before (c :: rest) step := scans_nextPart quote before c rest
      obtain ⟨ds, last, hdivides, hsent, hnames⟩ := ih
      rw [List.flatMap_cons, hsent, List.filterMap_cons, hnames]
      clear_value step
      generalize hcs : c :: rest = cs at hscan
      cases hscan with
      | @placeholder _ q after fits =>
          refine ⟨([], q) :: ds, last, ?_, by simp, by simp⟩
          refine .next isClear_nil rfl fits ?_
          rwa [List.nil_append, lastOf?_of_ne_nil q.source_ne_nil, ← q.source_part]
      | @text _ quote' _ p a after ne source sent name quoting clear =>
          have hrest :
              Divides ((Quoting.ofQuote quote).after a) (lastOf? before a) after ds last := by
            rcases quoting with rfl | hquote
            · exact hdivides.of_nil
            · rwa [hquote, lastOf?_of_ne_nil ne, ← source]
          obtain ⟨ds', last', hdivides', hnames', htexts⟩ := hrest.exists_append clear
          exact ⟨ds', last', hdivides', by rw [htexts, sent], by rw [hnames', name]⟩

/-! ### Binding -/

variable {names : List String} {n : String}

theorem mem_dropRepeats : n ∈ dropRepeats names ↔ n ∈ names := by
  fun_induction dropRepeats names with
  | case1 a b rest heq ih =>
      obtain rfl := beq_iff_eq.mp heq
      simp [ih]
  | case2 a b rest _ ih => simp [ih]
  | case3 names _ => rfl

theorem map_some_filterMap {α : Type} {f : String → Option α} (h : ∀ n ∈ names, ∃ a, f n = some a) :
    (names.filterMap f).map some = names.map f := by
  induction names with
  | nil => rfl
  | cons n names ih =>
      obtain ⟨a, ha⟩ := h n List.mem_cons_self
      rw [List.filterMap_cons, ha, List.map_cons, List.map_cons, ha,
        ih fun n hn => h n (List.mem_cons_of_mem _ hn)]

/-- Values are bound by name if each name has one. -/
theorem bind_named_eq_ok_iff {values : NameMap Value} {sql : String} {bound : Bound} :
    bind (.named values) sql = .ok bound ↔
      (∀ n ∈ placeholderNames sql, ∃ value, values.get? n = some value) ∧
      bound = ⟨String.ofList ((parts sql.toList).flatMap Part.sent),
        (placeholderNames sql).filterMap values.get?⟩ := by
  have hmissing : ((placeholderNames sql).filter fun n => (values.get? n).isNone).isEmpty = true ↔
      ∀ n ∈ placeholderNames sql, ∃ value, values.get? n = some value := by
    simp [List.isEmpty_iff, List.filter_eq_nil_iff, Option.ne_none_iff_exists']
  rw [← hmissing, bind]
  split
  · rename_i hempty
    rw [Except.ok.injEq]
    exact ⟨fun h => ⟨hempty, h.symm⟩, fun h => h.2.symm⟩
  · rename_i hempty
    exact ⟨by rintro ⟨⟩, fun h => absurd h.1 hempty⟩

/-- **Binding by name.** A statement is divided, in one way, into placeholders and the texts in
between. Values can be bound exactly if each placeholder has one. The texts are then sent as they
stand, with a `?` in the place of each placeholder, and the values in the order of the
placeholders; otherwise the names without a value are reported, and no others. -/
theorem bind_named_exact (values : NameMap Value) (sql : String) :
    ∃ ds last,
      Divides .outside none sql.toList ds last ∧
      (∀ ds' last', Divides .outside none sql.toList ds' last' → ds' = ds ∧ last' = last) ∧
      sql.toList = ds.flatMap (fun d => d.1 ++ d.2.source) ++ last ∧
      ((∃ bound, bind (.named values) sql = .ok bound) ↔
        ∀ d ∈ ds, ∃ value, values.get? d.2.name = some value) ∧
      (∀ bound, bind (.named values) sql = .ok bound →
        bound.sql.toList = ds.flatMap (fun d => d.1 ++ ['?']) ++ last ∧
        bound.values.map some = ds.map fun d => values.get? d.2.name) ∧
      ∀ e, bind (.named values) sql = .error e →
        ∃ missing, e.toGateway =
            .validation ("missing value for parameter " ++ String.intercalate ", " missing) ∧
          ∀ n, n ∈ missing ↔ (∃ d ∈ ds, d.2.name = n) ∧ values.get? n = none := by
  obtain ⟨ds, last, hdivides, hsent, hnames⟩ := exists_divides_partsFrom none none sql.toList
  replace hnames : placeholderNames sql = ds.map (·.2.name) := hnames
  refine ⟨ds, last, hdivides, fun _ _ h => hdivides.unique h, hdivides.eq_flatMap_append,
    ?_, ?_, ?_⟩
  · simp only [bind_named_eq_ok_iff, exists_and_left, exists_eq, and_true, hnames,
      List.forall_mem_map]
  · intro bound hbound
    obtain ⟨hvalues, rfl⟩ := bind_named_eq_ok_iff.mp hbound
    refine ⟨by rw [String.toList_ofList]; exact hsent, ?_⟩
    rw [map_some_filterMap hvalues, hnames, List.map_map]
    rfl
  · intro e he
    rw [bind] at he
    split at he
    · cases he
    · obtain rfl := Except.error.inj he
      refine ⟨_, rfl, fun n => ?_⟩
      rw [mem_dropRepeats, List.mem_filter, hnames, List.mem_map, Option.isNone_iff_eq_none]

end SqlGateway.Query
