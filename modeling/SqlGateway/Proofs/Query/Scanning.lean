import SqlGateway.Proofs.Query.Binding
import SqlGateway.Proofs.Sql.Escape

/-!
# How the Scanner Goes On

What the scanner makes of a text that starts with a placeholder, with a character that is none, or
with a quote, and of a text in two parts. `sentFrom` is what is sent for a text: it starts as the
text does, unless a placeholder stands there.

A text can be cut where no placeholder reaches over the cut (`partsFrom_append`). This is so
beside a character that stands in no placeholder.

## Main results

* `partsFrom_placeholder`, `partsFrom_char`: one step of the scanner outside quotes.
* `partsFrom_append`: a text in two parts is scanned part by part.
* `exists_partsFrom_quoted`: a quoted section is what the reader of quoted sections takes it for.
-/

namespace SqlGateway.Query

open Text Sql

variable {before quote : Option Char} {c d : Char} {a x cs rest after : List Char} {q : Placeholder}

/-- What is sent for a text. -/
def sentFrom (quote before : Option Char) (cs : List Char) : List Char :=
  (partsFrom quote before cs).flatMap Part.sent

@[simp] theorem partsFrom_nil : partsFrom quote before [] = [] := by
  rw [partsFrom]

@[simp] theorem sentFrom_nil : sentFrom quote before [] = [] := by
  rw [sentFrom, partsFrom_nil, List.flatMap_nil]

/-! ### One step -/

theorem Placeholder.not_begins (hpercent : c ≠ '%') (hcolon : c ≠ ':') :
    ¬ q.Begins before (c :: rest) := by
  rintro ⟨after, heq, -⟩
  cases q with
  | percent x => exact hpercent (List.cons.inj heq).1
  | colon x => exact hcolon (List.cons.inj heq).1

/-- **A placeholder at the front** is one part. -/
theorem partsFrom_placeholder (fits : q.Fits before after) :
    partsFrom none before (q.source ++ after) =
      q.part :: partsFrom none (lastOf? before q.source) after := by
  obtain ⟨c, r, hsource⟩ := List.exists_cons_of_ne_nil q.source_ne_nil
  have hlast : lastOf? before q.source = q.part.source.getLast? := by
    rw [q.source_part, lastOf?_of_ne_nil q.source_ne_nil]
  rw [hlast, hsource, List.cons_append, partsFrom]
  rcases nextPlainPart_cases before c (r ++ after) with
    ⟨q', after', heq, fits', hstep⟩ | ⟨hnone, -⟩
  · rw [← List.cons_append, ← hsource] at heq
    obtain ⟨rfl, rfl⟩ := Placeholder.eq_of_append_eq fits fits' heq
    rw [nextPart, hstep]
  · exact absurd ⟨after, by rw [hsource, List.cons_append], fits⟩ (hnone q)

/-- **A character at the front** at which no placeholder begins is one part. -/
theorem partsFrom_char (hquote : isQuote c = false)
    (hnone : ∀ q : Placeholder, ¬ q.Begins before (c :: rest)) :
    partsFrom none before (c :: rest) = plainPart c :: partsFrom none (some c) rest := by
  rw [partsFrom]
  rcases nextPlainPart_cases before c rest with ⟨q, after, heq, fits, -⟩ | ⟨-, hstep⟩
  · exact absurd ⟨after, heq, fits⟩ (hnone q)
  · rw [nextPart, hstep, if_neg (by simp [hquote]), source_plainPart]
    rfl

/-- A quote at the front opens a section. -/
theorem partsFrom_quote (hquote : isQuote c = true) :
    partsFrom none before (c :: rest) = .text [c] :: partsFrom (some c) (some c) rest := by
  rw [partsFrom, nextPart, nextPlainPart, if_pos hquote]
  rfl

theorem sentFrom_placeholder (fits : q.Fits before after) :
    sentFrom none before (q.source ++ after) =
      '?' :: sentFrom none (lastOf? before q.source) after := by
  rw [sentFrom, partsFrom_placeholder fits, List.flatMap_cons, q.sent_part]
  rfl

theorem sentFrom_char (hquote : isQuote c = false)
    (hnone : ∀ q : Placeholder, ¬ q.Begins before (c :: rest)) :
    sentFrom none before (c :: rest) = c :: sentFrom none (some c) rest := by
  rw [sentFrom, partsFrom_char hquote hnone, List.flatMap_cons, sent_plainPart]
  rfl

/-- A sign that starts no placeholder and no quoted section is one part, and is sent. -/
theorem partsFrom_sign (hc : isQuote c = false ∧ c ≠ '%' ∧ c ≠ ':') :
    partsFrom none before (c :: rest) = plainPart c :: partsFrom none (some c) rest :=
  partsFrom_char hc.1 fun _ => Placeholder.not_begins hc.2.1 hc.2.2

theorem sentFrom_sign (hc : isQuote c = false ∧ c ≠ '%' ∧ c ≠ ':') :
    sentFrom none before (c :: rest) = c :: sentFrom none (some c) rest :=
  sentFrom_char hc.1 fun _ => Placeholder.not_begins hc.2.1 hc.2.2

/-- A proof about what the scanner makes of a text follows its steps: a placeholder, or a
character at which none begins. What a quote opens is left to `exists_partsFrom_quoted`. -/
theorem scan_induction {motive : Option Char → List Char → Prop}
    (nil : ∀ before, motive before [])
    (quote : ∀ before c rest, isQuote c = true → motive before (c :: rest))
    (placeholder : ∀ (before : Option Char) (q : Placeholder) (after : List Char),
      q.Fits before after → motive (lastOf? before q.source) after →
      motive before (q.source ++ after))
    (char : ∀ before c rest, isQuote c = false →
      (∀ q : Placeholder, ¬ q.Begins before (c :: rest)) → motive (some c) rest →
      motive before (c :: rest))
    (before : Option Char) (cs : List Char) : motive before cs := by
  induction hlength : cs.length using Nat.strong_induction_on generalizing before cs with
  | _ n ih =>
    cases cs with
    | nil => exact nil before
    | cons c rest =>
        by_cases hquote : isQuote c = true
        · exact quote before c rest hquote
        by_cases hbegins : ∃ q : Placeholder, q.Begins before (c :: rest)
        · obtain ⟨q, after, heq, fits⟩ := hbegins
          have hlt : after.length < n := by
            have hpos := List.length_pos_iff.mpr q.source_ne_nil
            rw [heq, List.length_append] at hlength
            omega
          rw [heq]
          exact placeholder before q after fits (ih _ hlt _ _ rfl)
        · exact char before c rest (by simpa using hquote) (not_exists.mp hbegins)
            (ih rest.length (by simp [← hlength]) _ _ rfl)

/-- What is sent starts as the text does, unless it starts with a question mark. -/
theorem head?_sentFrom (hd : d ≠ '?') (h : (sentFrom none before cs).head? = some d) :
    cs.head? = some d := by
  induction before, cs using scan_induction with
  | nil => simp at h
  | quote before c rest hquote =>
      rw [sentFrom, partsFrom_quote hquote] at h
      simpa [Part.sent] using h
  | placeholder before q after fits =>
      rw [sentFrom_placeholder fits] at h
      exact absurd (Option.some.inj h).symm hd
  | char before c rest hquote hnone =>
      rw [sentFrom_char hquote hnone] at h
      simpa using h

/-- No characters are sent but question marks and those of the text. -/
theorem mem_sentFrom (h : c ∈ sentFrom quote before cs) : c ∈ cs ∨ c = '?' := by
  obtain ⟨p, hp, hc⟩ := List.mem_flatMap.mp h
  cases p with
  | text chars =>
      left
      rw [← source_partsFrom quote before cs]
      exact List.mem_flatMap.mpr ⟨_, hp, hc⟩
  | mark | percent | colon => exact .inr (List.mem_singleton.mp hc)

/-! ### Texts in two parts -/

/-- A text in front of which nothing is a placeholder is read character by character. -/
theorem partsFrom_run (ha : ∀ c ∈ a, isQuote c = false ∧ c ≠ '%' ∧ c ≠ ':' ∧ c ≠ '?') :
    partsFrom none before (a ++ rest) =
      a.map (fun c => .text [c]) ++ partsFrom none (lastOf? before a) rest := by
  induction a generalizing before with
  | nil => rfl
  | cons c a ih =>
      obtain ⟨⟨hquote, hpercent, hcolon, hmark⟩, ha⟩ := List.forall_mem_cons.mp ha
      rw [List.cons_append, partsFrom_sign ⟨hquote, hpercent, hcolon⟩, ih ha, plainPart,
        if_neg hmark, lastOf?_cons]
      rfl

/-- Two texts meet at a character: the first ends with it, or the second starts with it. A text
without characters meets any other. -/
def MeetsAt (d : Char) (x rest : List Char) : Prop :=
  x.getLast? = some d ∨ (∀ e ∈ rest.head?, e = d) ∨ x = []

theorem MeetsAt.of_append {b : List Char} (h : MeetsAt d (b ++ x) rest) : MeetsAt d x rest := by
  rcases h with hlast | hhead | hnil
  · rcases List.eq_nil_or_concat x with hx | ⟨x, e, rfl⟩
    · exact .inr (.inr hx)
    · exact .inl (by simpa using hlast)
  · exact .inr (.inl hhead)
  · exact .inr (.inr (List.append_eq_nil_iff.mp hnil).2)

namespace Placeholder.Fits

theorem of_append (fits : q.Fits before (x ++ rest)) : q.Fits before x := by
  cases q with
  | percent y => exact fits
  | colon y =>
      obtain ⟨hstart, hname, hafter, hbefore⟩ := fits
      refine ⟨hstart, hname, fun c hc => hafter c ?_, hbefore⟩
      rw [List.head?_append, Option.mem_def.mp hc]
      rfl

/-- A placeholder in the first of two texts is one in both together, if they meet at a character
that stands in no name. -/
theorem append (fits : q.Fits before x) (hd : isNameChar d = false)
    (hmeet : MeetsAt d (q.source ++ x) rest) : q.Fits before (x ++ rest) := by
  cases q with
  | percent y => exact fits
  | colon y =>
      obtain ⟨⟨c, y, rfl, hstart⟩, hname, hafter, hbefore⟩ := fits
      refine ⟨⟨c, y, rfl, hstart⟩, hname, ?_, hbefore⟩
      cases x with
      | cons e x => simpa using hafter e rfl
      | nil =>
          rcases hmeet with hlast | hhead | hnil
          · rw [List.append_nil, Placeholder.source, List.getLast?_cons_cons] at hlast
            rw [hname d (List.mem_of_getLast? hlast)] at hd
            cases hd
          · intro e he
            rw [hhead e he, hd]
          · cases hnil

end Placeholder.Fits

/-- A placeholder at the front of two texts, in which the character at which they meet does not
stand, is in the first. -/
theorem exists_source_append (hsource : d ∉ q.source) (hmeet : MeetsAt d x rest) (hne : x ≠ [])
    (heq : x ++ rest = q.source ++ after) : ∃ z, x = q.source ++ z ∧ after = z ++ rest := by
  rcases List.append_eq_append_iff.mp heq with ⟨z, hz, hrest⟩ | ⟨z, hz, hafter⟩
  · cases z with
    | nil => exact ⟨[], by simpa using hz.symm, by simpa using hrest.symm⟩
    | cons e z =>
        refine absurd ?_ hsource
        rw [hz]
        rcases hmeet with hlast | hhead | hnil
        · exact List.mem_append_left _ (List.mem_of_getLast? hlast)
        · obtain rfl : e = d := hhead e (by rw [hrest]; rfl)
          simp
        · exact absurd hnil hne
  · exact ⟨z, hz, hafter⟩

/-- **A text without quotes in front of another** is scanned on its own, where the two meet at a
character that stands in no placeholder. -/
theorem partsFrom_append (hx : ∀ c ∈ x, isQuote c = false) (hd : isNameChar d = false)
    (hmeet : MeetsAt d x rest)
    (hcut : ∀ q : Placeholder, q.part ∈ partsFrom none before (x ++ rest) → d ∉ q.source) :
    partsFrom none before (x ++ rest) =
      partsFrom none before x ++ partsFrom none (lastOf? before x) rest := by
  induction hlength : x.length using Nat.strong_induction_on generalizing before x with
  | _ n ih =>
    by_cases hne : x = []
    · subst hne
      simp
    by_cases hbegins : ∃ q : Placeholder, q.Begins before (x ++ rest)
    · obtain ⟨q, after, heq, fits⟩ := hbegins
      have hscan := partsFrom_placeholder fits
      rw [heq, hscan] at hcut
      obtain ⟨z, rfl, rfl⟩ := exists_source_append (hcut q List.mem_cons_self) hmeet hne heq
      have hlt : z.length < n := by
        have hpos := List.length_pos_iff.mpr q.source_ne_nil
        rw [List.length_append] at hlength
        omega
      rw [heq, hscan, partsFrom_placeholder fits.of_append, lastOf?_append, List.cons_append]
      congr 1
      exact ih _ hlt (fun c hc => hx c (List.mem_append_right _ hc)) hmeet.of_append
        (fun q' hq' => hcut q' (List.mem_cons_of_mem _ hq')) rfl
    · obtain ⟨c, x, rfl⟩ := List.exists_cons_of_ne_nil hne
      replace hbegins : ∀ q : Placeholder, ¬ q.Begins before (c :: (x ++ rest)) :=
        not_exists.mp hbegins
      have hquote := hx c List.mem_cons_self
      have hscan := partsFrom_char hquote hbegins
      have hnone : ∀ q : Placeholder, ¬ q.Begins before (c :: x) := by
        rintro q ⟨z, heq, fits⟩
        rw [heq] at hmeet
        refine hbegins q ⟨z ++ rest, ?_, fits.append hd hmeet⟩
        rw [← List.append_assoc, ← heq, List.cons_append]
      rw [List.cons_append, hscan] at hcut
      rw [List.cons_append, hscan, partsFrom_char hquote hnone, lastOf?_cons, List.cons_append]
      congr 1
      exact ih x.length (by simp [← hlength]) (fun e he => hx e (List.mem_cons_of_mem _ he))
        (MeetsAt.of_append (b := [c]) hmeet)
        (fun q' hq' => hcut q' (List.mem_cons_of_mem _ hq')) rfl

/-! ### Quoted sections -/

section Quoted

variable {quote : Char}

theorem partsFrom_quoted_escape (hquote : quote ≠ '`') :
    partsFrom (some quote) before ('\\' :: c :: rest) =
      .text ['\\', c] :: partsFrom (some quote) (some c) rest := by
  rw [partsFrom, nextPart, nextQuotedPart.eq_def, if_pos (by simp [hquote])]
  rfl

theorem partsFrom_quoted_quote (hquote : isQuote quote = true) :
    partsFrom (some quote) before (quote :: rest) =
      .text [quote] :: partsFrom none (some quote) rest := by
  have hne : quote ≠ '\\' := by
    rintro rfl
    cases hquote
  rw [partsFrom, nextPart, nextQuotedPart.eq_def, if_neg (by simp [hne]), if_pos (by simp)]
  rfl

theorem partsFrom_quoted_char (hescape : (c == '\\' && quote != '`') = false)
    (hne : (c == quote) = false) :
    partsFrom (some quote) before (c :: rest) =
      .text [c] :: partsFrom (some quote) (some c) rest := by
  rw [partsFrom, nextPart, nextQuotedPart.eq_def, if_neg (by simp [hescape]),
    if_neg (by simp [hne])]
  rfl

theorem exists_partsFrom_readQuoted (hquote : isQuote quote = true) (before : Option Char)
    (cs : List Char) :
    ∃ ps, (∀ p ∈ ps, ∃ chars, p = .text chars) ∧
      partsFrom (some quote) before cs =
        ps ++ partsFrom none (some quote) (readQuoted quote cs).rest := by
  fun_induction readQuoted quote cs generalizing before with
  | case1 => exact ⟨[], by simp, by simp⟩
  | case2 c hc =>
      obtain rfl := beq_iff_eq.mp hc
      exact ⟨[.text [c]], by simp, partsFrom_quoted_quote hquote⟩
  | case3 c hc =>
      refine ⟨[.text [c]], by simp, ?_⟩
      rw [partsFrom_nil, partsFrom, nextPart, nextQuotedPart.eq_def]
      split <;> simp
  | case4 c d rest hc ih =>
      obtain ⟨ps, htexts, hscan⟩ := ih (some d)
      obtain ⟨rfl, hbacktick⟩ : c = '\\' ∧ quote ≠ '`' := by simpa using hc
      refine ⟨.text ['\\', d] :: ps, by simpa using htexts, ?_⟩
      rw [partsFrom_quoted_escape hbacktick, hscan]
      rfl
  | case5 c d rest _ hc hd ih =>
      -- the scanner leaves the section and enters it again
      obtain rfl := beq_iff_eq.mp hc
      obtain rfl := beq_iff_eq.mp hd
      obtain ⟨ps, htexts, hscan⟩ := ih (some d)
      refine ⟨.text [d] :: .text [d] :: ps, by simpa using htexts, ?_⟩
      rw [partsFrom_quoted_quote hquote, partsFrom_quote hquote, hscan]
      rfl
  | case6 c d rest _ hc hd =>
      obtain rfl := beq_iff_eq.mp hc
      exact ⟨[.text [c]], by simp, partsFrom_quoted_quote hquote⟩
  | case7 c d rest hc hq ih =>
      obtain ⟨ps, htexts, hscan⟩ := ih (some c)
      refine ⟨.text [c] :: ps, by simpa using htexts, ?_⟩
      rw [partsFrom_quoted_char (by simpa using hc) (by simpa using hq), hscan]
      rfl

/-- **A quoted section** is read to where the reader of quoted sections ends it, and it is sent as
it stands. -/
theorem exists_partsFrom_quoted (hquote : isQuote quote = true) (before : Option Char)
    (cs : List Char) :
    ∃ ps, (∀ p ∈ ps, ∃ chars, p = .text chars) ∧
      partsFrom none before (quote :: cs) =
        ps ++ partsFrom none (some quote) (readQuoted quote cs).rest ∧
      ps.flatMap Part.sent =
        quotedSource quote (readQuoted quote cs).body (readQuoted quote cs).closed := by
  obtain ⟨ps, htexts, hscan⟩ := exists_partsFrom_readQuoted hquote (some quote) cs
  have hall : ∀ p ∈ Part.text [quote] :: ps, ∃ chars, p = .text chars := by simpa using htexts
  have hparts : partsFrom none before (quote :: cs) =
      (.text [quote] :: ps) ++ partsFrom none (some quote) (readQuoted quote cs).rest := by
    rw [partsFrom_quote hquote, hscan]
    rfl
  refine ⟨.text [quote] :: ps, hall, hparts, ?_⟩
  have hsent : (Part.text [quote] :: ps).flatMap Part.sent =
      (Part.text [quote] :: ps).flatMap Part.source := by
    refine List.flatMap_congr fun p hp => ?_
    obtain ⟨chars, rfl⟩ := hall p hp
    rfl
  have hsource := congrArg (List.flatMap Part.source) hparts
  rw [source_partsFrom, List.flatMap_append, source_partsFrom, ← hsent,
    ← quotedSource_readQuoted quote cs] at hsource
  exact (List.append_cancel_right hsource).symm

end Quoted

end SqlGateway.Query
