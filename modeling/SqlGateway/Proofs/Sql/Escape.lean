import SqlGateway.Proofs.Sql.Break

/-!
# Where Strings End

Two readers decide where a string ends: `readQuoted`, which every quoted section goes
through, and `readEscaped?`, which decodes the escapes of `E'…'` on its way. An escape can
take several characters, but never a quote or a backslash behind the one it starts with, so
the two agree wherever the second succeeds. What follows a section has no part in either, as
long as it does not start with a quote of the same kind.

## Main results

* `readQuoted_of_readEscaped?`: an escaped string ends where a quoted section does.
* `readQuoted_append_of_closed`, `readEscaped?_append`: neither depends on what follows.
-/

namespace SqlGateway.Sql

@[simp] theorem QuotedTail.closed_extend (chars : List Char) (t : QuotedTail) :
    (t.extend chars).closed = t.closed := rfl

@[simp] theorem QuotedTail.rest_extend (chars : List Char) (t : QuotedTail) :
    (t.extend chars).rest = t.rest := rfl

@[simp] theorem QuotedTail.body_extend (chars : List Char) (t : QuotedTail) :
    (t.extend chars).body = chars ++ t.body := rfl

/-! ### Sections and what follows them -/

/-- A character that neither closes a section nor escapes belongs to its body. -/
theorem readQuoted_cons {quote c : Char} (hq : c ≠ quote) (hb : c = '\\' → quote = '`')
    (cs : List Char) : readQuoted quote (c :: cs) = (readQuoted quote cs).extend [c] := by
  cases cs with
  | nil => simp [readQuoted, hq, QuotedTail.extend]
  | cons d rest =>
      have hescape : (c == '\\' && quote != '`') = false := by
        by_cases h : c = '\\'
        · simp [hb h]
        · simp [h]
      rw [readQuoted, hescape]
      simp [hq]

/-- So do several such characters. -/
theorem readQuoted_append {quote : Char} {chars : List Char}
    (hchars : ∀ c ∈ chars, c ≠ quote ∧ c ≠ '\\') (cs : List Char) :
    readQuoted quote (chars ++ cs) = (readQuoted quote cs).extend chars := by
  induction chars with
  | nil => rfl
  | cons c chars ih =>
      obtain ⟨hq, hb⟩ := hchars c List.mem_cons_self
      rw [List.cons_append, readQuoted_cons hq (fun h => absurd h hb),
        ih fun d hd => hchars d (List.mem_cons_of_mem c hd)]
      rfl

/-- A backslash takes the character behind it along, whatever that is. -/
theorem readQuoted_escape {quote : Char} (hne : quote ≠ '`') (c : Char) (cs : List Char) :
    readQuoted quote ('\\' :: c :: cs) = (readQuoted quote cs).extend ['\\', c] := by
  simp [readQuoted, hne]

/-- A doubled quote does not close the section. -/
theorem readQuoted_double {quote : Char} (hne : quote ≠ '\\') (cs : List Char) :
    readQuoted quote (quote :: quote :: cs) = (readQuoted quote cs).extend [quote, quote] := by
  simp [readQuoted, hne]

/-- A quote with no quote of the same kind behind it closes the section. -/
theorem readQuoted_quote {quote : Char} (hne : quote ≠ '\\') {rest : List Char}
    (hrest : rest.head? ≠ some quote) : readQuoted quote (quote :: rest) = ⟨[], true, rest⟩ := by
  cases rest with
  | nil => simp [readQuoted]
  | cons d more =>
      have hd : d ≠ quote := by simpa using hrest
      simp [readQuoted, hne, hd]

/-- Behind a section that is closed stands no quote of the same kind; it would be doubled. -/
theorem head?_rest_readQuoted {quote : Char} {cs : List Char}
    (h : (readQuoted quote cs).closed = true) : (readQuoted quote cs).rest.head? ≠ some quote := by
  fun_induction readQuoted quote cs with
  | case1 => cases h
  | case2 => simp
  | case3 => cases h
  | case4 c d rest _ ih => exact ih h
  | case5 c d rest _ _ _ ih => exact ih h
  | case6 c d rest _ _ hd => simpa using hd
  | case7 c d rest _ _ ih => exact ih h

/-- A section that is not closed is the whole text. -/
theorem readQuoted_of_not_closed {quote : Char} {cs : List Char}
    (h : (readQuoted quote cs).closed = false) :
    (readQuoted quote cs).body = cs ∧ (readQuoted quote cs).rest = [] := by
  fun_induction readQuoted quote cs <;> simp_all

/-- The bodies of closed sections: whatever follows the closing quote, unless it is a quote
of the same kind, the section is read to that quote. -/
def IsBody (quote : Char) (body : List Char) : Prop :=
  ∀ rest : List Char, rest.head? ≠ some quote →
    readQuoted quote (body ++ quote :: rest) = ⟨body, true, rest⟩

/-- A backslash and the character behind it can stand in front of a body. -/
theorem IsBody.escape {quote : Char} (hne : quote ≠ '`') (c : Char) {body : List Char}
    (h : IsBody quote body) : IsBody quote ('\\' :: c :: body) := by
  intro rest hrest
  rw [List.cons_append, List.cons_append, readQuoted_escape hne, h rest hrest]
  rfl

/-- A doubled quote can stand in front of a body. -/
theorem IsBody.double {quote : Char} (hne : quote ≠ '\\') {body : List Char}
    (h : IsBody quote body) : IsBody quote (quote :: quote :: body) := by
  intro rest hrest
  rw [List.cons_append, List.cons_append, readQuoted_double hne, h rest hrest]
  rfl

/-- So can a character that neither closes nor escapes. -/
theorem IsBody.cons {quote c : Char} (hq : c ≠ quote) (hb : c = '\\' → quote = '`')
    {body : List Char} (h : IsBody quote body) : IsBody quote (c :: body) := by
  intro rest hrest
  rw [List.cons_append, readQuoted_cons hq hb, h rest hrest]
  rfl

/-- What is read of a closed section is a body. -/
theorem isBody_readQuoted {quote : Char} (hne : quote ≠ '\\') {cs : List Char}
    (h : (readQuoted quote cs).closed = true) : IsBody quote (readQuoted quote cs).body := by
  fun_induction readQuoted quote cs with
  | case1 => cases h
  | case2 c hc => exact fun rest => readQuoted_quote hne
  | case3 => cases h
  | case4 c d rest hc ih =>
      simp only [Bool.and_eq_true, beq_iff_eq, bne_iff_ne, ne_eq] at hc
      obtain ⟨rfl, hbacktick⟩ := hc
      exact (ih h).escape hbacktick d
  | case5 c d rest _ hc hd ih =>
      obtain rfl := beq_iff_eq.mp hc
      obtain rfl := beq_iff_eq.mp hd
      exact (ih h).double hne
  | case6 => exact fun rest => readQuoted_quote hne
  | case7 c d rest hc hq ih =>
      refine (ih h).cons (by simpa using hq) fun hb => ?_
      simpa [hb] using hc

/-- What follows a section is the end of what follows its opening quote. -/
theorem rest_readQuoted_suffix (quote : Char) (cs : List Char) :
    (readQuoted quote cs).rest <:+ cs := by
  have hsource := quotedSource_readQuoted quote cs
  rw [quotedSource, List.cons_append, List.cons_append, List.cons.injEq] at hsource
  exact ⟨_, hsource.2⟩

/-- A closed section, put together from its parts. -/
theorem eq_body_append_of_closed {quote : Char} {cs : List Char}
    (h : (readQuoted quote cs).closed = true) :
    cs = (readQuoted quote cs).body ++ quote :: (readQuoted quote cs).rest := by
  have hsource := quotedSource_readQuoted quote cs
  rw [h, quotedSource, List.cons_append, List.cons_append, List.cons.injEq] at hsource
  simpa using hsource.2.symm

/-- A closed section is read the same when text is put behind the whole, unless the section
is at the end and meets a quote of the same kind. -/
theorem readQuoted_append_of_closed {quote : Char} (hne : quote ≠ '\\') {cs u : List Char}
    (h : (readQuoted quote cs).closed = true)
    (hu : (readQuoted quote cs).rest = [] → u.head? ≠ some quote) :
    readQuoted quote (cs ++ u) =
      ⟨(readQuoted quote cs).body, true, (readQuoted quote cs).rest ++ u⟩ := by
  have hrest : ((readQuoted quote cs).rest ++ u).head? ≠ some quote := by
    rw [List.head?_append]
    intro heq
    rcases Option.or_eq_some_iff.mp heq with hhead | ⟨hnone, hhead⟩
    · exact head?_rest_readQuoted h hhead
    · exact hu (List.head?_eq_none_iff.mp hnone) hhead
  calc readQuoted quote (cs ++ u)
      = readQuoted quote ((readQuoted quote cs).body ++
          quote :: ((readQuoted quote cs).rest ++ u)) := by
        rw [← List.cons_append, ← List.append_assoc, ← eq_body_append_of_closed h]
    _ = ⟨(readQuoted quote cs).body, true, (readQuoted quote cs).rest ++ u⟩ :=
        isBody_readQuoted hne h _ hrest

/-! ### Escapes -/

/-- A hexadecimal digit is no break and no backslash. -/
theorem plain_of_isHexDigit {c : Char} (h : isHexDigit c = true) :
    isBreak c = false ∧ c ≠ '\\' := by
  constructor
  · by_contra hbreak
    rw [isHexDigit_of_isBreak (by simpa using hbreak)] at h
    cases h
  · rintro rfl
    revert h
    decide

/-- The characters that write a number in hexadecimal are no breaks and no backslashes. -/
theorem plain_of_hexNumber? {cs : List Char} {n : Nat} (h : hexNumber? cs = some n) :
    ∀ c ∈ cs, isBreak c = false ∧ c ≠ '\\' := by
  have key : ∀ digits : List Char, (if !digits.isEmpty && digits.all isHexDigit then
      some (digits.foldl (fun n c => n * 16 + hexDigitValue c) 0) else none) = some n →
      ∀ c ∈ digits, isBreak c = false ∧ c ≠ '\\' := by
    intro digits hd c hc
    split at hd
    · rename_i hall
      rw [Bool.and_eq_true, List.all_eq_true] at hall
      exact plain_of_isHexDigit (hall.2 c hc)
    · cases hd
  unfold hexNumber? at h
  split at h
  · rename_i rest
    intro c hc
    rcases List.mem_cons.mp hc with rfl | hc
    · decide
    · exact key rest h c hc
  · exact key cs h

/-- What `takeUpTo` takes satisfies its test. -/
theorem of_mem_take_takeUpTo {n : Nat} {p : Char → Bool} {cs : List Char} {c : Char}
    (hc : c ∈ cs.take (takeUpTo n p cs).length) : p c = true := by
  have hpre : takeUpTo n p cs <+: cs :=
    (List.takeWhile_prefix p).trans (List.take_prefix n cs)
  rw [← List.prefix_iff_eq_take.mp hpre] at hc
  exact List.mem_takeWhile_imp hc

/-- The characters that an escape uses behind its first are no breaks and no backslashes. -/
theorem plain_of_decodeEscape? {c d : Char} {rest : List Char} {used : Nat}
    (h : decodeEscape? c rest = some (d, used)) :
    ∀ x ∈ rest.take used, isBreak x = false ∧ x ≠ '\\' := by
  have hnone : ∀ x ∈ rest.take 0, isBreak x = false ∧ x ≠ '\\' := by simp
  have hcode : ∀ n : Nat, (((hexNumber? (rest.take n)).bind escapedChar?).map (·, n)) =
      some (d, used) → ∀ x ∈ rest.take used, isBreak x = false ∧ x ≠ '\\' := by
    intro n hn
    obtain ⟨e, he, heq⟩ := Option.map_eq_some_iff.mp hn
    obtain ⟨m, hm, -⟩ := Option.bind_eq_some_iff.mp he
    cases heq
    exact plain_of_hexNumber? hm
  unfold decodeEscape? at h
  split at h
  · cases h; exact hnone
  · cases h; exact hnone
  · cases h; exact hnone
  · cases h; exact hnone
  · cases h; exact hnone
  · split at h
    · cases h
    · exact hcode 4 h
  · split at h
    · cases h
    · exact hcode 8 h
  · dsimp only at h
    split at h
    · cases h; exact hnone
    · obtain ⟨e, -, heq⟩ := Option.map_eq_some_iff.mp h
      cases heq
      exact fun x hx => plain_of_isHexDigit (of_mem_take_takeUpTo hx)
  · split at h
    · dsimp only at h
      obtain ⟨e, -, heq⟩ := Option.map_eq_some_iff.mp h
      cases heq
      intro x hx
      have hoctal := of_mem_take_takeUpTo hx
      constructor
      · by_contra hbreak
        rcases isBreak_iff.mp (by simpa using hbreak) with rfl | rfl | rfl | rfl <;>
          exact absurd hoctal (by decide)
      · rintro rfl
        exact absurd hoctal (by decide)
    · split at h
      · cases h
      · cases h; exact hnone

theorem ne_quote_of_not_isBreak {c : Char} (h : isBreak c = false) : c ≠ '\'' := by
  rintro rfl
  cases h

/-- A character that cannot be `q` whatever follows it is not `q`. -/
theorem ne_of_forall_rest {c q : Char} {rest : List Char} (hnil : c = q → rest = [] → False)
    (hcons : ∀ d more, c = q → rest = d :: more → False) : c ≠ q := by
  rintro rfl
  cases rest with
  | nil => exact hnil rfl rfl
  | cons d more => exact hcons d more rfl rfl

/-- **Escaped strings end where quoted sections end.** -/
theorem readQuoted_of_readEscaped? {cs : List Char} {r : List Char × List Char}
    (h : readEscaped? cs = some r) :
    (readQuoted '\'' cs).closed = true ∧ (readQuoted '\'' cs).rest = r.2 := by
  fun_induction readEscaped? cs generalizing r with
  | case1 => cases h
  | case2 => cases h; simp [readQuoted]
  | case3 rest ih =>
      obtain ⟨u, hu, rfl⟩ := Option.map_eq_some_iff.mp h
      rw [readQuoted]
      obtain ⟨hclosed, hrest⟩ := ih hu
      exact ⟨hclosed, hrest⟩
  | case4 c rest hc =>
      cases h
      have hhead : (c :: rest).head? ≠ some '\'' := by simpa using hc
      rw [readQuoted_quote (by decide) hhead]
      exact ⟨rfl, rfl⟩
  | case5 => cases h
  | case6 => cases h
  | case7 c rest decoded used hd ih =>
      obtain ⟨u, hu, rfl⟩ := Option.map_eq_some_iff.mp h
      -- The reader of sections goes on behind `c`, the decoder behind what the escape uses.
      have hused : readQuoted '\'' rest =
          (readQuoted '\'' (rest.drop used)).extend (rest.take used) := by
        have hplain : ∀ x ∈ rest.take used, x ≠ '\'' ∧ x ≠ '\\' := fun x hx =>
          ⟨ne_quote_of_not_isBreak (plain_of_decodeEscape? hd x hx).1,
            (plain_of_decodeEscape? hd x hx).2⟩
        rw [← readQuoted_append hplain, List.take_append_drop]
      obtain ⟨hclosed, hrest⟩ := ih hu
      rw [readQuoted, hused]
      exact ⟨hclosed, hrest⟩
  | case8 c rest h₁ _ h₃ h₄ h₅ ih =>
      obtain ⟨u, hu, rfl⟩ := Option.map_eq_some_iff.mp h
      have hquote := ne_of_forall_rest h₁ h₃
      have hescape := ne_of_forall_rest h₄ h₅
      obtain ⟨hclosed, hrest⟩ := ih hu
      rw [readQuoted_cons hquote fun hb => absurd hb hescape]
      exact ⟨hclosed, hrest⟩

theorem length_takeUpTo_le (n : Nat) (p : Char → Bool) (cs : List Char) :
    (takeUpTo n p cs).length ≤ cs.length :=
  ((List.takeWhile_prefix p).trans (List.take_prefix n cs)).length_le

section

variable {u : List Char} (hu : AtBreak u)

include hu

/-- A bounded run of characters ends before a break that does not belong to it. -/
theorem takeUpTo_append {p : Char → Bool} (hp : ∀ c, isBreak c = true → p c = false) (n : Nat)
    (cs : List Char) : takeUpTo n p (cs ++ u) = takeUpTo n p cs := by
  rw [takeUpTo, List.take_append]
  refine takeWhile_append_of_atBreak hp (fun c hc => hu c ?_) _
  cases u with
  | nil => simp at hc
  | cons d rest =>
      cases hk : n - cs.length with
      | zero => simp [hk] at hc
      | succ k => simpa [hk] using hc

/-- An escape names the same character whatever stands behind a break. -/
theorem decodeEscape?_append (c : Char) (rest : List Char) :
    decodeEscape? c (rest ++ u) = decodeEscape? c rest := by
  have hhex := takeUpTo_append hu (fun _ => isHexDigit_of_isBreak) 2 rest
  have hoctal := takeUpTo_append hu (p := fun d => '0' ≤ d && d ≤ '7') (fun c hc => by
    rcases isBreak_iff.mp hc with rfl | rfl | rfl | rfl <;> decide) 2 rest
  -- Where the text in front of the break is too short, the break is read for a digit.
  have hcode : ∀ n : Nat, (if (rest ++ u).length < n then none
      else ((hexNumber? ((rest ++ u).take n)).bind escapedChar?).map (·, n)) =
      if rest.length < n then none
      else ((hexNumber? (rest.take n)).bind escapedChar?).map (·, n) := by
    intro n
    by_cases hshort : rest.length < n
    · rw [if_pos hshort]
      split
      · rfl
      rename_i hlong
      obtain ⟨d, more, rfl⟩ : ∃ d more, u = d :: more := by
        cases u with
        | nil => simp [hshort] at hlong
        | cons d more => exact ⟨d, more, rfl⟩
      have hmem : d ∈ (rest ++ d :: more).take n := by
        obtain ⟨k, hk⟩ := Nat.exists_eq_add_of_lt hshort
        rw [List.take_append, hk, Nat.add_assoc, Nat.add_sub_cancel_left]
        simp
      have hnone : hexNumber? ((rest ++ d :: more).take n) = none := by
        by_contra hsome
        obtain ⟨m, hm⟩ := Option.ne_none_iff_exists'.mp hsome
        have hplain := (plain_of_hexNumber? hm d hmem).1
        rw [hu d rfl] at hplain
        cases hplain
      rw [hnone]
      rfl
    · rw [if_neg hshort, if_neg (by rw [List.length_append]; omega),
        List.take_append_of_le_length (by omega)]
  unfold decodeEscape?
  split
  · rfl
  · rfl
  · rfl
  · rfl
  · rfl
  · exact hcode 4
  · exact hcode 8
  · rw [hhex]
  · rw [hoctal]

omit hu in
/-- An escape uses what is there. -/
theorem used_le_of_decodeEscape? {c d : Char} {rest : List Char} {used : Nat}
    (h : decodeEscape? c rest = some (d, used)) : used ≤ rest.length := by
  have hcode : ∀ n : Nat, ¬ rest.length < n →
      (((hexNumber? (rest.take n)).bind escapedChar?).map (·, n)) = some (d, used) →
      used ≤ rest.length := by
    intro n hlen hn
    obtain ⟨e, -, heq⟩ := Option.map_eq_some_iff.mp hn
    have hused : n = used := congrArg Prod.snd heq
    omega
  unfold decodeEscape? at h
  split at h
  · cases h; omega
  · cases h; omega
  · cases h; omega
  · cases h; omega
  · cases h; omega
  · split at h
    · cases h
    · rename_i hlen
      exact hcode 4 hlen h
  · split at h
    · cases h
    · rename_i hlen
      exact hcode 8 hlen h
  · dsimp only at h
    split at h
    · cases h; omega
    · obtain ⟨e, -, heq⟩ := Option.map_eq_some_iff.mp h
      cases heq
      exact length_takeUpTo_le 2 isHexDigit rest
  · split at h
    · obtain ⟨e, -, heq⟩ := Option.map_eq_some_iff.mp h
      cases heq
      exact length_takeUpTo_le 2 _ rest
    · split at h
      · cases h
      · cases h; omega

/-- An escaped string is read the same when text is put behind the whole, unless that starts
with a quote of the same kind. -/
theorem readEscaped?_append (hquote : u.head? ≠ some '\'') {cs : List Char}
    {r : List Char × List Char} (h : readEscaped? cs = some r) :
    readEscaped? (cs ++ u) = some (r.1, r.2 ++ u) := by
  fun_induction readEscaped? cs generalizing r with
  | case1 => cases h
  | case2 =>
      cases h
      cases u with
      | nil => simp [readEscaped?]
      | cons d rest =>
          have hd : d ≠ '\'' := by simpa using hquote
          simp [readEscaped?]
  | case3 rest ih =>
      obtain ⟨⟨body, after⟩, hread, rfl⟩ := Option.map_eq_some_iff.mp h
      simp [readEscaped?, ih hread]
  | case4 c rest hc =>
      cases h
      simp [readEscaped?]
  | case5 => cases h
  | case6 => cases h
  | case7 c rest decoded used hd ih =>
      obtain ⟨⟨body, after⟩, hread, rfl⟩ := Option.map_eq_some_iff.mp h
      have hused := used_le_of_decodeEscape? hd
      simp [readEscaped?, decodeEscape?_append hu, hd, List.drop_append_of_le_length hused,
        ih hread]
  | case8 c rest h₁ _ h₃ h₄ h₅ ih =>
      obtain ⟨⟨body, after⟩, hread, rfl⟩ := Option.map_eq_some_iff.mp h
      have hquote := ne_of_forall_rest h₁ h₃
      have hescape := ne_of_forall_rest h₄ h₅
      simp [readEscaped?, hquote, hescape, ih hread]

end

end SqlGateway.Sql
