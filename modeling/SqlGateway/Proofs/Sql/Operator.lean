import SqlGateway.Proofs.Sql.Section

/-!
# Runs of Operators

Where one operator ends and the next one starts is decided by the longest match, so a run of
operator characters is cut in another way when one of them is changed. What does not change is
that it is cut into operators, and which of them is the sign `!=` can be told from the run: such a
sign is a `=` behind an odd number of exclamation marks. A run without one is `quiet`, and all its
signs are written as they are read.

## Main results

* `readPlain_of_isOperatorChar`: an operator character starts an operator.
* `exists_scans_of_quiet`: a quiet run is cut into signs that are written as they stand there.
* `quiet_append`: what is written of an operator makes a run no less quiet.
-/

namespace SqlGateway.Sql

open Text

/-! ### Operator characters -/

/-- The characters of operators, but for the sign `@`, which is read before they are. -/
def operatorChars : List Char :=
  ['-', '/', '%', '|', '=', '!', '<', '>', ':', '&', '^', '~', '\\', '[', ']', '\x7b', '\x7d', '+',
    '*', '#']

/-- Whether a character is one of them. -/
def isOperatorChar (c : Char) : Bool :=
  operatorChars.contains c

/-- What holds of the operator characters one by one. -/
theorem of_isOperatorChar {p : Char → Bool} (h : operatorChars.all p = true) {c : Char}
    (hc : isOperatorChar c = true) : p c = true :=
  List.all_eq_true.mp h c (List.contains_iff_mem.mp hc)

/-- An operator character has no other meaning outside quotes. -/
theorem plain_of_isOperatorChar {c : Char} (h : isOperatorChar c = true) :
    isQuote c = false ∧ letterForm? c = none ∧ isWordPart c = false := by
  have hall := of_isOperatorChar
    (p := fun c => !isQuote c && (letterForm? c).isNone && !isWordPart c) (by decide) h
  simpa [and_assoc] using hall

/-- The operators are made of these characters and the sign `@`. -/
theorem isOperatorChar_of_mem {op : String} (hop : op ∈ operators) {c : Char}
    (hc : c ∈ op.toList) (hat : c ≠ '@') : isOperatorChar c = true := by
  have hall : ∀ op ∈ operators, op.toList.all (fun c => c == '@' || isOperatorChar c) = true := by
    decide
  simpa [hat] using List.all_eq_true.mp (hall op hop) c hc

/-! ### One operator -/

/-- An operator is split off the front of a text. -/
theorem of_splitOperator? {cs op u : List Char} (h : splitOperator? cs = some (op, u)) :
    String.ofList op ∈ operators ∧ cs = op ++ u := by
  obtain ⟨name, hname, hr⟩ := List.exists_of_findSome?_eq_some h
  obtain ⟨after, hafter, heq⟩ := Option.map_eq_some_iff.mp hr
  cases heq
  refine ⟨by rwa [String.ofList_toList], dropStart?_eq_some hafter⟩

/-- Each operator character is an operator, so one can be split off in front of any text. -/
theorem exists_splitOperator? {c : Char} (h : isOperatorChar c = true) (rest : List Char) :
    ∃ op u, splitOperator? (c :: rest) = some (op, u) := by
  have hsingle : ∃ op ∈ operators, op.toList = [c] := by
    have hall := of_isOperatorChar (p := fun c => operators.any fun op => op.toList == [c])
      (by decide) h
    simpa using List.any_eq_true.mp hall
  obtain ⟨op, hop, hlist⟩ := hsingle
  rw [← Option.isSome_iff_exists.trans Prod.exists, splitOperator?, List.findSome?_isSome_iff]
  refine ⟨op, hop, ?_⟩
  rw [hlist]
  simp [dropStart?]

/-- A single exclamation mark is read only where no second one and no `=` follows. -/
theorem head?_of_exclamation {cs u : List Char} (h : splitOperator? cs = some (['!'], u)) :
    ∀ c ∈ u.head?, c ≠ '!' ∧ c ≠ '=' := by
  obtain ⟨-, rfl⟩ := of_splitOperator? h
  intro c hc
  obtain ⟨more, rfl⟩ := List.head?_eq_some_iff.mp hc
  have htwice : ∀ r, splitOperator? ('!' :: '!' :: r) = some (['!', '!'], r) := fun _ => rfl
  have hequal : ∀ r, splitOperator? ('!' :: '=' :: r) = some (['!', '='], r) := fun _ => rfl
  constructor
  · rintro rfl
    rw [List.singleton_append, htwice] at h
    cases h
  · rintro rfl
    rw [List.singleton_append, hequal] at h
    cases h

/-- **An operator character starts an operator.** -/
theorem readPlain_of_isOperatorChar {c : Char} (h : isOperatorChar c = true)
    {rest op u : List Char} (hsplit : splitOperator? (c :: rest) = some (op, u)) :
    readPlain c rest = (operatorToken op, u) := by
  have hne : ∀ d, isOperatorChar d = false → (c == d) = false := fun d hd => by
    rw [beq_eq_false_iff_ne]
    rintro rfl
    rw [h] at hd
    cases hd
  have hpart := (plain_of_isOperatorChar h).2.2
  rw [isWordPart, Bool.or_eq_false_iff] at hpart
  rw [readPlain, readSign, hne ' ' (by decide), hne '\t' (by decide), hne '\n' (by decide),
    hne '\r' (by decide), hne '.' (by decide), hne '(' (by decide), hne ')' (by decide),
    hne ',' (by decide), hne ';' (by decide), hne '@' (by decide), hne '?' (by decide), hpart.1,
    hpart.2, hsplit]
  rfl

/-- An operator is read outside quotes. -/
theorem reads_operator {c : Char} (h : isOperatorChar c = true) {rest op u : List Char}
    (hsplit : splitOperator? (c :: rest) = some (op, u)) : Reads c rest (operatorToken op) u := by
  obtain ⟨hquote, hform, -⟩ := plain_of_isOperatorChar h
  have hread : Reads c rest _ _ := .plain hquote (by simp [hform])
  rwa [readPlain_of_isOperatorChar h hsplit] at hread

/-! ### Quiet runs -/

/-- Whether no `=` stands behind an odd number of exclamation marks. The flag tells whether an odd
number of them stands in front. -/
def quiet (odd : Bool) : List Char → Bool
  | [] => true
  | c :: rest =>
    if c = '!' then quiet (!odd) rest
    else !(odd && c == '=') && quiet false rest

/-- Whether an odd number of exclamation marks stands at the end. -/
def oddAfter (odd : Bool) : List Char → Bool
  | [] => odd
  | c :: rest => if c = '!' then oddAfter (!odd) rest else oddAfter false rest

theorem quiet_append_eq (odd : Bool) (a b : List Char) :
    quiet odd (a ++ b) = (quiet odd a && quiet (oddAfter odd a) b) := by
  induction a generalizing odd with
  | nil => rfl
  | cons c a ih =>
      rw [List.cons_append, quiet, quiet, oddAfter]
      split
      · exact ih _
      · rw [ih, Bool.and_assoc]

/-- An exclamation mark in front counts for nothing where no second one and no `=` follows. -/
theorem quiet_of_head {a : List Char} (h : ∀ c ∈ a.head?, c ≠ '!' ∧ c ≠ '=') :
    quiet true a = quiet false a := by
  cases a with
  | nil => rfl
  | cons c a =>
      obtain ⟨hmark, hequal⟩ := h c rfl
      simp [quiet, hmark, hequal]

/-- An operator other than `!=` is quiet, and but for the single exclamation mark it leaves no
mark behind. -/
theorem quiet_of_mem {op : List Char} (hop : String.ofList op ∈ operators) (hne : op ≠ ['!', '=']) :
    quiet false op = true ∧ (op = ['!'] ∨ oddAfter false op = false) := by
  have hall : ∀ op ∈ operators, (op.toList == ['!', '='] || quiet false op.toList &&
      (op.toList == ['!'] || !oddAfter false op.toList)) = true := by decide
  simpa [hne] using hall _ hop

/-- What is written of an operator. -/
theorem text_operatorToken (op : List Char) :
    (operatorToken op).text = if op = ['!', '='] then ['<', '>'] else op := by
  rw [operatorToken]
  split <;> rfl

/-- **What is written of an operator makes a run no less quiet.** -/
theorem quiet_append {cs op u a : List Char} (h : splitOperator? cs = some (op, u))
    (ha : quiet false a = true) (hhead : ∀ c ∈ a.head?, u.head? = some c ∨ c = '<') :
    quiet false ((operatorToken op).text ++ a) = true := by
  have hop := (of_splitOperator? h).1
  rw [text_operatorToken, quiet_append_eq]
  split
  · simpa [quiet, oddAfter] using ha
  · rename_i hne
    obtain ⟨hquiet, rfl | hodd⟩ := quiet_of_mem hop hne
    · have hmark : ∀ c ∈ a.head?, c ≠ '!' ∧ c ≠ '=' := by
        intro c hc
        rcases hhead c hc with hu | rfl
        · exact head?_of_exclamation h c hu
        · decide
      rw [hquiet, show oddAfter false ['!'] = true from rfl, quiet_of_head hmark, ha]
      rfl
    · rw [hquiet, hodd, ha]
      rfl

/-- An operator that starts a run ends in it. -/
theorem exists_run_of_splitOperator? {run u op after : List Char}
    (hrun : ∀ c ∈ run, isOperatorChar c = true) (hu : ∀ c ∈ u.head?, isOperatorChar c = false)
    (hat : u.head? ≠ some '@') (h : splitOperator? (run ++ u) = some (op, after)) :
    ∃ more, run = op ++ more ∧ after = more ++ u := by
  obtain ⟨hop, hsource⟩ := of_splitOperator? h
  rcases List.append_eq_append_iff.mp hsource with ⟨beyond, rfl, rfl⟩ | ⟨more, rfl, rfl⟩
  · cases beyond with
    | nil => exact ⟨[], by simp, by simp⟩
    | cons d beyond =>
        have hne : d ≠ '@' := by
          rintro rfl
          exact hat rfl
        have hd := isOperatorChar_of_mem hop (c := d) (by simp) hne
        rw [hu d rfl] at hd
        cases hd
  · exact ⟨more, rfl, rfl⟩

/-- **A quiet run is cut into signs that are written as they stand there.** -/
theorem exists_scans_of_quiet {run u : List Char} (hrun : ∀ c ∈ run, isOperatorChar c = true)
    (hquiet : quiet false run = true) (hu : ∀ c ∈ u.head?, isOperatorChar c = false)
    (hat : u.head? ≠ some '@') :
    ∃ signs, Scans (run ++ u) signs u ∧ signs.flatMap Token.text = run ∧
      ∀ t ∈ signs, ∃ text, t = .sign text := by
  induction hlen : run.length using Nat.strong_induction_on generalizing run with
  | h n ih =>
      subst hlen
      cases run with
      | nil => exact ⟨[], .done u, rfl, by simp⟩
      | cons c rest =>
          have hc := hrun c List.mem_cons_self
          obtain ⟨op, after, hsplit⟩ := exists_splitOperator? hc (rest ++ u)
          obtain ⟨more, hmore, rfl⟩ := exists_run_of_splitOperator? hrun hu hat hsplit
          rw [hmore, quiet_append_eq, Bool.and_eq_true] at hquiet
          have hne : op ≠ ['!', '='] := by
            rintro rfl
            exact absurd hquiet.1 (by decide)
          obtain ⟨-, hodd⟩ := quiet_of_mem (of_splitOperator? hsplit).1 hne
          have hmorequiet : quiet false more = true := by
            rcases hodd with rfl | hodd
            · have hmark : ∀ d ∈ more.head?, d ≠ '!' ∧ d ≠ '=' := fun d hd =>
                head?_of_exclamation hsplit d (by simp [List.head?_append, Option.mem_def.mp hd])
              rw [← quiet_of_head hmark]
              exact hquiet.2
            · rw [← hodd]
              exact hquiet.2
          have hlt : more.length < (c :: rest).length := by
            have hlength := length_lt_of_splitOperator? hsplit
            simp only [List.length_append, List.length_cons] at hlength ⊢
            omega
          obtain ⟨signs, hscans, htext, hsigns⟩ :=
            ih more.length hlt (fun d hd => hrun d (by rw [hmore]; simp [hd])) hmorequiet rfl
          have hread := reads_operator hc hsplit
          rw [operatorToken, if_neg hne] at hread
          refine ⟨.sign op :: signs, .cons hread hscans, ?_, ?_⟩
          · rw [List.flatMap_cons, htext, hmore]
            rfl
          · simpa using hsigns

end SqlGateway.Sql
