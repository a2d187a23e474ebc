import Mathlib
import SqlGateway.Proofs.Text.Letter

/-!
# Where Phrases Are Found

`findAll` walks over a text and goes on behind each find, so a find can hide another that
starts inside it. A recogniser *stops before* a place if none of its finds that start earlier
reach past the place; what stands at the place is then found, whatever stands before it.

The parts of phrases are words in some letter case, blanks and names, and each of them ends
where a character of another kind comes: the lemmas on `dropWord?`, `dropBlanks?` and
`takeName?` say what is read off a text that is put together from such parts.

## Main results

* `findAllFrom_append`: the finds in a text that is cut at a place where the recogniser stops.
* `mem_findAll_of_stopsBefore`, `exists_of_mem_findAll`: what is found, and where it stands.
* `isFound_iff`: whether something is found.
* `dropLetters?_eq_some_iff`: what is read as a word.
* `takeName?_eq_some_iff`, `dropBlanks?_eq_some_iff`: what is read as a name and as a gap.
-/

namespace SqlGateway.Text

/-! ### Finds -/

/-- The character before the place behind a text, given the character before the text. -/
def lastOf? (before : Option Char) (cs : List Char) : Option Char :=
  cs.getLast?.or before

@[simp] theorem lastOf?_nil (before : Option Char) : lastOf? before [] = before := rfl

@[simp] theorem lastOf?_cons (before : Option Char) (c : Char) (cs : List Char) :
    lastOf? before (c :: cs) = lastOf? (some c) cs := by
  rw [lastOf?, lastOf?, List.getLast?_cons]
  cases cs.getLast? <;> rfl

theorem lastOf?_append (before : Option Char) (a b : List Char) :
    lastOf? before (a ++ b) = lastOf? (lastOf? before a) b := by
  induction a generalizing before with
  | nil => rfl
  | cons c a ih => rw [List.cons_append, lastOf?_cons, lastOf?_cons, ih]

variable {α : Type} {r : Recogniser α}

/-- No find that starts in the text `pre` reaches into the text `cs` behind it. -/
def StopsBefore (r : Recogniser α) (before : Option Char) (pre cs : List Char) : Prop :=
  ∀ a c b, pre = a ++ c :: b → ∀ found after,
    r (lastOf? before a) (c :: b ++ cs) = some (found, after) → cs.length ≤ after.length

theorem StopsBefore.tail {before : Option Char} {c : Char} {pre cs : List Char}
    (h : StopsBefore r before (c :: pre) cs) : StopsBefore r (some c) pre cs := by
  rintro a d b rfl found after hfound
  refine h (c :: a) d b rfl found after ?_
  rwa [lastOf?_cons]

/-- A recogniser that stops before the second part of a text, and there before what follows,
stops before what follows the text. -/
theorem StopsBefore.append {before : Option Char} {a b cs : List Char}
    (ha : StopsBefore r before a (b ++ cs)) (hb : StopsBefore r (lastOf? before a) b cs) :
    StopsBefore r before (a ++ b) cs := by
  rintro x c y heq found after hfound
  rcases List.append_eq_append_iff.mp heq with ⟨z, rfl, rfl⟩ | ⟨z, rfl, hz⟩
  · rw [lastOf?_append] at hfound
    exact hb z c y rfl found after hfound
  · cases z with
    | nil =>
        rw [List.nil_append] at hz
        rw [List.append_nil] at hb
        exact hb [] c y hz.symm found after (by simpa using hfound)
    | cons d z =>
        obtain ⟨rfl, rfl⟩ := List.cons.inj hz
        have hlength := ha x c z rfl found after (by simpa using hfound)
        rw [List.length_append] at hlength
        omega

/-- A recogniser that reads nothing in a text stops before what follows it. -/
theorem stopsBefore_of_none {pre : List Char}
    (h : ∀ c ∈ pre, ∀ before rest, r before (c :: rest) = none) {before : Option Char}
    {cs : List Char} : StopsBefore r before pre cs := by
  rintro a c b rfl found after hfound
  rw [List.cons_append, h c (by simp)] at hfound
  cases hfound

/-- **The finds in a text that is cut where the recogniser stops** are some finds in the first
part and then those in the second. -/
theorem findAllFrom_append {before : Option Char} {skip : Nat} {pre cs : List Char}
    (h : StopsBefore r before pre cs) (hskip : skip ≤ pre.length) :
    ∃ finds, findAllFrom r before skip (pre ++ cs) =
      finds ++ findAllFrom r (lastOf? before pre) 0 cs := by
  induction pre generalizing before skip with
  | nil =>
      obtain rfl : skip = 0 := Nat.le_zero.mp hskip
      exact ⟨[], rfl⟩
  | cons c pre ih =>
      rw [List.cons_append, lastOf?_cons]
      cases skip with
      | succ n =>
          rw [findAllFrom]
          exact ih h.tail (Nat.le_of_succ_le_succ hskip)
      | zero =>
          rw [findAllFrom]
          split
          · rename_i found after hfound
            have hlength := h [] c pre rfl found after hfound
            have hle : (pre ++ cs).length - after.length ≤ pre.length := by
              rw [List.length_append]
              omega
            obtain ⟨finds, heq⟩ := ih h.tail hle
            exact ⟨found :: finds, by rw [heq, List.cons_append]⟩
          · exact ih h.tail (Nat.zero_le _)

/-- What a recogniser reads at a place before which it stops is found. -/
theorem mem_findAll_of_stopsBefore {pre rest : List Char} {c : Char} {found : α}
    {after : List Char} (h : StopsBefore r none pre (c :: rest))
    (hfound : r (lastOf? none pre) (c :: rest) = some (found, after)) :
    found ∈ findAll r (pre ++ c :: rest) := by
  obtain ⟨finds, heq⟩ := findAllFrom_append h (Nat.zero_le _)
  rw [findAll, heq, findAllFrom, hfound]
  exact List.mem_append_right _ List.mem_cons_self

/-- What is found is read at some place. -/
theorem exists_of_mem_findAllFrom {before : Option Char} {skip : Nat} {cs : List Char}
    {found : α} (h : found ∈ findAllFrom r before skip cs) :
    ∃ pre c rest after, cs = pre ++ c :: rest ∧
      r (lastOf? before pre) (c :: rest) = some (found, after) := by
  induction cs generalizing before skip with
  | nil => cases h
  | cons c rest ih =>
      have hrest {skip : Nat} (h : found ∈ findAllFrom r (some c) skip rest) :
          ∃ pre d rest' after, c :: rest = pre ++ d :: rest' ∧
            r (lastOf? before pre) (d :: rest') = some (found, after) := by
        obtain ⟨pre, d, rest', after, rfl, hfound⟩ := ih h
        exact ⟨c :: pre, d, rest', after, rfl, by rwa [lastOf?_cons]⟩
      cases skip with
      | succ n =>
          rw [findAllFrom] at h
          exact hrest h
      | zero =>
          rw [findAllFrom] at h
          split at h
          · rename_i first after hfirst
            rcases List.mem_cons.mp h with rfl | h
            · exact ⟨[], c, rest, after, rfl, hfirst⟩
            · exact hrest h
          · exact hrest h

theorem exists_of_mem_findAll {cs : List Char} {found : α} (h : found ∈ findAll r cs) :
    ∃ pre c rest after, cs = pre ++ c :: rest ∧
      r (lastOf? none pre) (c :: rest) = some (found, after) :=
  exists_of_mem_findAllFrom h

/-- Nothing is found exactly if nothing is read at any place. -/
theorem findAll_eq_nil_iff {cs : List Char} :
    findAll r cs = [] ↔
      ∀ pre c rest, cs = pre ++ c :: rest → r (lastOf? none pre) (c :: rest) = none := by
  constructor
  · rintro h
    suffices hfrom : ∀ (cs : List Char) (before : Option Char), findAllFrom r before 0 cs = [] →
        ∀ pre c rest, cs = pre ++ c :: rest → r (lastOf? before pre) (c :: rest) = none from
      hfrom cs none h
    intro cs
    induction cs with
    | nil =>
        intro before _ pre c rest heq
        simp at heq
    | cons d cs ih =>
        intro before hnil pre c rest heq
        rw [findAllFrom] at hnil
        split at hnil
        · cases hnil
        · rename_i hnone
          cases pre with
          | nil =>
              obtain ⟨rfl, rfl⟩ := List.cons.inj heq
              exact hnone
          | cons e pre =>
              obtain ⟨rfl, rfl⟩ := List.cons.inj heq
              rw [lastOf?_cons]
              exact ih (some d) hnil pre c rest rfl
  · intro h
    refine List.eq_nil_iff_forall_not_mem.mpr fun found hfound => ?_
    obtain ⟨pre, c, rest, after, heq, hread⟩ := exists_of_mem_findAll hfound
    rw [h pre c rest heq] at hread
    cases hread

/-- Something is found exactly if something is read at some place. -/
theorem isFound_iff {cs : List Char} :
    isFound r cs = true ↔
      ∃ pre c rest found after, cs = pre ++ c :: rest ∧
        r (lastOf? none pre) (c :: rest) = some (found, after) := by
  suffices hfrom : ∀ before : Option Char, (findFrom? r before cs).isSome = true ↔
      ∃ pre c rest found after, cs = pre ++ c :: rest ∧
        r (lastOf? before pre) (c :: rest) = some (found, after) from hfrom none
  induction cs with
  | nil => simp [findFrom?]
  | cons d cs ih =>
      intro before
      rw [findFrom?]
      split
      · rename_i found after hfound
        exact ⟨fun _ => ⟨[], d, cs, found, after, rfl, hfound⟩, fun _ => rfl⟩
      · rename_i hnone
        rw [ih]
        constructor
        · rintro ⟨pre, c, rest, found, after, rfl, hfound⟩
          exact ⟨d :: pre, c, rest, found, after, rfl, by rwa [lastOf?_cons]⟩
        · rintro ⟨pre, c, rest, found, after, heq, hfound⟩
          cases pre with
          | nil =>
              obtain ⟨rfl, rfl⟩ := List.cons.inj heq
              rw [lastOf?_nil, hnone] at hfound
              cases hfound
          | cons e pre =>
              obtain ⟨rfl, rfl⟩ := List.cons.inj heq
              exact ⟨pre, c, rest, found, after, rfl, by rwa [lastOf?_cons] at hfound⟩

/-! ### Words -/

/-- A word writes another, given in capitals, in some letter case. -/
abbrev Spells (capitals word : List Char) : Prop :=
  List.Forall₂ (fun capital c => sameLetter capital c = true) capitals word

/-- **What is read as a word** writes it in some letter case. -/
theorem dropLetters?_eq_some_iff {capitals cs rest : List Char} :
    dropLetters? capitals cs = some rest ↔
      ∃ word, cs = word ++ rest ∧ Spells capitals word := by
  induction capitals generalizing cs with
  | nil =>
      simp only [dropLetters?, Option.some.injEq, Spells, List.forall₂_nil_left_iff]
      exact ⟨fun h => ⟨[], h, rfl⟩, by rintro ⟨_, h, rfl⟩; exact h⟩
  | cons capital capitals ih =>
      cases cs with
      | nil =>
          simp only [dropLetters?, reduceCtorEq, false_iff, not_exists, not_and]
          rintro word hword hspells
          obtain ⟨rfl, -⟩ := List.append_eq_nil_iff.mp hword.symm
          cases hspells
      | cons c cs =>
          rw [dropLetters?]
          constructor
          · intro h
            split at h
            · rename_i hsame
              obtain ⟨word, rfl, hspells⟩ := ih.mp h
              exact ⟨c :: word, rfl, .cons hsame hspells⟩
            · cases h
          · rintro ⟨word, hword, hspells⟩
            cases hspells with
            | cons hsame hspells =>
                obtain ⟨rfl, rfl⟩ := List.cons.inj hword
                rw [if_pos hsame]
                exact ih.mpr ⟨_, rfl, hspells⟩

/-- A keyword: one or more capital letters. -/
def IsKeyword (word : String) : Prop :=
  word.toList ≠ [] ∧ word.toList.all Char.isUpper = true

instance (word : String) : Decidable (IsKeyword word) :=
  inferInstanceAs (Decidable (_ ∧ _))

theorem IsKeyword.isUpper_of_mem {word : String} (h : IsKeyword word) :
    ∀ c ∈ word.toList, c.isUpper = true :=
  List.all_eq_true.mp h.2

/-- A keyword is written with word characters. -/
theorem Spells.isWordChar {keyword : String} (hkeyword : IsKeyword keyword) {word : List Char}
    (h : Spells keyword.toList word) : ∀ c ∈ word, isWordChar c = true := by
  intro c hc
  obtain ⟨i, hi, rfl⟩ := List.getElem_of_mem hc
  have hlt : i < keyword.toList.length := h.length_eq ▸ hi
  exact isWordChar_of_sameLetter (hkeyword.isUpper_of_mem _ (List.getElem_mem hlt)) (h.get hlt hi)

/-- A character is a form of one capital letter only. -/
theorem capital_unique {a b c : Char} (ha : a.isUpper = true) (hb : b.isUpper = true)
    (hac : sameLetter a c = true) (hbc : sameLetter b c = true) : a = b := by
  have hpast : ∀ a : Char, a.isUpper = true → c.toUpper = a → c ≠ 'ſ' ∧ c ≠ '\u212a' := by
    rintro _ ha rfl
    have hascii := (isAlpha_of_isUpper_toUpper ha).1
    exact ⟨by rintro rfl; exact absurd hascii (by decide),
      by rintro rfl; exact absurd hascii (by decide)⟩
  simp only [sameLetter, Bool.or_eq_true, Bool.and_eq_true, beq_iff_eq] at hac hbc
  rcases hac with (hac | ⟨rfl, rfl⟩) | ⟨rfl, rfl⟩ <;>
    rcases hbc with (hbc | ⟨rfl, hc⟩) | ⟨rfl, hc⟩
  · exact hac.symm.trans hbc
  · exact absurd hc (hpast a ha hac).1
  · exact absurd hc (hpast a ha hac).2
  · exact absurd rfl (hpast b hb hbc).1
  · rfl
  · exact absurd hc (by decide)
  · exact absurd rfl (hpast b hb hbc).2
  · exact absurd hc (by decide)
  · rfl

/-- A word writes one keyword only. -/
theorem Spells.unique {a b : String} (ha : IsKeyword a) (hb : IsKeyword b) {word : List Char}
    (hword : Spells a.toList word) (hword' : Spells b.toList word) : a = b := by
  refine String.toList_inj.mp ?_
  have ha := ha.isUpper_of_mem
  have hb := hb.isUpper_of_mem
  revert hword ha hword' hb
  generalize a.toList = xs
  generalize b.toList = ys
  intro hxs hys ha hb
  induction hxs generalizing ys with
  | nil =>
      cases hys
      rfl
  | cons hsame _ ih =>
      cases hys with
      | cons hsame' hys =>
          obtain ⟨hx, hxs⟩ := List.forall_mem_cons.mp ha
          obtain ⟨hy, hys'⟩ := List.forall_mem_cons.mp hb
          rw [capital_unique hx hy hsame hsame', ih _ hys hxs hys']

theorem Spells.ne_nil {keyword : String} (hkeyword : IsKeyword keyword) {word : List Char}
    (h : Spells keyword.toList word) : word ≠ [] := by
  rintro rfl
  exact hkeyword.1 (List.forall₂_nil_right_iff.mp h)

/-! ### Runs -/

section

variable {p : Char → Bool} {run rest : List Char}

/-- Nothing is dropped of a text that starts with a character of another kind. -/
theorem dropWhile_of_head (hrest : ∀ c ∈ rest.head?, p c = false) : rest.dropWhile p = rest := by
  cases rest with
  | nil => rfl
  | cons c rest => simp [hrest c rfl]

/-- A run of characters of one kind ends where a character of another kind comes. -/
theorem takeWhile_run (hrun : ∀ c ∈ run, p c = true) (hrest : ∀ c ∈ rest.head?, p c = false) :
    (run ++ rest).takeWhile p = run := by
  rw [List.takeWhile_append_of_pos hrun]
  cases rest with
  | nil => simp
  | cons c rest => simp [hrest c rfl]

theorem dropWhile_run (hrun : ∀ c ∈ run, p c = true) (hrest : ∀ c ∈ rest.head?, p c = false) :
    (run ++ rest).dropWhile p = rest := by
  rw [List.dropWhile_append_of_pos hrun, dropWhile_of_head hrest]

theorem head?_dropWhile {cs : List Char} : ∀ c ∈ (cs.dropWhile p).head?, p c = false := by
  intro c hc
  have hnot := List.head?_dropWhile_not p cs
  rw [Option.mem_def.mp hc] at hnot
  simpa using hnot

/-- A recogniser that reads runs of one kind of character stops where one of another kind comes
first. -/
theorem stopsBefore_of_run
    (hr : ∀ before cs found after, r before cs = some (found, after) →
      ∃ run, cs = run ++ after ∧ ∀ c ∈ run, p c = true)
    {before : Option Char} {pre cs : List Char} (hpre : ∀ c ∈ pre.getLast?, p c = false) :
    StopsBefore r before pre cs := by
  rintro a c b rfl found after hfound
  obtain ⟨run, heq, hrun⟩ := hr _ _ _ _ hfound
  by_contra hshort
  -- the run reaches behind the last character in front of the place
  have hlength := congrArg List.length heq
  simp only [List.length_append] at hlength
  obtain ⟨more, rfl⟩ : c :: b <+: run :=
    List.prefix_of_prefix_length_le (List.prefix_append _ _) ⟨after, heq.symm⟩ (by omega)
  have hlast : (a ++ c :: b).getLast? = some ((c :: b).getLast (List.cons_ne_nil c b)) := by
    rw [List.getLast?_append_of_ne_nil _ (List.cons_ne_nil c b), List.getLast?_eq_some_getLast]
  have hnot := hpre _ hlast
  rw [hrun _ (List.mem_append_left _ (List.getLast_mem _))] at hnot
  cases hnot

end

/-! ### Names and gaps -/

/-- **What is read as a name** is the longest run of name characters, if there is one. -/
theorem takeName?_eq_some_iff {cs name rest : List Char} :
    takeName? cs = some (name, rest) ↔
      cs = name ++ rest ∧ name ≠ [] ∧ (∀ c ∈ name, isNameChar c = true) ∧
        ∀ c ∈ rest.head?, isNameChar c = false := by
  rw [takeName?]
  constructor
  · intro h
    split at h
    · cases h
    · rename_i hne
      cases h
      exact ⟨List.takeWhile_append_dropWhile.symm, fun hnil => hne (by simp [hnil]),
        fun c hc => List.mem_takeWhile_imp hc, head?_dropWhile⟩
  · rintro ⟨rfl, hne, hname, hrest⟩
    rw [takeWhile_run hname hrest, dropWhile_run hname hrest]
    simp [hne]

/-- What follows a name that is read. -/
theorem takeName?_append {name : List Char} (hne : name ≠ [])
    (hname : ∀ c ∈ name, isNameChar c = true) (post : List Char) :
    takeName? (name ++ post) =
      some (name ++ post.takeWhile isNameChar, post.dropWhile isNameChar) := by
  refine takeName?_eq_some_iff.mpr ⟨?_, by simp [hne], ?_, head?_dropWhile⟩
  · rw [List.append_assoc, List.takeWhile_append_dropWhile]
  · intro c hc
    rcases List.mem_append.mp hc with hc | hc
    · exact hname c hc
    · exact List.mem_takeWhile_imp hc

theorem takeName?_eq_none {cs : List Char} (h : ∀ c ∈ cs.head?, isNameChar c = false) :
    takeName? cs = none := by
  cases cs with
  | nil => rfl
  | cons c cs => simp [takeName?, h c rfl]

/-- **What is read as a gap** is the longest run of blanks, if there is one. -/
theorem dropBlanks?_eq_some_iff {cs rest : List Char} :
    dropBlanks? cs = some rest ↔
      ∃ gap, cs = gap ++ rest ∧ gap ≠ [] ∧ (∀ c ∈ gap, isBlank c = true) ∧
        ∀ c ∈ rest.head?, isBlank c = false := by
  constructor
  · intro h
    cases cs with
    | nil => cases h
    | cons c cs =>
        rw [dropBlanks?] at h
        split at h
        · rename_i hc
          cases h
          refine ⟨c :: cs.takeWhile isBlank, ?_, List.cons_ne_nil _ _, ?_, head?_dropWhile⟩
          · rw [List.cons_append, List.takeWhile_append_dropWhile]
          · exact List.forall_mem_cons.mpr ⟨hc, fun d hd => List.mem_takeWhile_imp hd⟩
        · cases h
  · rintro ⟨gap, rfl, hne, hgap, hrest⟩
    obtain ⟨c, gap, rfl⟩ := List.exists_cons_of_ne_nil hne
    obtain ⟨hc, hgap⟩ := List.forall_mem_cons.mp hgap
    rw [List.cons_append, dropBlanks?, if_pos hc, dropWhile_run hgap hrest]

/-- **What is read as a word with a gap** behind it. -/
theorem dropWordGap?_eq_some_iff {keyword : String} {cs rest : List Char} :
    dropWordGap? keyword cs = some rest ↔
      ∃ word gap, cs = word ++ (gap ++ rest) ∧ Spells keyword.toList word ∧ gap ≠ [] ∧
        (∀ c ∈ gap, isBlank c = true) ∧ ∀ c ∈ rest.head?, isBlank c = false := by
  rw [dropWordGap?, Option.bind_eq_bind, Option.bind_eq_some_iff]
  constructor
  · rintro ⟨after, hword, hgap⟩
    obtain ⟨word, rfl, hspells⟩ := dropLetters?_eq_some_iff.mp hword
    obtain ⟨gap, rfl, hne, hblank, hrest⟩ := dropBlanks?_eq_some_iff.mp hgap
    exact ⟨word, gap, rfl, hspells, hne, hblank, hrest⟩
  · rintro ⟨word, gap, rfl, hspells, hne, hblank, hrest⟩
    exact ⟨gap ++ rest, dropLetters?_eq_some_iff.mpr ⟨word, rfl, hspells⟩,
      dropBlanks?_eq_some_iff.mpr ⟨gap, rfl, hne, hblank, hrest⟩⟩

end SqlGateway.Text
