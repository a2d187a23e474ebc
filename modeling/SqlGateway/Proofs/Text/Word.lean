import Mathlib
import SqlGateway.Text.Blank

/-!
# Words Between Blanks

`words` skips blanks and takes the characters up to the next blank, again and again. What
other modules need of it is its first step: a text without blanks is its own only word, and
the first word of a text stands behind the blanks it starts with.

## Main results

* `words_eq_cons`: one step of the cut.
* `words_append`: the words of a text that goes on with a blank.
* `firstWord_of_unblank`: a text without blanks is its own first word.
* `trim_eq_nil_iff`: nothing is left of a text exactly if it is blank.
* `trim_trim`: a text that was trimmed is left as it is.
-/

namespace SqlGateway.Text

/-- Where not all of a text is taken, what stands behind the text does not count. -/
theorem takeWhile_append_of_rest {p : Char → Bool} {cs u : List Char}
    (h : cs.dropWhile p = [] → ∀ d ∈ u.head?, p d = false) :
    (cs ++ u).takeWhile p = cs.takeWhile p ∧ (cs ++ u).dropWhile p = cs.dropWhile p ++ u := by
  induction cs with
  | nil =>
      cases u with
      | nil => simp
      | cons d u => simp [h rfl d rfl]
  | cons c cs ih =>
      by_cases hc : p c = true
      · rw [List.dropWhile_cons_of_pos hc] at h
        obtain ⟨htake, hdrop⟩ := ih h
        simp [hc, htake, hdrop]
      · simp [hc]

/-- The words of a text that starts, behind its blanks, with `c`. -/
theorem words_eq_cons {cs rest : List Char} {c : Char} (h : cs.dropWhile isBlank = c :: rest) :
    words cs =
      (c :: rest.takeWhile fun d => !isBlank d) :: words (rest.dropWhile fun d => !isBlank d) := by
  rw [words]
  split
  · rename_i hnil
    rw [h] at hnil
    cases hnil
  · rename_i heq
    rw [h] at heq
    cases heq
    rfl

/-- The first word of a text that starts with no blank runs to its first blank. -/
theorem words_of_head {cs : List Char} (hne : cs ≠ []) (h : ∀ c ∈ cs.head?, isBlank c = false) :
    ∃ more, words cs = (cs.takeWhile fun c => !isBlank c) :: more := by
  obtain ⟨c, rest, rfl⟩ := List.exists_cons_of_ne_nil hne
  have hc : isBlank c = false := h c rfl
  refine ⟨words (rest.dropWhile fun d => !isBlank d), ?_⟩
  rw [List.takeWhile_cons_of_pos (by simp [hc])]
  exact words_eq_cons (List.dropWhile_cons_of_neg (by simp [hc]))

/-- A text of blanks has no words. -/
theorem words_eq_nil {cs : List Char} (h : ∀ c ∈ cs, isBlank c = true) : words cs = [] := by
  have hdrop : cs.dropWhile isBlank = [] := List.dropWhile_eq_nil_iff.mpr h
  rw [words]
  split
  · rfl
  · rename_i heq
    rw [hdrop] at heq
    cases heq

/-- Only such a text has none. -/
theorem words_eq_nil_iff {cs : List Char} : words cs = [] ↔ ∀ c ∈ cs, isBlank c = true := by
  refine ⟨fun h => ?_, words_eq_nil⟩
  by_contra hne
  obtain ⟨c, rest, hdrop⟩ := List.exists_cons_of_ne_nil (mt List.dropWhile_eq_nil_iff.mp hne)
  rw [words_eq_cons hdrop] at h
  cases h

/-- Behind a run of characters that are no blanks stands a blank. -/
theorem isBlank_head?_dropWhile (cs : List Char) :
    ∀ c ∈ (cs.dropWhile fun d => !isBlank d).head?, isBlank c = true := by
  intro c hc
  have hnot := List.head?_dropWhile_not (fun d => !isBlank d) cs
  rw [Option.mem_def.mp hc] at hnot
  simpa using hnot

/-- No word has a blank in it, and none is empty. -/
theorem of_mem_words {cs word : List Char} (h : word ∈ words cs) :
    word ≠ [] ∧ ∀ c ∈ word, isBlank c = false := by
  fun_induction words cs with
  | case1 => cases h
  | case2 cs c rest hdrop first hlt ih =>
      rcases List.mem_cons.mp h with rfl | h
      · refine ⟨List.cons_ne_nil _ _, fun d hd => ?_⟩
        rcases List.mem_cons.mp hd with rfl | hd
        · have hnot := List.head?_dropWhile_not isBlank cs
          rwa [hdrop] at hnot
        · simpa using List.mem_takeWhile_imp hd
      · exact ih h

/-- The words of a text are made of what the text is made of. -/
theorem mem_of_mem_words {cs word : List Char} (h : word ∈ words cs) {c : Char} (hc : c ∈ word) :
    c ∈ cs := by
  fun_induction words cs with
  | case1 => cases h
  | case2 cs d rest hdrop first hlt ih =>
      have hrest : ∀ c ∈ d :: rest, c ∈ cs := fun c hc =>
        (List.dropWhile_suffix isBlank).subset (hdrop ▸ hc)
      rcases List.mem_cons.mp h with rfl | h
      · refine hrest c ((List.mem_cons.mp hc).elim (fun heq => heq ▸ List.mem_cons_self) fun hc => ?_)
        exact List.mem_cons_of_mem d ((List.takeWhile_prefix _).subset hc)
      · exact hrest c (List.mem_cons_of_mem d ((List.dropWhile_suffix _).subset (ih h)))

/-- The words of a text stand behind the blanks it starts with. -/
theorem words_congr {cs ds : List Char} (h : cs.dropWhile isBlank = ds.dropWhile isBlank) :
    words cs = words ds := by
  cases hcs : cs.dropWhile isBlank with
  | nil =>
      rw [words_eq_nil (List.dropWhile_eq_nil_iff.mp hcs),
        words_eq_nil (List.dropWhile_eq_nil_iff.mp (h.symm.trans hcs))]
  | cons c rest => rw [words_eq_cons hcs, words_eq_cons (h.symm.trans hcs)]

/-- **A text that goes on with a blank** keeps its words, and those of what follows come behind
them. -/
theorem words_append {cs u : List Char} (hu : ∀ c ∈ u.head?, isBlank c = true) :
    words (cs ++ u) = words cs ++ words u := by
  fun_induction words cs with
  | case1 cs h =>
      have hblank := List.dropWhile_eq_nil_iff.mp h
      rw [List.nil_append]
      exact words_congr (List.dropWhile_append_of_pos hblank)
  | case2 cs c rest h word hlt ih =>
      have hdrop : (cs ++ u).dropWhile isBlank = c :: (rest ++ u) := by
        rw [List.dropWhile_append, h]
        rfl
      have hstop : ∀ d ∈ u.head?, (!isBlank d) = false := fun d hd => by simp [hu d hd]
      obtain ⟨htake, hrest⟩ :=
        takeWhile_append_of_rest (p := fun d => !isBlank d) fun (_ : rest.dropWhile _ = []) => hstop
      rw [words_eq_cons hdrop, htake, hrest, ih, List.cons_append]

/-- A text without blanks is a single word. -/
theorem words_of_unblank {cs : List Char} (hne : cs ≠ []) (h : ∀ c ∈ cs, isBlank c = false) :
    words cs = [cs] := by
  obtain ⟨c, rest, rfl⟩ := List.exists_cons_of_ne_nil hne
  have hc : isBlank c = false := h c List.mem_cons_self
  have hrest : ∀ d ∈ rest, (!isBlank d) = true := fun d hd => by
    rw [h d (List.mem_cons_of_mem c hd)]
    rfl
  have hdrop : (c :: rest).dropWhile isBlank = c :: rest :=
    List.dropWhile_cons_of_neg (by simp [hc])
  rw [words_eq_cons hdrop, List.takeWhile_eq_self_iff.mpr hrest,
    List.dropWhile_eq_nil_iff.mpr hrest, words_eq_nil (by simp)]

/-- A text of blanks has no first word. -/
theorem firstWord_of_isBlank {s : String} (h : ∀ c ∈ s.toList, isBlank c = true) :
    firstWord s = "" := by
  rw [firstWord, words_eq_nil h]

/-- A text without blanks is its own first word. -/
theorem firstWord_of_unblank {s : String} (h : ∀ c ∈ s.toList, isBlank c = false) :
    firstWord s = s := by
  rw [firstWord]
  by_cases hne : s.toList = []
  · rw [hne, words_eq_nil (by simp)]
    exact (String.toList_eq_nil_iff.mp hne).symm
  · rw [words_of_unblank hne h]
    exact String.ofList_toList

/-- The characters at the end that are dropped leave nothing exactly if all are dropped. -/
theorem dropEndWhile_eq_nil_iff {p : Char → Bool} {cs : List Char} :
    dropEndWhile p cs = [] ↔ ∀ c ∈ cs, p c = true := by
  simp [dropEndWhile, List.dropWhile_eq_nil_iff]

/-- What is dropped at the end of a text does not reach behind a character that stays. -/
theorem dropEndWhile_append {p : Char → Bool} {xs : List Char} {x : Char} (hx : p x = false)
    (ys : List Char) : dropEndWhile p (xs ++ x :: ys) = xs ++ x :: dropEndWhile p ys := by
  unfold dropEndWhile
  rw [List.reverse_append, List.reverse_cons, List.append_assoc, List.dropWhile_append]
  split
  · rename_i hnil
    rw [List.isEmpty_iff.mp hnil]
    simp [hx]
  · simp

/-- Trimming a text stops at a part of it without blanks. -/
theorem trim_append {middle : List Char} (hne : middle ≠ [])
    (hmiddle : ∀ c ∈ middle, isBlank c = false) (before after : List Char) :
    trim (before ++ (middle ++ after)) =
      before.dropWhile isBlank ++ (middle ++ dropEndWhile isBlank after) := by
  obtain ⟨c, more, hcons⟩ := List.exists_cons_of_ne_nil hne
  obtain ⟨front, last, hlast⟩ := (List.eq_nil_or_concat middle).resolve_left hne
  have hfront : (before ++ (middle ++ after)).dropWhile isBlank =
      before.dropWhile isBlank ++ (middle ++ after) := by
    rw [List.dropWhile_append]
    split
    · rename_i hnil
      rw [List.isEmpty_iff.mp hnil, hcons, List.cons_append, List.dropWhile_cons_of_neg]
      · rfl
      · simp [hmiddle c (by simp [hcons])]
    · rfl
  have hx : isBlank last = false := hmiddle last (by simp [hlast])
  have hback : dropEndWhile isBlank ((before.dropWhile isBlank ++ front) ++ last :: after) = _ :=
    dropEndWhile_append hx after
  rw [trim, hfront, hlast]
  simpa using hback

/-- Trimming leaves nothing exactly of a blank text. -/
theorem trim_eq_nil_iff {cs : List Char} : trim cs = [] ↔ ∀ c ∈ cs, isBlank c = true := by
  rw [trim, dropEndWhile_eq_nil_iff]
  constructor
  · intro h
    by_contra hne
    have hdrop : cs.dropWhile isBlank ≠ [] := fun hnil =>
      hne (List.dropWhile_eq_nil_iff.mp hnil)
    have hhead := List.head_dropWhile_not isBlank hdrop
    rw [h _ (List.head_mem hdrop)] at hhead
    cases hhead
  · intro h c hc
    exact h c ((List.dropWhile_suffix isBlank).subset hc)

/-- What is dropped at the end of a text satisfies the test. -/
theorem exists_dropEndWhile_append (p : Char → Bool) (cs : List Char) :
    ∃ tail, cs = dropEndWhile p cs ++ tail ∧ ∀ c ∈ tail, p c = true := by
  refine ⟨(cs.reverse.takeWhile p).reverse, ?_, fun c hc => ?_⟩
  · rw [dropEndWhile, ← List.reverse_append, List.takeWhile_append_dropWhile,
      List.reverse_reverse]
  · exact List.mem_takeWhile_imp (List.mem_reverse.mp hc)

/-- A trimmed text starts with a character that is no blank. -/
theorem head?_trim (cs : List Char) : ∀ c ∈ (trim cs).head?, isBlank c = false := by
  intro c hc
  obtain ⟨rest, hrest⟩ := List.head?_eq_some_iff.mp hc
  obtain ⟨tail, hsplit, -⟩ := exists_dropEndWhile_append isBlank (cs.dropWhile isBlank)
  have hhead := List.head?_dropWhile_not isBlank cs
  rw [hsplit] at hhead
  change dropEndWhile isBlank (cs.dropWhile isBlank) = c :: rest at hrest
  rw [hrest] at hhead
  exact hhead

/-- A trimmed text ends with a character that is no blank. -/
theorem getLast?_trim (cs : List Char) : ∀ c ∈ (trim cs).getLast?, isBlank c = false := by
  intro c hc
  rw [trim, dropEndWhile, List.getLast?_reverse] at hc
  have hhead := List.head?_dropWhile_not isBlank (cs.dropWhile isBlank).reverse
  rw [Option.mem_def.mp hc] at hhead
  exact hhead

/-- Trimming a text leaves its words. -/
@[simp] theorem words_trim (cs : List Char) : words (trim cs) = words cs := by
  obtain ⟨tail, heq, htail⟩ := exists_dropEndWhile_append isBlank (cs.dropWhile isBlank)
  have hwords := congrArg words heq
  rw [words_append fun c hc => htail c (List.mem_of_mem_head? hc), words_eq_nil htail,
    List.append_nil] at hwords
  rw [trim, ← hwords]
  exact words_congr (List.dropWhile_idempotent _ _)

/-- A text without blanks is left as it is. -/
theorem trim_of_unblank {cs : List Char} (h : ∀ c ∈ cs, isBlank c = false) : trim cs = cs := by
  by_cases hne : cs = []
  · rw [hne]
    rfl
  · simpa [dropEndWhile] using trim_append hne h [] []

/-- **A text that was trimmed is left as it is.** -/
theorem trim_trim (cs : List Char) : trim (trim cs) = trim cs := by
  rcases hdrop : cs.dropWhile isBlank with _ | ⟨c, rest⟩
  · have hnil : trim cs = [] := by
      rw [trim, hdrop]
      rfl
    rw [hnil]
    rfl
  · have hc : isBlank c = false := by
      have hhead := List.head_dropWhile_not isBlank (l := cs) (by simp [hdrop])
      simpa [hdrop] using hhead
    have hcons : ∀ ys, dropEndWhile isBlank (c :: ys) = c :: dropEndWhile isBlank ys := by
      intro ys
      rw [← List.nil_append (c :: ys), dropEndWhile_append hc, List.nil_append]
    have htrim : trim cs = c :: dropEndWhile isBlank rest := by
      rw [trim, hdrop, hcons]
    have hback : dropEndWhile isBlank (dropEndWhile isBlank rest) = dropEndWhile isBlank rest :=
      List.rdropWhile_idempotent isBlank rest
    calc trim (trim cs)
        = dropEndWhile isBlank (c :: dropEndWhile isBlank rest) := by
          rw [htrim, trim, List.dropWhile_cons_of_neg (by simp [hc])]
      _ = c :: dropEndWhile isBlank (dropEndWhile isBlank rest) :=
          hcons _
      _ = trim cs := by rw [hback, htrim]

theorem trimString_trimString (s : String) : trimString (trimString s) = trimString s := by
  rw [trimString, trimString, String.toList_ofList, trim_trim]

/-! ### Cuts -/

/-- A text with no character at which it is cut is its own only piece. -/
theorem cutAt_of_forall {p : Char → Bool} {cs : List Char} (h : ∀ c ∈ cs, p c = false) :
    cutAt p cs = [cs] := by
  induction cs with
  | nil => rfl
  | cons c cs ih =>
      obtain ⟨hc, hcs⟩ := List.forall_mem_cons.mp h
      rw [cutAt, hc, if_neg (by decide), ih hcs]

end SqlGateway.Text
