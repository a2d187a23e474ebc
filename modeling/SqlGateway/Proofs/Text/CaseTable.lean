import Mathlib
import SqlGateway.Proofs.Text.Letter
import SqlGateway.Text.Case

/-!
# The Tables of Letter Case

What a table of letter case maps to it leaves as it is, and the lower-case table has word
characters on both sides. There are some thousand characters on each side, too many to be looked
up one by one; so a set of code points is written as the bits of one number, and that two sets have
nothing in common, or that one is part of another, is a single calculation.

## Main results

* `mapCase_cases`: what a mapping makes of a character.
* `Intervals.holds_of_mem`: bisection finds the interval that a code point lies in.
* `isWordChar_of_mem_lower`: what the lower-case table maps, and what it maps to, are word
  characters.
* `land_lower`, `land_upper`: what the two tables do not map to.
-/

namespace SqlGateway.Text

/-! ### Sets as numbers -/

/-- A set of numbers, as the bits of one. -/
def bits (codes : List Nat) : Nat :=
  codes.foldr (fun n set => 1 <<< n ||| set) 0

/-- The numbers in intervals, as the bits of one. -/
def intervalBits (intervals : List (Nat × Nat)) : Nat :=
  intervals.foldr (fun i set => (2 ^ (i.2 + 1 - i.1) - 1) <<< i.1 ||| set) 0

variable {codes codes' : List Nat} {n : Nat}

theorem testBit_bits : (bits codes).testBit n = true ↔ n ∈ codes := by
  induction codes with
  | nil => simp [bits]
  | cons m codes ih =>
      rw [bits, List.foldr_cons, ← bits, Nat.testBit_or, Bool.or_eq_true, ih, List.mem_cons,
        Nat.one_shiftLeft, Nat.testBit_two_pow, decide_eq_true_eq, eq_comm]

theorem testBit_intervalBits {intervals : List (Nat × Nat)} :
    (intervalBits intervals).testBit n = true ↔ ∃ i ∈ intervals, i.1 ≤ n ∧ n ≤ i.2 := by
  induction intervals with
  | nil => simp [intervalBits]
  | cons i intervals ih =>
      rw [intervalBits, List.foldr_cons, ← intervalBits, Nat.testBit_or, Bool.or_eq_true, ih,
        List.exists_mem_cons_iff, Nat.testBit_shiftLeft, Nat.testBit_two_pow_sub_one]
      refine or_congr_left ?_
      simp only [Bool.and_eq_true, decide_eq_true_eq]
      omega

/-- Two sets have nothing in common. -/
theorem notMem_of_land (h : bits codes &&& bits codes' = 0) (hn : n ∈ codes') : n ∉ codes := by
  intro hn'
  have hbit := Nat.testBit_and (bits codes) (bits codes') n
  rw [h, Nat.zero_testBit, testBit_bits.mpr hn, testBit_bits.mpr hn'] at hbit
  cases hbit

/-- A set is part of intervals. -/
theorem exists_interval_of_lor {intervals : List (Nat × Nat)}
    (h : intervalBits intervals ||| bits codes = intervalBits intervals) (hn : n ∈ codes) :
    ∃ i ∈ intervals, i.1 ≤ n ∧ n ≤ i.2 := by
  rw [← testBit_intervalBits, ← h, Nat.testBit_or, testBit_bits.mpr hn, Bool.or_true]

/-! ### Mappings -/

/-- The code points that runs map, each with its distance. -/
def CaseRuns.pairs (table : CaseRuns) : List (Nat × Int) :=
  table.toList.flatMap fun run =>
    ((List.range (run.2.1 + 1 - run.1)).filter (· % run.2.2.1 == 0)).map fun k =>
      (run.1 + k, run.2.2.2)

/-- The code points that a mapping maps. -/
def mappedCodes (runs : CaseRuns) (expansions : CaseExpansions) : List Nat :=
  runs.pairs.map Prod.fst ++ expansions.toList.map Prod.fst

/-- The code points that a mapping maps to. -/
def imageCodes (runs : CaseRuns) (expansions : CaseExpansions) : List Nat :=
  (runs.pairs.map fun e => (Char.ofNat ((e.1 : Int) + e.2).toNat).toNat) ++
    (expansions.toList.flatMap Prod.snd).map fun n => (Char.ofNat n).toNat

/-- What bisection finds is the image in a run that covers the code point. -/
theorem CaseRuns.exists_of_search {table : CaseRuns} {code lo hi image : Nat}
    (h : table.search code lo hi = some image) :
    ∃ shift, (code, shift) ∈ table.pairs ∧ image = ((code : Int) + shift).toNat := by
  fun_induction CaseRuns.search table code lo hi with
  | case1 => cases h
  | case2 _ _ _ _ _ _ _ _ _ _ ih => exact ih h
  | case3 _ _ _ _ _ _ _ _ _ _ _ ih => exact ih h
  | case4 lo hi _ mid first last step shift hrun hfirst hlast hstep =>
      have hmem : (first, last, step, shift) ∈ table.toList :=
        Array.mem_toList_iff.mpr (Array.mem_of_getElem? hrun)
      refine ⟨shift, List.mem_flatMap.mpr ⟨_, hmem, ?_⟩, (Option.some.inj h).symm⟩
      refine List.mem_map.mpr ⟨code - first, ?_, ?_⟩
      · rw [List.mem_filter, List.mem_range, beq_iff_eq]
        exact ⟨by dsimp only; omega, hstep⟩
      · rw [Nat.add_sub_of_le (Nat.not_lt.mp hfirst)]
  | case5 => cases h
  | case6 => cases h

variable {runs : CaseRuns} {expansions : CaseExpansions} {c d : Char}

/-- A character that a mapping does not map is left as it is. -/
theorem mapCase_of_notMem (h : c.toNat ∉ mappedCodes runs expansions) :
    mapCase runs expansions c = [c] := by
  obtain ⟨hruns, hexpansions⟩ := not_or.mp (mt List.mem_append.mpr h)
  rw [mapCase]
  split
  · rename_i code codes hentry
    have hcode : code = c.toNat := by simpa using Array.find?_some hentry
    refine absurd (List.mem_map.mpr ⟨(code, codes), ?_, hcode⟩) hexpansions
    exact Array.mem_toList_iff.mpr (Array.mem_of_find?_eq_some hentry)
  · split
    · rename_i image himage
      obtain ⟨shift, hmem, -⟩ := CaseRuns.exists_of_search himage
      exact absurd (List.mem_map_of_mem (f := Prod.fst) hmem) hruns
    · rfl

/-- A mapping leaves something of every character, if its expansions do. -/
theorem mapCase_ne_nil (h : ∀ entry ∈ expansions.toList, entry.2 ≠ []) (c : Char) :
    mapCase runs expansions c ≠ [] := by
  rw [mapCase]
  split
  · rename_i codes hentry
    have hmem := Array.mem_toList_iff.mpr (Array.mem_of_find?_eq_some hentry)
    exact fun hnil => h _ hmem (List.map_eq_nil_iff.mp hnil)
  · split <;> exact List.cons_ne_nil _ _

/-- **What a mapping makes of a character** it has on record, or it leaves the character. -/
theorem mapCase_cases (h : d ∈ mapCase runs expansions c) :
    (c.toNat ∈ mappedCodes runs expansions ∧ d.toNat ∈ imageCodes runs expansions) ∨
      (d = c ∧ mapCase runs expansions c = [c]) := by
  by_cases hmapped : c.toNat ∈ mappedCodes runs expansions
  · rw [mapCase] at h
    split at h
    · rename_i code codes hentry
      obtain ⟨n, hn, rfl⟩ := List.mem_map.mp h
      have hmem := Array.mem_toList_iff.mpr (Array.mem_of_find?_eq_some hentry)
      refine .inl ⟨hmapped, List.mem_append_right _ (List.mem_map_of_mem ?_)⟩
      exact List.mem_flatMap.mpr ⟨_, hmem, hn⟩
    · split at h
      · rename_i image himage
        obtain ⟨shift, hmem, rfl⟩ := CaseRuns.exists_of_search himage
        refine .inl ⟨hmapped, List.mem_append_left _ (List.mem_map.mpr ⟨_, hmem, ?_⟩)⟩
        rw [List.mem_singleton.mp h]
      · rename_i hexpansion _ hrun
        refine .inr ⟨List.mem_singleton.mp h, ?_⟩
        simp only [mapCase, hexpansion, hrun]
  · have hself := mapCase_of_notMem hmapped
    rw [hself, List.mem_singleton] at h
    exact .inr ⟨h, hself⟩

/-! ### Intervals -/

/-- One interval ends before another begins. -/
def IsBefore (i j : Nat × Nat) : Prop :=
  i.1 ≤ i.2 ∧ i.2 < j.1

instance (i j : Nat × Nat) : Decidable (IsBefore i j) :=
  inferInstanceAs (Decidable (_ ∧ _))

instance : IsTrans (Nat × Nat) IsBefore where
  trans _ _ _ h h' := ⟨h.1, Nat.lt_of_lt_of_le h.2 (Nat.le_trans h'.1 (Nat.le_of_lt h'.2))⟩

namespace Intervals

variable {table : Intervals}

/-- In a table in order the earlier of two intervals ends before the other begins. -/
theorem isBefore (hchain : table.toList.IsChain IsBefore) {m n : Nat} {i j : Nat × Nat}
    (hi : table[m]? = some i) (hj : table[n]? = some j) (hlt : m < n) : IsBefore i j := by
  rw [← Array.getElem?_toList] at hi hj
  obtain ⟨hm, rfl⟩ := List.getElem?_eq_some_iff.mp hi
  obtain ⟨hn, rfl⟩ := List.getElem?_eq_some_iff.mp hj
  exact List.pairwise_iff_getElem.mp hchain.pairwise m n hm hn hlt

/-- Bisection finds the interval that a code point lies in, if it is between the positions. -/
theorem search_of_mem (hchain : table.toList.IsChain IsBefore) {code n lo hi : Nat}
    {i : Nat × Nat} (hn : table[n]? = some i) (hfirst : i.1 ≤ code) (hlast : code ≤ i.2)
    (hlo : lo ≤ n) (hhi : n < hi) (hsize : hi ≤ table.size) : table.search code lo hi = true := by
  fun_induction Intervals.search table code lo hi with
  | case1 lo hi hlt mid hnone =>
      have hmid : mid = (lo + hi) / 2 := rfl
      rw [Array.getElem?_eq_none_iff] at hnone
      omega
  | case2 lo hi hlt mid first last hmid hcode ih =>
      have hlt : n < mid := by
        by_contra hle
        rcases Nat.lt_or_eq_of_le (Nat.not_lt.mp hle) with hlt | rfl
        · obtain ⟨hends, hbefore⟩ := isBefore hchain hmid hn hlt
          dsimp only at hends hbefore
          omega
        · cases hmid.symm.trans hn
          exact absurd hcode (Nat.not_lt.mpr hfirst)
      exact ih hlo hlt (by omega)
  | case3 lo hi hlt mid first last hmid hcode hcode' ih =>
      have hlt : mid < n := by
        by_contra hle
        rcases Nat.lt_or_eq_of_le (Nat.not_lt.mp hle) with hlt | rfl
        · have hbefore := (isBefore hchain hn hmid hlt).2
          dsimp only at hbefore
          omega
        · cases hmid.symm.trans hn
          exact absurd hcode' (Nat.not_lt.mpr hlast)
      exact ih hlt hhi hsize
  | case4 => rfl
  | case5 => omega

/-- **Every code point in an interval of a table in order is found.** -/
theorem holds_of_mem (hchain : table.toList.IsChain IsBefore) {code : Nat} {i : Nat × Nat}
    (hi : i ∈ table.toList) (hfirst : i.1 ≤ code) (hlast : code ≤ i.2) :
    table.holds code = true := by
  obtain ⟨n, hn, rfl⟩ := List.getElem_of_mem hi
  have hsome : table[n]? = some table.toList[n] := by
    rw [← Array.getElem?_toList, List.getElem?_eq_getElem hn]
  exact search_of_mem hchain hsome hfirst hlast (Nat.zero_le n) hn (Nat.le_refl _)

end Intervals

/-! ### The tables -/

/-- The intervals of word characters, those in ASCII first. -/
def wordCodes : List (Nat × Nat) :=
  [(0x30, 0x39), (0x41, 0x5A), (0x5F, 0x5F), (0x61, 0x7A)] ++ wordIntervals.toList

theorem isChain_wordIntervals : wordIntervals.toList.IsChain IsBefore := by
  decide +kernel

theorem le_of_mem_wordIntervals : ∀ i ∈ wordIntervals.toList, 0x80 ≤ i.1 := by
  decide +kernel

/-- A character with a code point in those intervals is a word character. -/
theorem isWordChar_of_mem_wordCodes {i : Nat × Nat} (hi : i ∈ wordCodes) (hfirst : i.1 ≤ c.toNat)
    (hlast : c.toNat ≤ i.2) : isWordChar c = true := by
  rcases List.mem_append.mp hi with hi | hi
  · have hascii : ∀ i ∈ [(0x30, 0x39), (0x41, 0x5A), (0x5F, 0x5F), (0x61, 0x7A)],
        ∀ k < i.2 + 1 - i.1, isWordChar (Char.ofNat (i.1 + k)) = true := by decide
    have hc := hascii i hi (c.toNat - i.1) (by omega)
    rwa [Nat.add_sub_of_le hfirst, Char.ofNat_toNat] at hc
  · have hpast := le_of_mem_wordIntervals i hi
    rw [isWordChar, if_neg (by omega)]
    exact Intervals.holds_of_mem isChain_wordIntervals hi hfirst hlast

/-- What the lower-case table maps, and what it maps to, are code points of word characters. -/
theorem lor_lower : intervalBits wordCodes |||
    bits (mappedCodes lowerRuns lowerExpansions ++ imageCodes lowerRuns lowerExpansions) =
      intervalBits wordCodes := by
  decide +kernel

/-- The lower-case table maps to no capital letter in ASCII and to nothing that it maps. -/
theorem land_lower : bits (List.range' 0x41 26 ++ mappedCodes lowerRuns lowerExpansions) &&&
    bits (imageCodes lowerRuns lowerExpansions) = 0 := by
  decide +kernel

/-- The table of capitals maps to no small letter in ASCII, to no blank and to nothing that it
maps. -/
theorem land_upper :
    bits (List.range' 0x61 26 ++ (blankCodes ++ mappedCodes upperRuns upperExpansions)) &&&
      bits (imageCodes upperRuns upperExpansions) = 0 := by
  decide +kernel

/-- Word characters are mapped to word characters, in lower case, and no others are mapped. -/
theorem isWordChar_of_mem_lower (h : c.toNat ∈ mappedCodes lowerRuns lowerExpansions ∨
    c.toNat ∈ imageCodes lowerRuns lowerExpansions) : isWordChar c = true := by
  obtain ⟨i, hi, hfirst, hlast⟩ := exists_interval_of_lor lor_lower (List.mem_append.mpr h)
  exact isWordChar_of_mem_wordCodes hi hfirst hlast

end SqlGateway.Text
