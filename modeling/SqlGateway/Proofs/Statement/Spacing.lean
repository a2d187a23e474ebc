import SqlGateway.Proofs.Sql.Bare
import SqlGateway.Proofs.Sql.Unclosed
import SqlGateway.Proofs.Statement.Boundary

/-!
# Texts with Other Blanks

A text that cannot be cut into tokens is written with one blank between its words. Such a text
differs from the one it was written from only in the number and the kind of blanks that stand
together, and in the blanks at its ends: it is *respaced*. Blanks are no quotes, they open no
comment, and where one is escaped another one is. So quoted sections and comments are found where
they were, and each part of the text between semicolons keeps its words.

## Main results

* `respaced_words`: the words of a text with one blank between them.
* `Respaced.words_eq`, `Respaced.splitOnP`: the words of a text and of its parts.
* `Respaced.hasOpenQuote`, `Respaced.isBare`: the quotes and the comments of a text.
-/

namespace SqlGateway

open Sql

namespace Text

/-- `Respaced cs ds`: the texts are the same but for the blanks that stand behind a blank or at the
end, and for the kinds of blanks. -/
inductive Respaced : List Char → List Char → Prop
  | blanks {cs ds : List Char} (hcs : ∀ c ∈ cs, isBlank c = true)
      (hds : ∀ c ∈ ds, isBlank c = true) : Respaced cs ds
  | keep {c : Char} {cs ds : List Char} (hc : isBlank c = false) (h : Respaced cs ds) :
      Respaced (c :: cs) (c :: ds)
  | gap {bs bs' cs ds : List Char} (hbs : ∀ c ∈ bs, isBlank c = true)
      (hbs' : ∀ c ∈ bs', isBlank c = true) (hne : bs ≠ []) (hne' : bs' ≠ [])
      (h : Respaced cs ds) : Respaced (bs ++ cs) (bs' ++ ds)

namespace Respaced

variable {cs ds : List Char}

theorem symm (h : Respaced cs ds) : Respaced ds cs := by
  induction h with
  | blanks hcs hds => exact .blanks hds hcs
  | keep hc _ ih => exact .keep hc ih
  | gap hbs hbs' hne hne' _ ih => exact .gap hbs' hbs hne' hne ih

/-- A word stands in both texts. -/
theorem append {word : List Char} (hword : ∀ c ∈ word, isBlank c = false) (h : Respaced cs ds) :
    Respaced (word ++ cs) (word ++ ds) := by
  induction word with
  | nil => exact h
  | cons c word ih =>
      exact .keep (hword c List.mem_cons_self) (ih fun d hd => hword d (List.mem_cons_of_mem c hd))

/-- A character that is no blank stands in both texts. -/
theorem exists_cons {c : Char} (hc : isBlank c = false) (h : Respaced (c :: cs) ds) :
    ∃ ds', ds = c :: ds' ∧ Respaced cs ds' := by
  generalize hsource : c :: cs = cs' at h
  cases h with
  | blanks hcs =>
      rw [hcs c (hsource ▸ List.mem_cons_self)] at hc
      cases hc
  | keep _ h =>
      cases hsource
      exact ⟨_, rfl, h⟩
  | @gap bs _ _ _ hbs _ hne =>
      obtain ⟨b, bs, rfl⟩ := List.exists_cons_of_ne_nil hne
      cases hsource
      rw [hbs c List.mem_cons_self] at hc
      cases hc

theorem head?_eq {c : Char} (hc : isBlank c = false) (h : Respaced cs ds)
    (hhead : cs.head? = some c) : ds.head? = some c := by
  obtain ⟨cs', rfl⟩ := List.head?_eq_some_iff.mp hhead
  obtain ⟨ds', rfl, -⟩ := h.exists_cons hc
  rfl

/-- The characters of both texts are the same, but for blanks. -/
theorem mem {c : Char} (hc : isBlank c = false) (h : Respaced cs ds) (hmem : c ∈ ds) : c ∈ cs := by
  have hnot : ∀ {bs : List Char}, (∀ c ∈ bs, isBlank c = true) → c ∉ bs := by
    intro bs hbs hmem
    rw [hbs c hmem] at hc
    cases hc
  induction h with
  | blanks _ hds => exact absurd hmem (hnot hds)
  | keep _ _ ih => exact List.mem_cons.mpr ((List.mem_cons.mp hmem).imp_right ih)
  | gap _ hbs' _ _ _ ih =>
      exact List.mem_append_right _ (ih ((List.mem_append.mp hmem).resolve_left (hnot hbs')))

/-- **The part of a text in front of a character that is no blank** is respaced by itself. It ends
in both texts with the same character, or with a blank. -/
theorem exists_append {x y : List Char} (h : Respaced (x ++ y) ds)
    (hy : ∃ c ∈ y.head?, isBlank c = false) :
    ∃ x' y', ds = x' ++ y' ∧ Respaced x x' ∧ Respaced y y' ∧ (x' = [] → x = []) ∧
      ∀ c ∈ x'.getLast?, isBlank c = true ∨ x.getLast? = some c := by
  obtain ⟨d, hd, hblank⟩ := hy
  obtain ⟨y, rfl⟩ := List.head?_eq_some_iff.mp hd
  generalize hsource : x ++ d :: y = cs at h
  induction h generalizing x with
  | blanks hcs =>
      rw [hcs d (by simp [← hsource])] at hblank
      cases hblank
  | @keep c cs ds hc h ih =>
      cases x with
      | nil =>
          obtain ⟨rfl, rfl⟩ := List.cons.inj hsource
          exact ⟨[], d :: ds, rfl, .blanks (by simp) (by simp), h.keep hblank, fun _ => rfl,
            by simp⟩
      | cons e x =>
          obtain ⟨rfl, htail⟩ := List.cons.inj hsource
          obtain ⟨x', y', rfl, hx, hy, hnil, hlast⟩ := ih htail
          refine ⟨e :: x', y', rfl, hx.keep hc, hy, fun h => absurd h (List.cons_ne_nil _ _), ?_⟩
          intro c hlast'
          cases x' with
          | nil => exact .inr (by rwa [hnil rfl])
          | cons e' x' =>
              rw [List.getLast?_cons_cons] at hlast'
              refine (hlast c hlast').imp_right fun hx => ?_
              rw [List.getLast?_cons, hx]
              rfl
  | @gap bs bs' cs ds hbs hbs' hne hne' h ih =>
      -- The blanks end in front of the character.
      obtain ⟨x, rfl, htail⟩ : ∃ x', x = bs ++ x' ∧ x' ++ d :: y = cs := by
        rcases List.append_eq_append_iff.mp hsource with ⟨z, hz, hcs⟩ | ⟨z, rfl, hcs⟩
        · cases z with
          | nil => exact ⟨[], by simpa using hz.symm, by simpa using hcs⟩
          | cons e z =>
              obtain ⟨rfl, -⟩ := List.cons.inj hcs
              rw [hbs d (by simp [hz])] at hblank
              cases hblank
        · exact ⟨z, rfl, hcs.symm⟩
      obtain ⟨x', y', rfl, hx, hy, hnil, hlast⟩ := ih htail
      refine ⟨bs' ++ x', y', by simp, hx.gap hbs hbs' hne hne', hy, fun h => ?_, fun c hlast' => ?_⟩
      · exact absurd (List.append_eq_nil_iff.mp h).1 hne'
      · cases x' with
        | nil => exact .inl (hbs' c (List.mem_of_getLast? (by simpa using hlast')))
        | cons e x' =>
            rw [List.getLast?_append_of_ne_nil _ (List.cons_ne_nil _ _)] at hlast'
            refine (hlast c hlast').imp_right fun hx => ?_
            rw [List.getLast?_append, hx]
            rfl

/-- A respaced word is the word, and what follows is respaced. -/
theorem exists_word {word : List Char} (hword : ∀ c ∈ word, isBlank c = false)
    (h : Respaced (word ++ cs) ds) : ∃ ds', ds = word ++ ds' ∧ Respaced cs ds' := by
  induction word generalizing ds with
  | nil => exact ⟨ds, rfl, h⟩
  | cons c word ih =>
      obtain ⟨hc, hword⟩ := List.forall_mem_cons.mp hword
      obtain ⟨more, rfl, hmore⟩ := h.exists_cons hc
      obtain ⟨ds', rfl, hds'⟩ := ih hword hmore
      exact ⟨ds', rfl, hds'⟩

/-- Such texts are in the same word up to the same place, with the same words behind it. -/
theorem takeWhile_eq (h : Respaced cs ds) :
    (cs.takeWhile fun c => !isBlank c) = (ds.takeWhile fun c => !isBlank c) ∧
      words (cs.dropWhile fun c => !isBlank c) = words (ds.dropWhile fun c => !isBlank c) ∧
      words cs = words ds := by
  have hhead : ∀ {l : List Char}, (∀ c ∈ l.head?, isBlank c = true) →
      (l.takeWhile fun c => !isBlank c) = [] ∧ (l.dropWhile fun c => !isBlank c) = l := by
    intro l hl
    cases l with
    | nil => exact ⟨rfl, rfl⟩
    | cons c l => simp [hl c rfl]
  induction h with
  | blanks hcs hds =>
      obtain ⟨htake, hdrop⟩ := hhead fun c hc => hcs c (List.mem_of_mem_head? hc)
      obtain ⟨htake', hdrop'⟩ := hhead fun c hc => hds c (List.mem_of_mem_head? hc)
      rw [htake, hdrop, htake', hdrop', words_eq_nil hcs, words_eq_nil hds]
      exact ⟨rfl, rfl, rfl⟩
  | @keep c cs ds hc _ ih =>
      obtain ⟨htake, hdrop, -⟩ := ih
      have hword : ∀ more : List Char, words (c :: more) = _ := fun more =>
        words_eq_cons (List.dropWhile_cons_of_neg (by simp [hc]))
      simp only [hword, List.takeWhile_cons, List.dropWhile_cons, hc, Bool.not_false, if_true,
        htake, hdrop, and_self]
  | @gap bs bs' cs ds hbs hbs' hne hne' _ ih =>
      have hgap : ∀ {bs : List Char} (more : List Char), bs ≠ [] →
          (∀ c ∈ bs, isBlank c = true) → ∀ c ∈ (bs ++ more).head?, isBlank c = true := by
        intro bs more hne hbs c hc
        obtain ⟨b, bs, rfl⟩ := List.exists_cons_of_ne_nil hne
        cases hc
        exact hbs c List.mem_cons_self
      obtain ⟨htake, hdrop⟩ := hhead (hgap cs hne hbs)
      obtain ⟨htake', hdrop'⟩ := hhead (hgap ds hne' hbs')
      rw [htake, hdrop, htake', hdrop', words_congr (List.dropWhile_append_of_pos hbs),
        words_congr (List.dropWhile_append_of_pos hbs')]
      exact ⟨rfl, ih.2.2, ih.2.2⟩

/-- **Respaced texts have the same words.** -/
theorem words_eq (h : Respaced cs ds) : words cs = words ds :=
  h.takeWhile_eq.2.2

/-- **The parts of respaced texts** between characters that are no blanks. -/
theorem splitOnP {p : Char → Bool} (hp : ∀ c, isBlank c = true → p c = false)
    (h : Respaced cs ds) : List.Forall₂ Respaced (cs.splitOnP p) (ds.splitOnP p) := by
  induction h with
  | blanks hcs hds =>
      rw [List.splitOnP_eq_singleton fun c hc => hp c (hcs c hc),
        List.splitOnP_eq_singleton fun c hc => hp c (hds c hc)]
      exact .cons (.blanks hcs hds) .nil
  | @keep c cs ds hc _ ih =>
      rw [List.splitOnP_cons_eq_if_modifyHead, List.splitOnP_cons_eq_if_modifyHead]
      generalize cs.splitOnP p = parts, ds.splitOnP p = parts' at ih
      split
      · exact .cons (.blanks (by simp) (by simp)) ih
      · cases ih with
        | nil => exact .nil
        | cons hfirst hmore => exact .cons (hfirst.keep hc) hmore
  | @gap bs bs' cs ds hbs hbs' hne hne' _ ih =>
      rw [splitOnP_append_of_forall fun c hc => hp c (hbs c hc),
        splitOnP_append_of_forall fun c hc => hp c (hbs' c hc)]
      generalize cs.splitOnP p = parts, ds.splitOnP p = parts' at ih
      cases ih with
      | nil => exact .nil
      | cons hfirst hmore => exact .cons (hfirst.gap hbs hbs' hne hne') hmore

end Respaced

/-- **The words of a text with one blank between them** are the text respaced, without the blanks at
its start. -/
theorem respaced_words (cs : List Char) :
    Respaced (cs.dropWhile isBlank) ([' '].intercalate (words cs)) := by
  induction hlen : cs.length using Nat.strong_induction_on generalizing cs with
  | h n ih =>
      subst hlen
      cases hdrop : cs.dropWhile isBlank with
      | nil =>
          rw [words_eq_nil (List.dropWhile_eq_nil_iff.mp hdrop)]
          exact .blanks (by simp) (by simp)
      | cons c rest =>
          -- The first word, and what stands behind it: blanks, or blanks and the next word.
          have hword := (of_mem_words (words_eq_cons hdrop ▸ List.mem_cons_self)).2
          have hsource : c :: rest = (c :: rest.takeWhile fun d => !isBlank d) ++
              rest.dropWhile fun d => !isBlank d := by
            rw [List.cons_append, List.takeWhile_append_dropWhile]
          have hshorter : (rest.dropWhile fun d => !isBlank d).length < cs.length := by
            have hle := length_dropWhile_le (fun d => !isBlank d) rest
            have hcs := length_dropWhile_le isBlank cs
            rw [hdrop, List.length_cons] at hcs
            omega
          have hhead := isBlank_head?_dropWhile rest
          have hrest := ih _ hshorter _ rfl
          rw [hsource, words_eq_cons hdrop]
          generalize c :: rest.takeWhile (fun d => !isBlank d) = word at hword
          generalize rest.dropWhile (fun d => !isBlank d) = more at hhead hrest
          cases hmore : words more with
          | nil =>
              have hend : Respaced more [] := .blanks (words_eq_nil_iff.mp hmore) (by simp)
              simpa using hend.append hword
          | cons next words =>
              rw [hmore] at hrest
              have hgap : more.takeWhile isBlank ≠ [] := by
                cases more with
                | nil =>
                    rw [words_eq_nil (by simp)] at hmore
                    cases hmore
                | cons d more => simp [hhead d rfl]
              have hblank : ∀ d ∈ [' '], isBlank d = true := List.forall_mem_singleton.mpr rfl
              have htake : ∀ d ∈ more.takeWhile isBlank, isBlank d = true := fun d hd =>
                List.mem_takeWhile_imp hd
              have hbehind := hrest.gap htake hblank hgap (List.cons_ne_nil ' ' [])
              rw [List.takeWhile_append_dropWhile] at hbehind
              have hjoin := hbehind.append hword
              rwa [List.intercalate_cons_cons, List.append_assoc]

/-- The words with one blank between them are the words of the text again. -/
theorem words_intercalate (cs : List Char) : words ([' '].intercalate (words cs)) = words cs :=
  (respaced_words cs).words_eq.symm.trans (words_congr (List.dropWhile_idempotent _ _))

end Text

namespace Sql

open Text

/-! ### Quotes -/

/-- Blanks are neither quotes nor backslashes. -/
theorem plain_of_isBlank {bs : List Char} (hbs : ∀ c ∈ bs, isBlank c = true) :
    ∀ c ∈ bs, isQuote c = false ∧ c ≠ '\\' := by
  intro c hc
  refine ⟨?_, ?_⟩
  · by_contra hquote
    rcases isQuote_iff.mp (by simpa using hquote) with rfl | rfl | rfl <;> cases hbs _ hc
  · rintro rfl
    cases hbs _ hc

section

variable {q : Char} (hq : isQuote q = true)

include hq

/-- Blanks belong to a quoted section. -/
theorem readQuoted_blanks {bs : List Char} (hbs : ∀ c ∈ bs, isBlank c = true) (cs : List Char) :
    readQuoted q (bs ++ cs) = (readQuoted q cs).extend bs := by
  refine readQuoted_append (fun c hc => ⟨?_, (plain_of_isBlank hbs c hc).2⟩) cs
  rintro rfl
  rw [(plain_of_isBlank hbs c hc).1] at hq
  cases hq

theorem closed_readQuoted_blanks {bs : List Char} (hbs : ∀ c ∈ bs, isBlank c = true) :
    (readQuoted q bs).closed = false := by
  simpa [readQuoted] using congrArg QuotedTail.closed (readQuoted_blanks hq hbs [])

/-- What a backslash takes along is the same character in both texts, or a blank in both. If it is
the last one, or one of the last blanks, the section stays open. -/
theorem readQuoted_backslash (hne : q ≠ '`') {cs ds : List Char} (h : Respaced cs ds) :
    ((readQuoted q ('\\' :: cs)).closed = false ∧ (readQuoted q ('\\' :: ds)).closed = false) ∨
      ∃ cs' ds' chars chars', cs'.length ≤ cs.length ∧ Respaced cs' ds' ∧
        readQuoted q ('\\' :: cs) = (readQuoted q cs').extend chars ∧
        readQuoted q ('\\' :: ds) = (readQuoted q ds').extend chars' := by
  cases h with
  | blanks hcs hds =>
      have hall : ∀ {bs : List Char}, (∀ c ∈ bs, isBlank c = true) →
          (readQuoted q ('\\' :: bs)).closed = false := by
        intro bs hbs
        cases bs with
        | nil => simp [readQuoted, (ne_backslash_of_isQuote hq).symm]
        | cons b bs =>
            rw [readQuoted_escape hne]
            exact closed_readQuoted_blanks hq fun c hc => hbs c (List.mem_cons_of_mem b hc)
      exact .inl ⟨hall hcs, hall hds⟩
  | @keep c cs ds _ hrest =>
      exact .inr ⟨cs, ds, _, _, Nat.le_succ _, hrest, readQuoted_escape hne c cs,
        readQuoted_escape hne c ds⟩
  | @gap bs bs' cs ds hbs hbs' hnil hnil' hrest =>
      have hescape : ∀ {bs more : List Char}, bs ≠ [] → (∀ c ∈ bs, isBlank c = true) →
          readQuoted q ('\\' :: (bs ++ more)) = (readQuoted q more).extend ('\\' :: bs) := by
        intro bs more hnil hbs
        obtain ⟨b, bs, rfl⟩ := List.exists_cons_of_ne_nil hnil
        rw [List.cons_append, readQuoted_escape hne,
          readQuoted_blanks hq fun c hc => hbs c (List.mem_cons_of_mem b hc)]
        rfl
      exact .inr ⟨cs, ds, _, _, by simp, hrest, hescape hnil hbs, hescape hnil' hbs'⟩

/-- **A quoted section ends in a respaced text where it ends in the text**, if it does. -/
theorem readQuoted_respaced {cs ds : List Char} (h : Respaced cs ds) :
    (readQuoted q cs).closed = (readQuoted q ds).closed ∧
      ((readQuoted q cs).closed = true → Respaced (readQuoted q cs).rest (readQuoted q ds).rest) := by
  have hneither : ∀ {t t' : QuotedTail}, t.closed = false → t'.closed = false →
      t.closed = t'.closed ∧ (t.closed = true → Respaced t.rest t'.rest) := fun ht ht' =>
    ⟨ht.trans ht'.symm, fun hclosed => absurd (ht.symm.trans hclosed) (by simp)⟩
  induction hlen : cs.length using Nat.strong_induction_on generalizing cs ds with
  | h n ih =>
      subst hlen
      cases h with
      | blanks hcs hds =>
          exact hneither (closed_readQuoted_blanks hq hcs) (closed_readQuoted_blanks hq hds)
      | @gap bs bs' cs ds hbs hbs' hne _ hrest =>
          rw [readQuoted_blanks hq hbs, readQuoted_blanks hq hbs']
          have hpos := List.length_pos_iff.mpr hne
          exact ih cs.length (by simp; omega) hrest rfl
      | @keep c cs ds hc hrest =>
          by_cases hbackslash : c = '\\' ∧ q ≠ '`'
          · obtain ⟨rfl, hne⟩ := hbackslash
            rcases readQuoted_backslash hq hne hrest with ⟨hcs, hds⟩ |
              ⟨cs', ds', chars, chars', hle, hmore, hcs, hds⟩
            · exact hneither hcs hds
            · rw [hcs, hds]
              exact ih _ (Nat.lt_succ_of_le hle) hmore rfl
          by_cases hquote : c = q
          · subst hquote
            have hne := ne_backslash_of_isQuote hq
            by_cases hhead : cs.head? = some c
            · obtain ⟨cs, rfl⟩ := List.head?_eq_some_iff.mp hhead
              obtain ⟨ds, rfl, hmore⟩ := hrest.exists_cons hc
              rw [readQuoted_double hne, readQuoted_double hne]
              exact ih _ (by simp) hmore rfl
            · rw [readQuoted_quote hne hhead,
                readQuoted_quote hne (mt (hrest.symm.head?_eq hc) hhead)]
              exact ⟨rfl, fun _ => hrest⟩
          · have hplain : c = '\\' → q = '`' := fun heq =>
              not_not.mp fun hne => hbackslash ⟨heq, hne⟩
            rw [readQuoted_cons hquote hplain, readQuoted_cons hquote hplain]
            exact ih _ (by simp) hrest rfl

end

/-- **A quote that is open stays open** in a respaced text. -/
theorem HasOpenQuote.respaced {cs ds : List Char} (hopen : HasOpenQuote cs)
    (h : Respaced cs ds) : HasOpenQuote ds := by
  induction hlen : cs.length using Nat.strong_induction_on generalizing cs ds with
  | h n ih =>
      subst hlen
      cases h with
      | blanks hcs =>
          rw [← List.append_nil cs, hasOpenQuote_append fun c hc => (plain_of_isBlank hcs c hc).1]
            at hopen
          exact absurd hopen not_hasOpenQuote_nil
      | @gap bs bs' cs ds hbs hbs' hne _ h =>
          have hpos := List.length_pos_iff.mpr hne
          rw [hasOpenQuote_append fun c hc => (plain_of_isBlank hbs c hc).1] at hopen
          rw [hasOpenQuote_append fun c hc => (plain_of_isBlank hbs' c hc).1]
          exact ih cs.length (by simp; omega) hopen h rfl
      | @keep c cs ds hc h =>
          by_cases hquote : isQuote c = true
          · obtain ⟨hclosed, hrest⟩ := readQuoted_respaced hquote h
            rw [hasOpenQuote_quote hquote] at hopen ⊢
            intro hclosed'
            rw [← hclosed] at hclosed'
            exact ih _ (Nat.lt_succ_of_le (length_rest_readQuoted_le c cs)) (hopen hclosed')
              (hrest hclosed') rfl
          · rw [Bool.not_eq_true] at hquote
            rw [hasOpenQuote_plain hquote] at hopen ⊢
            exact ih _ (Nat.lt_succ_self _) hopen h rfl

/-! ### Comments -/

/-- Blanks open no comment. -/
theorem isBare_blanks_iff {bs : List Char} (hbs : ∀ c ∈ bs, isBlank c = true) (cs : List Char) :
    IsBare (bs ++ cs) ↔ IsBare cs := by
  induction bs with
  | nil => exact Iff.rfl
  | cons b bs ih =>
      have hb := hbs b List.mem_cons_self
      have hne : b ≠ '#' ∧ b ≠ '/' ∧ b ≠ '-' := by
        refine ⟨?_, ?_, ?_⟩ <;>
          · rintro rfl
            cases hb
      rw [List.cons_append, isBare_cons_iff (plain_of_isBlank hbs b List.mem_cons_self).1 hne]
      exact ih fun c hc => hbs c (List.mem_cons_of_mem b hc)

/-- **No comment is opened** in a respaced text. -/
theorem IsBare.respaced {cs ds : List Char} (hbare : IsBare cs) (h : Respaced cs ds) :
    IsBare ds := by
  induction hlen : cs.length using Nat.strong_induction_on generalizing cs ds with
  | h n ih =>
      subst hlen
      cases h with
      | blanks _ hds =>
          rw [← List.append_nil ds, isBare_blanks_iff hds]
          exact isBare_nil
      | @gap bs bs' cs ds hbs hbs' hne _ h =>
          have hpos := List.length_pos_iff.mpr hne
          rw [isBare_blanks_iff hbs] at hbare
          rw [isBare_blanks_iff hbs']
          exact ih cs.length (by simp; omega) hbare h rfl
      | @keep c cs ds hc h =>
          by_cases hquote : isQuote c = true
          · obtain ⟨hclosed, hrest⟩ := readQuoted_respaced hquote h
            rw [isBare_quote_iff hquote] at hbare ⊢
            by_cases hclosed' : (readQuoted c cs).closed = true
            · exact ih _ (Nat.lt_succ_of_le (length_rest_readQuoted_le c cs)) hbare
                (hrest hclosed') rfl
            · rw [hclosed, Bool.not_eq_true] at hclosed'
              rw [(readQuoted_of_not_closed hclosed').2]
              exact isBare_nil
          · rw [Bool.not_eq_true] at hquote
            rw [isBare_plain_iff hquote] at hbare ⊢
            obtain ⟨⟨hhash, hslash, hminus⟩, hbare⟩ := hbare
            exact ⟨⟨hhash, fun heq => mt (h.symm.head?_eq (by decide)) (hslash heq),
              fun heq => mt (h.symm.head?_eq (by decide)) (hminus heq)⟩,
              ih _ (Nat.lt_succ_self _) hbare h rfl⟩

end Sql

end SqlGateway
