import SqlGateway.Proofs.Statement.Combination
import SqlGateway.Proofs.Text.Case

/-!
# Likeness of Statements

What is read of a statement depends on few of its tokens. Numbers, strings and signs are passed
over, and so are words behind them, unless they are among those that decide something wherever
they stand. Two lists of tokens are alike if they agree in all other tokens, apart from the letter
case of words; what is passed over may stand in one of them and not in the other, as long as
something of the kind stands there in both.

Every function on tokens is shown to give the same for lists that are alike, or lists that are
alike again. A list behind a word, a name or a parenthesis is like another only if both have
something to pass over at their front or none has, since a name that would be read there must not
appear or vanish.

## Main results

* `Likens.verbOf_eq`, `Likens.tablesOf_eq`: the verb and the tables of a statement.
* `Likens.analyzeBody_eq`: the description of a statement.
-/

namespace SqlGateway

open Sql Text

/-! ### Tokens -/

/-- Whether a token is a number, a string or a sign, which the description of a statement passes
over. -/
def Sql.Token.isNoise : Token → Bool
  | .number .. | .string .. | .sign _ => true
  | _ => false

/-- Whether a token is passed over behind one that is: it is one itself, or a word of some kind. -/
def Sql.Token.isIdle (idle : String → Bool) (t : Token) : Bool :=
  t.isNoise || t.keyword?.any idle

/-- Tokens that are equal apart from the letter case of words. -/
inductive Sql.Token.Agrees : Token → Token → Prop
  | refl (t : Token) : Agrees t t
  | word {v v' : List Char} (hupper : upper v = upper v')
      (hlower : v.map Char.toLower = v'.map Char.toLower)
      (hat : v.head? = some '@' ↔ v'.head? = some '@') : Agrees (.word v) (.word v')

namespace Statement

/-- A description without what it says of a limit. -/
def withoutLimit (s : Statement) : Statement :=
  { s with hasLimit := false }

/-- The words that decide something wherever they stand, apart from `LIMIT`. -/
def decisiveWords : List String :=
  ["WHERE", "KEY"] ++ mainVerbs ++ tableMarkers

section

variable {t t' : Token}

theorem keyword?_of_isNoise (h : t.isNoise = true) : t.keyword? = none := by
  cases t <;> first | rfl | cases h

theorem wordText?_of_isNoise (h : t.isNoise = true) : wordText? t = none := by
  cases t <;> first | rfl | cases h

theorem isWord_of_isNoise (h : t.isNoise = true) (name : String) : t.isWord name = false := by
  rw [Token.isWord, keyword?_of_isNoise h]
  rfl

theorem keyword?_of_agrees (h : t.Agrees t') : t.keyword? = t'.keyword? := by
  cases h with
  | refl => rfl
  | word hupper => simp [Token.keyword?, hupper]

theorem isWord_of_agrees (h : t.Agrees t') (name : String) : t.isWord name = t'.isWord name := by
  rw [Token.isWord, keyword?_of_agrees h, Token.isWord]

theorem beginsTable_of_agrees (h : t.Agrees t') : beginsTable t = beginsTable t' := by
  cases h with
  | refl => rfl
  | @word v v' hupper _ hat =>
      have hhead : (v.head? != some '@') = (v'.head? != some '@') := by
        rw [Bool.eq_iff_iff, bne_iff_ne, bne_iff_ne, Ne, hat]
      simp only [beginsTable, hupper, hhead]

theorem wordText?_of_agrees (h : t.Agrees t') :
    (wordText? t).map (·.map Char.toLower) = (wordText? t').map (·.map Char.toLower) := by
  cases h with
  | refl => rfl
  | word _ hlower => exact congrArg some hlower

/-- What is passed over is no parenthesis. -/
theorem of_isIdle {idle : String → Bool} (h : t.isIdle idle = true) :
    t.isNoise = true ∨ ∃ v, t = .word v ∧ idle (String.ofList (upper v)) = true := by
  rw [Token.isIdle, Bool.or_eq_true] at h
  refine h.imp_right fun h => ?_
  cases t with
  | word v => exact ⟨v, rfl, by simpa [Token.keyword?] using h⟩
  | _ => simp [Token.keyword?] at h

end

/-- A name in lower case does not depend on the case of ASCII letters in its parts. -/
theorem lower_intercalate {parts parts' : List (List Char)}
    (h : parts.map (·.map Char.toLower) = parts'.map (·.map Char.toLower)) :
    lower (['.'].intercalate parts) = lower (['.'].intercalate parts') := by
  have hmap : ∀ l : List (List Char), (['.'].intercalate l).map Char.toLower =
      ['.'].intercalate (l.map (·.map Char.toLower)) := by
    intro l
    induction l with
    | nil => rfl
    | cons p l ih =>
        cases l with
        | nil => simp
        | cons q l =>
            rw [List.intercalate_cons_cons, List.map_append, List.map_append, ih]
            simp [List.intercalate_cons_cons]
  rw [lower, lower, ← lowerFrom_map_toLower false (['.'].intercalate parts), hmap, h, ← hmap,
    lowerFrom_map_toLower]

/-! ### Lists of tokens -/

/-- `Likens idle b l l'`: the lists agree apart from what is passed over. The flag tells whether
something that is passed over stands in front of them, so that more of it counts for nothing. -/
inductive Likens (idle : String → Bool) : Bool → List Token → List Token → Prop
  | nil (b : Bool) : Likens idle b [] []
  | same {b : Bool} {t t' : Token} {l l' : List Token} (h : t.Agrees t')
      (hrest : Likens idle false l l') : Likens idle b (t :: l) (t' :: l')
  | noise {b : Bool} {t t' : Token} {l l' : List Token} (h : t.isNoise = true)
      (h' : t'.isNoise = true) (hrest : Likens idle true l l') : Likens idle b (t :: l) (t' :: l')
  | skip {t : Token} {l l' : List Token} (h : t.isIdle idle = true)
      (hrest : Likens idle true l l') : Likens idle true (t :: l) l'
  | skipOther {t' : Token} {l l' : List Token} (h : t'.isIdle idle = true)
      (hrest : Likens idle true l l') : Likens idle true l (t' :: l')

namespace Likens

variable {idle : String → Bool} {b : Bool} {l l' m m' : List Token}

theorem refl (idle : String → Bool) (l : List Token) : Likens idle false l l := by
  induction l with
  | nil => exact .nil false
  | cons t l ih => exact .same (.refl t) ih

/-- Something that is passed over may stand in front. -/
theorem weaken (h : Likens idle false l l') (b : Bool) : Likens idle b l l' := by
  cases h with
  | nil => exact .nil b
  | same h hrest => exact .same h hrest
  | noise h h' hrest => exact .noise h h' hrest

theorem append (h : Likens idle b l l') (hm : Likens idle false m m') :
    Likens idle b (l ++ m) (l' ++ m') := by
  induction h with
  | nil b => exact hm.weaken b
  | same h _ ih => exact .same h ih
  | noise h h' _ ih => exact .noise h h' ih
  | skip h _ ih => exact .skip h ih
  | skipOther h _ ih => exact .skipOther h ih

/-- The first tokens of lists that are alike. -/
theorem cases_head (h : Likens idle false l l') :
    (l = [] ∧ l' = []) ∨
      (∃ t t' k k', l = t :: k ∧ l' = t' :: k' ∧ t.Agrees t' ∧ Likens idle false k k') ∨
      ∃ t t' k k', l = t :: k ∧ l' = t' :: k' ∧ t.isNoise = true ∧ t'.isNoise = true ∧
        Likens idle true k k' := by
  cases h with
  | nil => exact .inl ⟨rfl, rfl⟩
  | same h hrest => exact .inr (.inl ⟨_, _, _, _, rfl, rfl, h, hrest⟩)
  | noise h h' hrest => exact .inr (.inr ⟨_, _, _, _, rfl, rfl, h, h', hrest⟩)

/-! ### Names -/

theorem startsWith_eq (h : Likens idle false l l') (name : String) :
    startsWith name l = startsWith name l' := by
  rcases h.cases_head with ⟨rfl, rfl⟩ | ⟨t, t', k, k', rfl, rfl, ht, -⟩ |
    ⟨t, t', k, k', rfl, rfl, ht, ht', -⟩
  · rfl
  · exact isWord_of_agrees ht name
  · rw [startsWith, startsWith, isWord_of_isNoise ht, isWord_of_isNoise ht']

/-- A list that starts with a word is alike behind it. -/
theorem tail (h : Likens idle false l l') {name : String} (hstart : startsWith name l = true) :
    Likens idle false (l.drop 1) (l'.drop 1) := by
  rcases h.cases_head with ⟨rfl, rfl⟩ | ⟨t, t', k, k', rfl, rfl, -, hk⟩ |
    ⟨t, t', k, k', rfl, rfl, ht, -, -⟩
  · exact .nil false
  · exact hk
  · rw [startsWith, isWord_of_isNoise ht] at hstart
    cases hstart

theorem dropWord (h : Likens idle false l l') (name : String) :
    Likens idle false (dropWord name l) (dropWord name l') := by
  rw [Statement.dropWord, Statement.dropWord, ← h.startsWith_eq name]
  split
  · rename_i hstart
    exact h.tail hstart
  · exact h

/-- Lists that are alike start with a word, quoted or not, in both or in neither. -/
theorem wordText?_head (h : Likens idle false l l') :
    (l.head?.bind wordText?).map (·.map Char.toLower) =
      (l'.head?.bind wordText?).map (·.map Char.toLower) := by
  rcases h.cases_head with ⟨rfl, rfl⟩ | ⟨t, t', k, k', rfl, rfl, ht, -⟩ |
    ⟨t, t', k, k', rfl, rfl, ht, ht', -⟩
  · rfl
  · exact wordText?_of_agrees ht
  · simp only [List.head?_cons, Option.bind_some, wordText?_of_isNoise ht, wordText?_of_isNoise ht']

/-- A token that is no word and is not passed over stands in front of both lists or of neither. -/
theorem head_or (h : Likens idle false l l') (s : Token) (hword : s.keyword? = none)
    (hnoise : s.isNoise = false) :
    (∃ k k', l = s :: k ∧ l' = s :: k' ∧ Likens idle false k k') ∨
      (∀ k, l ≠ s :: k) ∧ ∀ k, l' ≠ s :: k := by
  rcases h.cases_head with ⟨rfl, rfl⟩ | ⟨t, t', k, k', rfl, rfl, ht, hk⟩ |
    ⟨t, t', k, k', rfl, rfl, ht, ht', -⟩
  · exact .inr ⟨by simp, by simp⟩
  · cases ht with
    | refl =>
        by_cases hs : t = s
        · subst hs
          exact .inl ⟨k, k', rfl, rfl, hk⟩
        · exact .inr ⟨by simp [hs], by simp [hs]⟩
    | word =>
        refine .inr ⟨?_, ?_⟩ <;>
        · rintro k heq
          cases heq
          cases hword
  · refine .inr ⟨?_, ?_⟩
    · rintro k heq
      cases heq
      exact Bool.false_ne_true (hnoise.symm.trans ht)
    · rintro k heq
      cases heq
      exact Bool.false_ne_true (hnoise.symm.trans ht')

/-- A parenthesis stands in front of both lists or of neither. -/
theorem head?_openParen (h : Likens idle false l l') :
    l.head? = some .openParen ↔ l'.head? = some .openParen := by
  rcases h.head_or .openParen rfl rfl with ⟨k, k', rfl, rfl, -⟩ | ⟨hne, hne'⟩
  · rfl
  · simp [List.head?_eq_some_iff, hne, hne']

/-- The further parts of a name. -/
theorem nameTail (h : Likens idle false l l') :
    (nameTail l).1.map (·.map Char.toLower) = (nameTail l').1.map (·.map Char.toLower) ∧
      Likens idle false (nameTail l).2 (nameTail l').2 := by
  fun_induction Statement.nameTail l generalizing l' with
  | case1 t rest part hpart tail =>
      rename_i ih
      rcases h.head_or .period rfl rfl with ⟨k, k', heq, rfl, hk⟩ | ⟨hne, -⟩
      swap
      · exact absurd rfl (hne _)
      cases heq
      have hword := hk.wordText?_head
      simp only [List.head?_cons, Option.bind_some, hpart, Option.map_some] at hword
      obtain ⟨part', hbind, heq⟩ := Option.map_eq_some_iff.mp hword.symm
      obtain ⟨t', ht', hpart'⟩ := Option.bind_eq_some_iff.mp hbind
      obtain ⟨more, rfl⟩ := List.head?_eq_some_iff.mp ht'
      have hmore : Likens idle false rest more := by
        cases hk with
        | same _ hrest => exact hrest
        | noise hnoise =>
            rw [wordText?_of_isNoise hnoise] at hpart
            cases hpart
      obtain ⟨htail, hlike⟩ := ih hmore
      rw [Statement.nameTail, hpart']
      exact ⟨congrArg₂ List.cons heq.symm htail, hlike⟩
  | case2 t rest hpart =>
      rcases h.head_or .period rfl rfl with ⟨k, k', heq, rfl, hk⟩ | ⟨hne, -⟩
      swap
      · exact absurd rfl (hne _)
      cases heq
      have hword := hk.wordText?_head
      simp only [List.head?_cons, Option.bind_some, hpart, Option.map_none] at hword
      have hnone : (k'.head?.bind wordText?) = none := Option.map_eq_none_iff.mp hword.symm
      have htail : Statement.nameTail (.period :: k') = ([], .period :: k') := by
        cases k' with
        | nil => rfl
        | cons t' more =>
            rw [Statement.nameTail]
            rw [show wordText? t' = none from hnone]
      rw [htail]
      exact ⟨rfl, h⟩
  | case3 tokens hne =>
      have htail : Statement.nameTail l' = ([], l') := by
        rcases h.head_or .period rfl rfl with ⟨k, k', rfl, rfl, hk⟩ | ⟨-, hne'⟩
        · rcases hk.cases_head with ⟨-, rfl⟩ | ⟨t, _, more, _, rfl, -⟩ | ⟨t, _, more, _, rfl, -⟩
          · rfl
          · exact absurd rfl (hne t more)
          · exact absurd rfl (hne t more)
        · rw [Statement.nameTail]
          rintro t rest rfl
          exact hne' _ rfl
      rw [htail]
      exact ⟨rfl, h⟩

/-- A name is read of both lists or of neither, and it is the same in lower case. -/
theorem tableName? (h : Likens idle false l l') (refuseCall : Bool) :
    (Statement.tableName? refuseCall l = none ∧ Statement.tableName? refuseCall l' = none) ∨
      ∃ name k k', Statement.tableName? refuseCall l = some (name, k) ∧
        Statement.tableName? refuseCall l' = some (name, k') ∧ Likens idle false k k' := by
  rcases h.cases_head with ⟨rfl, rfl⟩ | ⟨t, t', k, k', rfl, rfl, ht, hk⟩ |
    ⟨t, t', k, k', rfl, rfl, ht, ht', -⟩
  · exact .inl ⟨rfl, rfl⟩
  · have hword := wordText?_of_agrees ht
    obtain ⟨hparts, htail⟩ := hk.nameTail
    have hparen : (Statement.nameTail k).2.head? = some .openParen ↔
        (Statement.nameTail k').2.head? = some .openParen := htail.head?_openParen
    rw [Statement.tableName?, Statement.tableName?, ← beginsTable_of_agrees ht]
    cases hhead : wordText? t with
    | none =>
        rw [hhead] at hword
        rw [Option.map_eq_none_iff.mp hword.symm]
        exact .inl ⟨rfl, rfl⟩
    | some head =>
        rw [hhead] at hword
        obtain ⟨head', hhead', heq⟩ := Option.map_eq_some_iff.mp hword.symm
        rw [hhead']
        dsimp only
        by_cases hbegins : beginsTable t = true
        swap
        · rw [if_neg hbegins, if_neg hbegins]
          exact .inl ⟨rfl, rfl⟩
        rw [if_pos hbegins, if_pos hbegins]
        by_cases hcall : refuseCall = true ∧ (Statement.nameTail k).2.head? = some .openParen
        · refine .inl ⟨if_pos (by simpa using hcall), if_pos ?_⟩
          simpa using ⟨hcall.1, hparen.mp hcall.2⟩
        · refine .inr ⟨_, _, _, if_neg (by simpa using hcall), ?_, htail⟩
          rw [if_neg (by simpa [← hparen] using hcall)]
          have hlower : lower (['.'].intercalate (head' :: (Statement.nameTail k').1)) =
              lower (['.'].intercalate (head :: (Statement.nameTail k).1)) :=
            lower_intercalate (congrArg₂ List.cons heq hparts.symm)
          rw [hlower]
  · refine .inl ⟨?_, ?_⟩
    · rw [Statement.tableName?, wordText?_of_isNoise ht]
    · rw [Statement.tableName?, wordText?_of_isNoise ht']

/-! ### Tables -/

theorem dropAlias (h : Likens idle false l l') :
    Likens idle false (dropAlias l) (dropAlias l') := by
  have hdrop := h.dropWord "AS"
  rw [Statement.dropAlias, Statement.dropAlias]
  generalize Statement.dropWord "AS" l = m at hdrop
  generalize Statement.dropWord "AS" l' = m' at hdrop
  rcases hdrop.cases_head with ⟨rfl, rfl⟩ | ⟨t, t', k, k', rfl, rfl, ht, hk⟩ |
    ⟨t, t', k, k', rfl, rfl, ht, ht', -⟩
  · exact .nil false
  · cases ht with
    | refl =>
        cases t with
        | quotedWord => exact hk
        | word v =>
            dsimp only
            split
            · exact hdrop
            · exact hk
        | _ => exact hdrop
    | @word v v' hupper =>
        have hkey : isKeyword v = isKeyword v' := by rw [isKeyword, hupper, isKeyword]
        dsimp only
        rw [hkey]
        split
        · exact hdrop
        · exact hk
  · cases t <;> cases ht <;> cases t' <;> cases ht' <;> exact hdrop

/-- The tables of a list. -/
theorem tableList?_eq (h : Likens idle false l l') : tableList? l = tableList? l' := by
  induction hlen : l.length using Nat.strong_induction_on generalizing l l' with
  | h n ih =>
      rcases h.tableName? true with ⟨hnone, hnone'⟩ | ⟨name, k, k', hk, hk', hrest⟩
      · rw [tableList?_of_none hnone, tableList?_of_none hnone']
      rcases hrest.dropAlias.head_or .comma rfl rfl with ⟨m, m', hm, hm', hmm⟩ | ⟨hne, hne'⟩
      · have hname : k.length < l.length := length_lt_of_tableName? hk
        have halias := length_dropAlias_le k
        rw [hm, List.length_cons] at halias
        rw [tableList?_of_comma hk hm, tableList?_of_comma hk' hm', ih m.length (by omega) hmm rfl]
      · rw [tableList?_of_last hk hne, tableList?_of_last hk' hne']

theorem dropCondition (h : Likens idle false l l') :
    Likens idle false (dropCondition l) (dropCondition l') := by
  rw [Statement.dropCondition, Statement.dropCondition, ← h.startsWith_eq "IF"]
  split
  · rename_i hstart
    exact ((h.tail hstart).dropWord "NOT").dropWord "EXISTS"
  · exact h

/-- The name that is read, without what follows it. -/
theorem tableName?_fst_eq (h : Likens idle false l l') (refuseCall : Bool) :
    (Statement.tableName? refuseCall l).map Prod.fst =
      (Statement.tableName? refuseCall l').map Prod.fst := by
  rcases h.tableName? refuseCall with ⟨hnone, hnone'⟩ | ⟨name, k, k', hk, hk', -⟩
  · rw [hnone, hnone']
  · rw [hk, hk']
    rfl

theorem tablesAfter_eq (h : Likens idle false l l') {before before' : Option Token}
    (hbefore : before.any (Token.isWord "KEY") = before'.any (Token.isWord "KEY"))
    (marker : String) : tablesAfter before marker l = tablesAfter before' marker l' := by
  rw [tablesAfter, tablesAfter, hbefore]
  dsimp only
  rw [h.dropCondition.tableList?_eq, h.dropCondition.tableName?_fst_eq]

theorem opensQuery_eq (h : Likens idle false l l') : opensQuery l = opensQuery l' := by
  rcases h.cases_head with ⟨rfl, rfl⟩ | ⟨t, t', k, k', rfl, rfl, ht, -⟩ |
    ⟨t, t', k, k', rfl, rfl, ht, ht', -⟩
  · rfl
  · cases ht with
    | refl => cases t <;> rfl
    | word hupper => simp [opensQuery, Token.keyword?, hupper]
  · cases t <;> cases ht <;> cases t' <;> cases ht' <;> rfl

section

variable (hidle : ∀ name ∈ decisiveWords, idle name = false)

include hidle

/-- What is passed over is none of the words that decide something. -/
theorem isWord_of_isIdle {t : Token} (ht : t.isIdle idle = true) {name : String}
    (hname : name ∈ decisiveWords) : t.isWord name = false := by
  rcases of_isIdle ht with hnoise | ⟨v, rfl, hv⟩
  · exact isWord_of_isNoise hnoise name
  · rw [Token.isWord, Token.keyword?, Bool.eq_false_iff, Ne, beq_iff_eq, Option.some_inj]
    rintro rfl
    rw [hidle _ hname] at hv
    cases hv

/-- Nothing is read behind what is passed over. -/
theorem markedTables_cons_of_isIdle {t : Token} (ht : t.isIdle idle = true) (opened : List Bool)
    (before : Option Token) (l : List Token) :
    markedTables opened before (t :: l) = markedTables opened (some t) l := by
  rcases of_isIdle ht with hnoise | ⟨v, rfl, hv⟩
  · cases t <;> first | rfl | cases hnoise
  · have hmarker : tableMarkers.contains (String.ofList (upper v)) = false := by
      rw [List.contains_eq_mem, decide_eq_false_iff_not]
      intro hmem
      rw [hidle _ (by simp [decisiveWords, hmem])] at hv
      cases hv
    simp only [markedTables, Token.keyword?, hmarker, Bool.false_and, Bool.false_eq_true, if_false,
      List.nil_append]

/-- The tables named after markers. -/
theorem markedTables_eq (h : Likens idle b l l') (opened : List Bool)
    {before before' : Option Token}
    (hbefore : before.any (Token.isWord "KEY") = before'.any (Token.isWord "KEY"))
    (hb : b = true → before.any (Token.isWord "KEY") = false) :
    markedTables opened before l = markedTables opened before' l' := by
  have hkey : ∀ {t : Token}, t.isIdle idle = true → (some t).any (Token.isWord "KEY") = false :=
    fun ht => isWord_of_isIdle hidle ht (by simp [decisiveWords])
  have hnoise : ∀ {t : Token}, t.isNoise = true → t.isIdle idle = true := fun ht => by
    rw [Token.isIdle, ht, Bool.true_or]
  induction h generalizing opened before before' with
  | nil => rfl
  | @same b t t' l l' ht hrest ih =>
      have hlast : (some t).any (Token.isWord "KEY") = (some t').any (Token.isWord "KEY") :=
        isWord_of_agrees ht "KEY"
      cases ht with
      | refl =>
          cases t with
          | openParen =>
              rw [markedTables, markedTables, hrest.opensQuery_eq, ih _ rfl (by simp)]
          | closeParen => exact ih _ rfl (by simp)
          | word v =>
              have hsame := @ih opened (some (.word v)) (some (.word v)) rfl (by simp)
              simp only [markedTables, Token.keyword?, hrest.tablesAfter_eq hbefore, hsame]
          | _ => exact ih _ rfl (by simp)
      | @word v v' hupper =>
          simp only [markedTables, Token.keyword?, hupper, hrest.tablesAfter_eq hbefore,
            ih opened hlast (by simp)]
  | @noise b t t' l l' ht ht' hrest ih =>
      rw [markedTables_cons_of_isIdle hidle (hnoise ht),
        markedTables_cons_of_isIdle hidle (hnoise ht')]
      exact ih opened ((hkey (hnoise ht)).trans (hkey (hnoise ht')).symm)
        fun _ => hkey (hnoise ht)
  | skip ht hrest ih =>
      rw [markedTables_cons_of_isIdle hidle ht]
      exact ih opened ((hkey ht).trans ((hb rfl).symm.trans hbefore)) fun _ => hkey ht
  | skipOther ht hrest ih =>
      rw [markedTables_cons_of_isIdle hidle ht]
      exact ih opened ((hb rfl).trans (hkey ht).symm) fun _ => hb rfl

end

/-! ### The verb -/

/-- The words outside parentheses, apart from those that are passed over. -/
theorem topLevelWordsAt_filter_eq (h : Likens idle b l l') (depth : Nat) :
    (topLevelWordsAt depth l).filter (!idle ·) = (topLevelWordsAt depth l').filter (!idle ·) := by
  have hskip : ∀ {t : Token} (l : List Token) (depth : Nat), t.isIdle idle = true →
      (topLevelWordsAt depth (t :: l)).filter (!idle ·) =
        (topLevelWordsAt depth l).filter (!idle ·) := by
    intro t l depth ht
    rcases of_isIdle ht with hnoise | ⟨v, rfl, hv⟩
    · cases t <;> first | rfl | cases hnoise
    · cases depth <;> simp [topLevelWordsAt, Token.keyword?, hv]
  have hnoise : ∀ {t : Token}, t.isNoise = true → t.isIdle idle = true := fun ht => by
    rw [Token.isIdle, ht, Bool.true_or]
  induction h generalizing depth with
  | nil => rfl
  | @same b t t' l l' ht hrest ih =>
      cases ht with
      | refl =>
          cases t with
          | word v =>
              cases depth <;>
                simp only [topLevelWordsAt, Token.keyword?, List.filter_cons, ih]
          | openParen => exact ih (depth + 1)
          | closeParen => exact ih (depth - 1)
          | _ => exact ih depth
      | word hupper =>
          cases depth <;>
            simp only [topLevelWordsAt, Token.keyword?, hupper, List.filter_cons, ih]
  | noise ht ht' hrest ih => rw [hskip _ _ (hnoise ht), hskip _ _ (hnoise ht'), ih]
  | skip ht hrest ih => rw [hskip _ _ ht, ih]
  | skipOther ht hrest ih => rw [hskip _ _ ht, ih]

/-- Whether a word that is not passed over stands outside parentheses. -/
theorem contains_topLevelWords_eq (h : Likens idle b l l') {name : String}
    (hname : idle name = false) :
    (topLevelWords l).contains name = (topLevelWords l').contains name := by
  have hcontains : ∀ words : List String,
      words.contains name = (words.filter (!idle ·)).contains name := by
    intro words
    rw [Bool.eq_iff_iff]
    simp [List.mem_filter, hname]
  rw [hcontains (topLevelWords l), hcontains (topLevelWords l'), topLevelWords, topLevelWords,
    h.topLevelWordsAt_filter_eq]

theorem leadingWords_take_eq (h : Likens idle false l l') (n : Nat) :
    leadingWords (l.take n) = leadingWords (l'.take n) := by
  induction n generalizing l l' with
  | zero => rfl
  | succ n ih =>
      rcases h.cases_head with ⟨rfl, rfl⟩ | ⟨t, t', k, k', rfl, rfl, ht, hk⟩ |
        ⟨t, t', k, k', rfl, rfl, ht, ht', -⟩
      · rfl
      · rw [List.take_succ_cons, List.take_succ_cons, leadingWords, leadingWords,
          keyword?_of_agrees ht, ih hk]
      · rw [List.take_succ_cons, List.take_succ_cons, leadingWords, leadingWords,
          keyword?_of_isNoise ht, keyword?_of_isNoise ht']

/-- **The verb of a statement.** -/
theorem verbOf_eq (hidle : ∀ name ∈ decisiveWords, idle name = false)
    (h : Likens idle false l l') : verbOf l = verbOf l' := by
  rcases h.cases_head with ⟨rfl, rfl⟩ | ⟨t, t', k, k', rfl, rfl, ht, hk⟩ |
    ⟨t, t', k, k', rfl, rfl, ht, ht', -⟩
  · rfl
  · have hmain : ∀ words : List String,
        words.find? mainVerbs.contains = (words.filter (!idle ·)).find? mainVerbs.contains := by
      intro words
      rw [List.find?_filter]
      refine List.find?_congr fun word _ => ?_
      by_cases hword : mainVerbs.contains word = true
      · rw [hword, hidle word (by simp [decisiveWords, List.contains_iff_mem.mp hword])]
        rfl
      · rw [Bool.not_eq_true] at hword
        rw [hword]
        simp
    have hdrop : ∀ {u : Token} {word : String} (m : List Token), u.keyword? = some word →
        (topLevelWords (u :: m)).drop 1 = topLevelWordsAt 0 m := by
      intro u word m hu
      cases u with
      | word v => rfl
      | _ => cases hu
    rw [verbOf, verbOf, ← keyword?_of_agrees ht, showVerb, hk.leadingWords_take_eq 4, showVerb]
    cases hkey : t.keyword? with
    | none => rfl
    | some word =>
        have hkey' : t'.keyword? = some word := (keyword?_of_agrees ht).symm.trans hkey
        rw [hdrop k hkey, hdrop k' hkey', hmain, hk.topLevelWordsAt_filter_eq, ← hmain]
  · rw [verbOf, verbOf, keyword?_of_isNoise ht, keyword?_of_isNoise ht']

/-! ### The description -/

/-- The table named directly after the verb. -/
theorem directTable_eq (h : Likens idle false l l') :
    directTable (verbOf l) l = directTable (verbOf l) l' := by
  rcases h.cases_head with ⟨rfl, rfl⟩ | ⟨t, t', k, k', rfl, rfl, ht, hk⟩ |
    ⟨t, t', k, k', rfl, rfl, ht, ht', -⟩
  · rfl
  · rw [directTable, directTable, List.drop_one, List.drop_one, List.tail_cons, List.tail_cons,
      hk.startsWith_eq, hk.tableName?_fst_eq]
  · have hverb : verbOf (t :: k) = "" := by rw [verbOf, keyword?_of_isNoise ht]
    rw [hverb]
    rfl

/-- **The tables of a statement.** -/
theorem tablesOf_eq (hidle : ∀ name ∈ decisiveWords, idle name = false)
    (h : Likens idle false l l') : tablesOf (verbOf l) l = tablesOf (verbOf l') l' := by
  rw [← h.verbOf_eq hidle, tablesOf, tablesOf, h.directTable_eq,
    h.markedTables_eq hidle [] rfl (by simp)]

theorem dropWhile_openParen (h : Likens idle false l l') :
    Likens idle false (l.dropWhile (· == .openParen)) (l'.dropWhile (· == .openParen)) := by
  induction l generalizing l' with
  | nil =>
      cases h
      exact .nil false
  | cons t k ih =>
      rcases h.cases_head with ⟨heq, -⟩ | ⟨u, u', m, m', heq, rfl, hu, hm⟩ |
        ⟨u, u', m, m', heq, rfl, hu, hu', -⟩
      · cases heq
      · cases heq
        have hparen : (t == Token.openParen) = (u' == Token.openParen) := by
          cases hu <;> rfl
        rw [List.dropWhile_cons, List.dropWhile_cons, ← hparen]
        split
        · exact ih hm
        · exact h
      · cases heq
        have hne : ∀ {w : Token}, w.isNoise = true → (w == Token.openParen) = false := by
          intro w hw
          cases w <;> first | rfl | cases hw
        rw [List.dropWhile_cons, List.dropWhile_cons, hne hu, hne hu']
        exact h

/-- A statement is explained and run in both lists or in neither. -/
theorem explained? (h : Likens idle false l l') :
    (Statement.explained? l = none ∧ Statement.explained? l' = none) ∨
      ∃ k k', Statement.explained? l = some k ∧ Statement.explained? l' = some k' ∧
        Likens idle false k k' := by
  by_cases hstart : Statement.startsWith "EXPLAIN" l = true ∧
      Statement.startsWith "ANALYZE" (l.drop 1) = true
  · have htail := h.tail hstart.1
    have hstart' := hstart
    rw [h.startsWith_eq, htail.startsWith_eq] at hstart'
    have hsome : ∀ m : List Token, Statement.startsWith "EXPLAIN" m = true →
        Statement.startsWith "ANALYZE" (m.drop 1) = true →
        Statement.explained? m = some ((m.drop 1).drop 1) := by
      intro m hfirst hsecond
      rcases m with _ | ⟨t, _ | ⟨u, m⟩⟩
      · cases hfirst
      · cases hsecond
      · rw [Statement.startsWith] at hfirst
        rw [List.drop_one, List.tail_cons, Statement.startsWith] at hsecond
        simp [Statement.explained?, hfirst, hsecond]
    exact .inr ⟨_, _, hsome l hstart.1 hstart.2, hsome l' hstart'.1 hstart'.2,
      htail.tail hstart.2⟩
  · have hnone : ∀ m : List Token, ¬ (Statement.startsWith "EXPLAIN" m = true ∧
        Statement.startsWith "ANALYZE" (m.drop 1) = true) → Statement.explained? m = none := by
      intro m hm
      rcases m with _ | ⟨t, _ | ⟨u, m⟩⟩
      · rfl
      · rfl
      · simpa [Statement.startsWith, Statement.explained?] using hm
    refine .inl ⟨hnone l hstart, hnone l' ?_⟩
    rintro ⟨hfirst, hsecond⟩
    rw [← h.startsWith_eq] at hfirst
    rw [← (h.tail hfirst).startsWith_eq] at hsecond
    exact hstart ⟨hfirst, hsecond⟩

section

variable (hidle : ∀ name ∈ decisiveWords, idle name = false) (normalized : String)

include hidle

theorem describe_withoutLimit (h : Likens idle false l l') :
    (describe normalized l).withoutLimit = (describe normalized l').withoutLimit := by
  have hwhere := h.contains_topLevelWords_eq (hidle "WHERE" (by simp [decisiveWords]))
  have htables := h.tablesOf_eq hidle
  rw [h.verbOf_eq hidle] at htables
  simp only [describe, h.verbOf_eq hidle, htables, hwhere]
  rfl

theorem describe_eq (h : Likens idle false l l') (hlimit : idle "LIMIT" = false) :
    describe normalized l = describe normalized l' := by
  have hwhere := h.contains_topLevelWords_eq (hidle "WHERE" (by simp [decisiveWords]))
  have htables := h.tablesOf_eq hidle
  rw [h.verbOf_eq hidle] at htables
  simp only [describe, h.verbOf_eq hidle, htables, hwhere, h.contains_topLevelWords_eq hlimit]

omit hidle in
/-- Whatever of a description decides whether it counts for an explained statement is carried
over to an explained statement. -/
theorem analyzeBody_congr {α : Type} {f : Statement → α}
    (hf : ∀ {s s' : Statement}, f s = f s' → s.withoutLimit = s'.withoutLimit)
    (hdescribe : ∀ {m m' : List Token}, Likens idle false m m' →
      f (describe normalized m) = f (describe normalized m'))
    (h : Likens idle false l l') :
    f (analyzeBody normalized l) = f (analyzeBody normalized l') := by
  have hinner : ∀ {s s' : Statement}, f s = f s' →
      (s.category == .manipulation && s.operation != "SELECT") =
        (s'.category == .manipulation && s'.operation != "SELECT") := by
    intro s s' heq
    have hcategory := congrArg Statement.category (hf heq)
    have hoperation := congrArg Statement.operation (hf heq)
    dsimp only [withoutLimit] at hcategory hoperation
    rw [hcategory, hoperation]
  induction hlen : l.length using Nat.strong_induction_on generalizing l l' with
  | h n ih =>
      subst hlen
      rw [analyzeBody_eq normalized l, analyzeBody_eq normalized l']
      rcases h.dropWhile_openParen.explained? with ⟨hnone, hnone'⟩ | ⟨k, k', hk, hk', hlike⟩
      · rw [hnone, hnone']
        exact hdescribe h.dropWhile_openParen
      · have hlt : k.length < l.length :=
          Nat.lt_of_lt_of_le (length_lt_of_explained? hk) (length_dropWhile_le _ _)
        have hih := ih k.length hlt hlike rfl
        rw [hk, hk']
        dsimp only
        rw [hinner hih]
        split
        · exact hih
        · exact hdescribe h.dropWhile_openParen

/-- **Statements that are alike are described alike**, up to what is said of a limit. -/
theorem analyzeBody_withoutLimit (h : Likens idle false l l') :
    (analyzeBody normalized l).withoutLimit = (analyzeBody normalized l').withoutLimit :=
  h.analyzeBody_congr normalized id fun hlike => hlike.describe_withoutLimit hidle normalized

/-- So is the limit, if the word that tells it is not passed over. -/
theorem analyzeBody_eq (h : Likens idle false l l') (hlimit : idle "LIMIT" = false) :
    analyzeBody normalized l = analyzeBody normalized l' :=
  h.analyzeBody_congr (f := id) normalized (fun heq => congrArg withoutLimit heq) fun hlike =>
    hlike.describe_eq hidle normalized hlimit

end

end Likens

end Statement

end SqlGateway
