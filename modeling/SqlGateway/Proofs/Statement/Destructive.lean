import SqlGateway.Proofs.Text.Case
import SqlGateway.Proofs.Statement.Boundary

/-!
# Verbs That Are Never Run

A text is *destructive* if its first word, behind blanks and opening parentheses, is a verb
that is never run, in any letter case. This file shows that such a text is refused by its
first statement, whichever way it is read:

* if the tokenizer accepts the text, the first statement has exactly that verb;
* otherwise the words between blanks decide, and the first of them may have parentheses in
  front of the verb and other characters behind it. Then the statement has that verb, or no
  verb at all, or one that the gateway does not know.

## Main results

* `exists_refused_of_destructive`: the first statement of a destructive text is refused.
-/

namespace SqlGateway

open Sql Text

/-! ### Characters in ASCII -/

/-- A letter in ASCII starts a word. -/
theorem isWordStart_of_isAlpha {c : Char} (hascii : c.toNat < 0x80) (h : c.isAlpha = true) :
    isWordStart c = true := by
  simp [isWordStart, isAlphabetic, hascii, h]

/-! ### Destructive texts -/

/-- Whether a character can stand before the verb of a statement. -/
def isLead (c : Char) : Bool :=
  c == '(' || (isBlank c && c.toNat < 0x80)

/-- Whether a character behind a word shows that the word ends. -/
def endsWord (c : Char) : Bool :=
  c.toNat < 0x80 && !c.isAlphanum && c != '_' && c != '$' && c != '@'

/-- A text opens with a verb: behind blanks and opening parentheses stands the verb in some
letter case, and then the end of the text or a character that ends the word. -/
def OpensWith (verb : String) (cs : List Char) : Prop :=
  ∃ word rest, cs.dropWhile isLead = word ++ rest ∧ word.map Char.toUpper = verb.toList ∧
    ∀ c ∈ rest.head?, endsWord c = true

/-- A text without comments opens with a verb that is never run. -/
def IsDestructive (cs : List Char) : Prop :=
  ∃ verb ∈ hardBlockedVerbs, OpensWith verb cs

/-- What ends a word stands in no word. -/
theorem isWordPart_of_endsWord {c : Char} (h : endsWord c = true) : isWordPart c = false := by
  simp only [endsWord, Bool.and_eq_true, decide_eq_true_eq, Bool.not_eq_true', bne_iff_ne,
    Char.isAlphanum, Bool.or_eq_false_iff] at h
  obtain ⟨⟨⟨⟨hascii, halpha, hdigit⟩, hunder⟩, hdollar⟩, hat⟩ := h
  have hpast : ¬ 0x80 ≤ c.toNat := Nat.not_le.mpr hascii
  simp [isWordPart, isWordStart, isAlphabetic, hascii, halpha, hdigit, hunder, hdollar, hat,
    hpast]

/-- A word that writes a verb that is never run. -/
structure IsVerbWord (verb : String) (word : List Char) : Prop where
  mem : verb ∈ hardBlockedVerbs
  upper_eq : upper word = verb.toList
  isWordStart_of_mem : ∀ c ∈ word, isWordStart c = true
  isBlank_of_mem : ∀ c ∈ word, isBlank c = false
  ascii_of_mem : ∀ c ∈ word, c.toNat < 0x80 ∧ c.isAlpha = true
  ne_nil : word ≠ []
  letterForm?_head : ∀ c ∈ word.head?, letterForm? c = none

/-- The verbs that are never run are made of capital letters, and the first of them opens no
string. -/
theorem of_mem_hardBlockedVerbs {verb : String} (h : verb ∈ hardBlockedVerbs) :
    verb.toList ≠ [] ∧ (∀ c ∈ verb.toList, c.isUpper = true) ∧
      (∀ c ∈ verb.toList.head?, c ≠ 'N' ∧ c ≠ 'X' ∧ c ≠ 'E' ∧ c ≠ 'S') ∧ verb ≠ "SHOW" ∧
      verb ≠ "WITH" ∧ verb ≠ "EXPLAIN" := by
  have hall : ∀ verb ∈ hardBlockedVerbs,
      verb.toList ≠ [] ∧ verb.toList.all Char.isUpper = true ∧
        (verb.toList.head?.all fun c => "NXES".toList.all (c != ·)) = true ∧ verb ≠ "SHOW" ∧
        verb ≠ "WITH" ∧ verb ≠ "EXPLAIN" := by
    decide
  obtain ⟨hne, hupper, hhead, hkeys⟩ := hall verb h
  refine ⟨hne, List.all_eq_true.mp hupper, ?_, hkeys⟩
  intro c hc
  rw [Option.mem_def.mp hc] at hhead
  simpa using hhead

/-- The verbs that are never run have no blanks. -/
theorem isBlank_of_mem_hardBlockedVerbs {verb : String} (h : verb ∈ hardBlockedVerbs) {c : Char}
    (hc : c ∈ verb.toList) : isBlank c = false := by
  have hupper : c.isUpper = true := (of_mem_hardBlockedVerbs h).2.1 c hc
  have hascii : c.toNat < 0x80 := by
    rw [Char.isUpper, decide_eq_true_eq] at hupper
    exact Nat.lt_of_le_of_lt (UInt32.le_iff_toNat_le.mp hupper.2) (by decide)
  exact isBlank_of_isAlpha hascii (by rw [Char.isAlpha, hupper, Bool.true_or])

theorem isVerbWord_of_map {verb : String} (hverb : verb ∈ hardBlockedVerbs) {word : List Char}
    (h : word.map Char.toUpper = verb.toList) : IsVerbWord verb word := by
  obtain ⟨hne, hupper, hform, -⟩ := of_mem_hardBlockedVerbs hverb
  have hletters : ∀ c ∈ word, c.toNat < 0x80 ∧ c.isAlpha = true := fun c hc => by
    refine isAlpha_of_isUpper_toUpper (hupper _ ?_)
    rw [← h]
    exact List.mem_map_of_mem hc
  refine ⟨hverb, ?_, ?_, ?_, hletters, ?_, ?_⟩
  · rw [← h, upper, List.map_eq_flatMap]
    exact List.flatMap_congr fun c hc => upperChar_of_ascii (hletters c hc).1
  · exact fun c hc => isWordStart_of_isAlpha (hletters c hc).1 (hletters c hc).2
  · exact fun c hc => isBlank_of_isAlpha (hletters c hc).1 (hletters c hc).2
  · rintro rfl
    exact hne h.symm
  · intro c hc
    cases word with
    | nil => cases hc
    | cons d rest =>
        obtain rfl : d = c := by simpa using hc
        have hhead := hform d.toUpper (by rw [← h]; simp)
        by_contra hsome
        obtain ⟨form, hform'⟩ := Option.ne_none_iff_exists'.mp hsome
        rcases of_letterForm? hform' with ⟨-, rfl | rfl⟩ | ⟨-, rfl | rfl⟩ | ⟨-, rfl | rfl⟩ <;>
          revert hhead <;> decide

namespace Sql

/-! ### Tokens before the verb -/

/-- What stands before the verb gives blanks and opening parentheses. -/
theorem Scans.of_isLead {lead rest : List Char} {tokens : List Token}
    (h : Scans (lead ++ rest) tokens []) (hlead : ∀ c ∈ lead, isLead c = true) :
    ∃ before after, tokens = before ++ after ∧ Scans rest after [] ∧
      ∀ t ∈ before, t = .blank ∨ t = .openParen := by
  induction lead generalizing tokens with
  | nil => exact ⟨[], tokens, rfl, h, by simp⟩
  | cons c lead ih =>
      rw [List.cons_append] at h
      cases h with
      | @cons _ _ mid _ t tokens hread hscan =>
          have hc : isLead c = true := hlead c List.mem_cons_self
          obtain ⟨rfl, ht⟩ : mid = lead ++ rest ∧ (t = .blank ∨ t = .openParen) := by
            rw [isLead, Bool.or_eq_true, beq_iff_eq, Bool.and_eq_true, decide_eq_true_eq] at hc
            rcases hc with rfl | ⟨hblank, hascii⟩
            · have hparen : Reads '(' (lead ++ rest) .openParen (lead ++ rest) :=
                .plain (by decide) (by simp [letterForm?])
              obtain ⟨rfl, rfl⟩ := hread.unique hparen
              exact ⟨rfl, .inr rfl⟩
            · rcases hread.of_isBlank hblank with ⟨-, heq⟩ | ⟨hpast, -⟩
              · cases heq
                exact ⟨rfl, .inl rfl⟩
              · omega
          obtain ⟨before, after, rfl, hafter, hbefore⟩ :=
            ih hscan fun d hd => hlead d (List.mem_cons_of_mem c hd)
          refine ⟨t :: before, after, rfl, hafter, ?_⟩
          intro t' ht'
          rcases List.mem_cons.mp ht' with rfl | ht'
          · exact ht
          · exact hbefore t' ht'

/-- The verb is one token. -/
theorem Scans.of_isVerbWord {verb : String} {word rest : List Char} {tokens : List Token}
    (h : Scans (word ++ rest) tokens []) (hword : IsVerbWord verb word)
    (hrest : ∀ c ∈ rest.head?, endsWord c = true) :
    ∃ after, tokens = .word word :: after := by
  obtain ⟨c, more, rfl⟩ := List.exists_cons_of_ne_nil hword.ne_nil
  have hpart : ∀ d ∈ c :: more, isWordPart d = true := fun d hd => by
    rw [isWordPart, hword.isWordStart_of_mem d hd, Bool.true_or]
  have htake : ((c :: more) ++ rest).takeWhile isWordPart = c :: more := by
    rw [List.takeWhile_append_of_pos hpart]
    cases rest with
    | nil => simp
    | cons d tail => simp [isWordPart_of_endsWord (hrest d rfl)]
  have hform : letterForm? c = none := hword.letterForm?_head c rfl
  have hstart := hword.isWordStart_of_mem c List.mem_cons_self
  have hat : c ≠ '@' := by
    rintro rfl
    cases (hword.ascii_of_mem '@' List.mem_cons_self).2
  rw [List.cons_append] at h
  cases h with
  | @cons _ _ mid _ t tokens hread hscan =>
      have hquote : isQuote c = false := by
        by_contra hq
        rw [Bool.not_eq_false] at hq
        rcases isQuote_iff.mp hq with rfl | rfl | rfl <;> cases hstart
      have hplain : Reads c (more ++ rest) _ _ := .plain hquote (by simp [hform])
      rw [readPlain_of_isWordStart hstart hat, readWord, ← List.cons_append, htake] at hplain
      obtain ⟨rfl, rfl⟩ := hread.unique hplain
      exact ⟨tokens, rfl⟩

end Sql

namespace Statement

/-! ### Refused statements -/

/-- A statement that the gate refuses under every policy: its verb is never run, or it has
none, or the gateway does not know it. -/
def IsRefused (s : Statement) : Prop :=
  isHardBlocked s.operation = true ∨ s.isValid = false ∨
    isSupportedOperation s.operation s.category = false

/-- A verb that is never run is its own first word. -/
theorem isHardBlocked_of_mem {verb : String} (h : verb ∈ hardBlockedVerbs) :
    isHardBlocked verb = true := by
  rw [isHardBlocked, firstWord_of_unblank fun c => isBlank_of_mem_hardBlockedVerbs h]
  exact List.contains_iff_mem.mpr h

/-! ### From tokens -/

/-- The description of a statement whose first word is a verb that is never run has that
verb. -/
theorem operation_analyze {before : List Token} {verb : String} {word : List Char}
    (hword : IsVerbWord verb word) (hbefore : ∀ t ∈ before, t = .blank ∨ t = .openParen)
    (after : List Token) : (analyze (before ++ .word word :: after)).operation = verb := by
  have hfilter : (before ++ .word word :: after).filter (· != .blank) =
      before.filter (· != .blank) ++ .word word :: after.filter (· != .blank) := by
    simp
  have hparens : ∀ t ∈ before.filter (· != .blank), (t == .openParen) = true := by
    intro t ht
    obtain ⟨hmem, hne⟩ := List.mem_filter.mp ht
    rcases hbefore t hmem with rfl | rfl
    · cases hne
    · rfl
  have hkey : (Token.word word).keyword? = some verb := by
    rw [Token.keyword?, hword.upper_eq, String.ofList_toList]
  obtain ⟨-, -, -, hshow, hwith, hexplain⟩ := of_mem_hardBlockedVerbs hword.mem
  rw [analyze, hfilter]
  generalize String.ofList (render _) = normalized
  generalize after.filter (· != .blank) = after'
  have hbody : (before.filter (· != .blank) ++ .word word :: after').dropWhile (· == .openParen) =
      .word word :: after' := by
    rw [List.dropWhile_append_of_pos hparens]
    rfl
  rw [analyzeBody]
  split
  · rename_i rest hsome
    rw [hbody] at hsome
    cases after' with
    | nil => cases hsome
    | cons second more => simp [explained?, Token.isWord, hkey, hexplain] at hsome
  · rw [hbody]
    exact verbOf_cons hkey hshow hwith after'

/-- The first statement of tokens that start with a verb has that verb. -/
theorem exists_tokenStatements {before after : List Token} {verb : String} {word : List Char}
    (hword : IsVerbWord verb word) (hbefore : ∀ t ∈ before, t = .blank ∨ t = .openParen) :
    ∃ s more, (splitStatements (before ++ .word word :: after)).map analyze = s :: more ∧
      s.operation = verb := by
  have hsemi : ∀ t ∈ before ++ [.word word], (t == Token.semicolon) = false := by
    intro t ht
    rcases List.mem_append.mp ht with ht | ht
    · rcases hbefore t ht with rfl | rfl <;> rfl
    · rw [List.mem_singleton.mp ht]
      rfl
  obtain ⟨head, tail, hsplit⟩ :=
    List.exists_cons_of_ne_nil (List.splitOnP_ne_nil (· == Token.semicolon) after)
  have hcut : cutAtSemicolons (before ++ .word word :: after) =
      (before ++ .word word :: head) :: tail := by
    rw [cutAtSemicolons_eq_splitOnP, List.append_cons, splitOnP_append_of_forall hsemi, hsplit]
    simp
  have hstatements : (splitStatements (before ++ .word word :: after)).map analyze =
      analyze (before ++ .word word :: head) ::
        (tail.filter fun piece => piece.any (· != .blank)).map analyze := by
    rw [splitStatements, hcut, List.filter_cons_of_pos (by simp), List.map_cons]
  exact ⟨_, _, hstatements, operation_analyze hword hbefore head⟩

/-! ### From words between blanks -/

theorem cutAt_eq_splitOnP (p : Char → Bool) (cs : List Char) : cutAt p cs = cs.splitOnP p := by
  induction cs with
  | nil => simp [cutAt]
  | cons c cs ih =>
      obtain ⟨head, tail, heq⟩ := List.exists_cons_of_ne_nil (List.splitOnP_ne_nil p cs)
      rw [cutAt, List.splitOnP_cons_eq_if_modifyHead, ih, heq]
      split <;> rfl

/-- The words that no statement is let through with when it is described by its words: the verbs
that are never run, and `WITH`, behind which the words do not tell the main verb. -/
def refusedStarts : List String :=
  "WITH" :: hardBlockedVerbs

/-- A text whose first word, behind opening parentheses, starts with one of these, or is nothing
but parentheses. -/
def StartsRefused (cs : List Char) : Prop :=
  ∃ first more, words cs = first :: more ∧
    ((upper first).dropWhile (· == '(') = [] ∨
      ∃ start ∈ refusedStarts, start.toList <+: (upper first).dropWhile (· == '('))

/-- A verb that starts with a refused word is one that is never run, or the gateway does not
know it. -/
theorem refused_of_isPrefix {start : String} (hstart : start ∈ refusedStarts) {verb : List Char}
    (hbegins : start.toList <+: verb) (hverb : ∀ c ∈ verb, isBlank c = false) :
    isHardBlocked (String.ofList verb) = true ∨
      isSupportedOperation (String.ofList verb) (Category.ofOperation (String.ofList verb)) =
        false := by
  have hfirst : firstWord (String.ofList verb) = String.ofList verb :=
    firstWord_of_unblank (by simpa using hverb)
  -- Among the verbs that the gateway knows, only those that are never run start that way.
  have hknown : ∀ l : List String,
      (l.all fun v => refusedStarts.all fun s =>
        !s.toList.isPrefixOf v.toList || hardBlockedVerbs.contains v) = true →
      l.contains (String.ofList verb) = true → isHardBlocked (String.ofList verb) = true := by
    intro l hl hmem
    have hv := List.all_eq_true.mp (List.all_eq_true.mp hl _ (List.contains_iff_mem.mp hmem)) _
      hstart
    rw [String.toList_ofList, List.isPrefixOf_iff_prefix.mpr hbegins] at hv
    rw [isHardBlocked, hfirst]
    simpa using hv
  have hshow : dropStart? "SHOW ".toList verb = none := by
    by_contra hsome
    obtain ⟨rest, hrest⟩ := Option.ne_none_iff_exists'.mp hsome
    have hblank := hverb ' ' (by rw [dropStart?_eq_some hrest]; simp)
    cases hblank
  have hlist : (String.ofList verb).toList = verb := String.toList_ofList
  rw [isSupportedOperation, Category.ofOperation, hfirst, hlist, hshow, Category.ofVerb]
  split_ifs with hdefinition hmanipulation hmetadata
  · exact .inl (hknown _ (by decide) hdefinition)
  · exact .inl (hknown _ (by decide) hmanipulation)
  · exact .inl (hknown _ (by decide) hmetadata)
  · exact .inr rfl
  · exact .inr rfl

/-- The verb of a piece is its first word, without opening parentheses, but for the one verb that
is completed. -/
theorem operation_fallbackPiece {cs first : List Char} {more : List (List Char)}
    (hwords : words cs = first :: more)
    (hshow : (upper first).dropWhile (· == '(') ≠ "SHOW".toList) :
    (fallbackPiece cs).operation = String.ofList ((upper first).dropWhile (· == '(')) := by
  change fallbackVerb (((words cs).map String.ofList).map upperString) = _
  rw [hwords, List.map_cons, List.map_cons, fallbackVerb, upperString, String.toList_ofList,
    String.toList_ofList]
  intro next rest hverb
  rw [upperString, String.toList_ofList, String.toList_ofList] at hverb
  exact absurd (by rw [← hverb, String.toList_ofList]) hshow

/-- The first word of a piece in upper case has no blank in it. -/
theorem isBlank_of_mem_start {cs first : List Char} {more : List (List Char)}
    (hwords : words cs = first :: more) :
    ∀ c ∈ (upper first).dropWhile (· == '('), isBlank c = false := by
  intro c hc
  obtain ⟨d, hd, hc⟩ := List.mem_flatMap.mp ((List.dropWhile_suffix _).subset hc)
  have hfirst := (of_mem_words (hwords ▸ List.mem_cons_self : first ∈ words cs)).2
  exact isBlank_of_mem_upperChar (hfirst d hd) hc

/-- **The fallback refuses a piece that starts with a refused word**, whatever is glued to it. -/
theorem isRefused_fallbackPiece {cs : List Char} (h : StartsRefused cs) :
    IsRefused (fallbackPiece cs) := by
  obtain ⟨first, more, hwords, hstart⟩ := h
  rcases hstart with hnil | ⟨start, hmem, hbegins⟩
  · -- The parentheses are a word of their own, so the statement has no verb.
    have hoperation := operation_fallbackPiece hwords (by rw [hnil]; decide)
    rw [hnil] at hoperation
    refine .inr (.inl ?_)
    change ((fallbackPiece cs).operation != "") = false
    rw [hoperation]
    rfl
  · have hoperation := operation_fallbackPiece hwords (by
      intro hshow
      rw [hshow, ← List.isPrefixOf_iff_prefix] at hbegins
      have hall : ∀ s ∈ refusedStarts, s.toList.isPrefixOf "SHOW".toList = false := by decide
      rw [hall start hmem] at hbegins
      cases hbegins)
    have hcategory : (fallbackPiece cs).category =
        Category.ofOperation (fallbackPiece cs).operation := rfl
    rw [IsRefused, hcategory, hoperation]
    exact (refused_of_isPrefix hmem hbegins (isBlank_of_mem_start hwords)).imp_right .inr

theorem StartsRefused.cons_of_isBlank {cs : List Char} {c : Char} (hc : isBlank c = true)
    (h : StartsRefused cs) : StartsRefused (c :: cs) := by
  obtain ⟨first, more, hwords, hstart⟩ := h
  exact ⟨first, more, (words_congr (List.dropWhile_cons_of_pos hc)).trans hwords, hstart⟩

/-- An opening parenthesis in front is a word of its own or belongs to the first word. -/
theorem StartsRefused.cons_paren {cs : List Char} (h : StartsRefused cs) :
    StartsRefused ('(' :: cs) := by
  obtain ⟨first, more, hwords, hstart⟩ := h
  have hdrop : ('(' :: cs).dropWhile isBlank = '(' :: cs :=
    List.dropWhile_cons_of_neg (by decide)
  have hparen := words_eq_cons hdrop
  by_cases hhead : ∀ c ∈ cs.head?, isBlank c = false
  · refine ⟨'(' :: first, words (cs.dropWhile fun c => !isBlank c), ?_, ?_⟩
    · have hne : cs ≠ [] := by
        rintro rfl
        rw [words_eq_nil (by simp)] at hwords
        cases hwords
      obtain ⟨more', hcons⟩ := words_of_head hne hhead
      rw [hwords] at hcons
      rw [hparen, (List.cons.inj hcons).1]
    · rwa [show upper ('(' :: first) = '(' :: upper first from rfl,
        List.dropWhile_cons_of_pos (by decide)]
  · obtain ⟨c, hhead⟩ := not_forall.mp hhead
    obtain ⟨hc, hblank⟩ := Classical.not_imp.mp hhead
    obtain ⟨rest, rfl⟩ := List.head?_eq_some_iff.mp hc
    rw [List.takeWhile_cons_of_neg (by simpa using hblank)] at hparen
    exact ⟨_, _, hparen, .inl rfl⟩

/-- **A text that opens with a refused word starts that way**, by induction on what stands in
front of the word. -/
theorem startsRefused_append {start : String} (hstart : start ∈ refusedStarts)
    {lead word : List Char} (hlead : ∀ c ∈ lead, c = '(' ∨ isBlank c = true)
    (hword : upper word = start.toList) (junk : List Char) :
    StartsRefused (lead ++ (word ++ junk)) := by
  have hcapitals : ∀ s ∈ refusedStarts, s.toList ≠ [] ∧
      (s.toList.all fun c => !isBlank c && c != '(') = true := by
    decide
  obtain ⟨hne, hall⟩ := hcapitals start hstart
  have hletter : ∀ c ∈ start.toList, isBlank c = false ∧ (c == '(') = false := by
    simpa using hall
  induction lead with
  | nil =>
      have hunblank : ∀ c ∈ word, (!isBlank c) = true := fun c hc => by
        rw [isBlank_of_upper (by rw [hword]; exact fun d hd => (hletter d hd).1) c hc]
        rfl
      have hnil : word ≠ [] := by
        rintro rfl
        exact hne hword.symm
      obtain ⟨c, cs, rfl⟩ := List.exists_cons_of_ne_nil hnil
      have hhead : ∀ d ∈ (c :: cs ++ junk).head?, isBlank d = false := by
        rintro d ⟨⟩
        simpa using hunblank c List.mem_cons_self
      obtain ⟨more, hwords⟩ := words_of_head (by simp) hhead
      rw [List.takeWhile_append_of_pos hunblank] at hwords
      refine ⟨_, more, hwords, .inr ⟨start, hstart, ?_⟩⟩
      obtain ⟨d, ds, hcons⟩ := List.exists_cons_of_ne_nil hne
      have hd := (hletter d (by simp [hcons])).2
      rw [upper_append, hword, hcons, List.cons_append,
        List.dropWhile_cons_of_neg (by simpa using hd), ← List.cons_append]
      exact List.prefix_append _ _
  | cons c lead ih =>
      have hrest := ih fun d hd => hlead d (List.mem_cons_of_mem c hd)
      rcases hlead c List.mem_cons_self with rfl | hc
      · exact hrest.cons_paren
      · exact hrest.cons_of_isBlank hc

theorem startsRefused_trim {cs : List Char} : StartsRefused (trim cs) ↔ StartsRefused cs := by
  rw [StartsRefused, StartsRefused, words_trim]

/-- A piece that starts with a refused word has something in it. -/
theorem StartsRefused.trim_ne_nil {cs : List Char} (h : StartsRefused cs) : trim cs ≠ [] := by
  intro hnil
  obtain ⟨first, more, hwords, -⟩ := startsRefused_trim.mpr h
  rw [hnil, words_eq_nil (by simp)] at hwords
  cases hwords

/-- A refused word at the front of a text stands in the first piece between semicolons. -/
theorem exists_splitOnP_of_start {start : String} (hstart : start ∈ refusedStarts)
    {lead word : List Char} (hlead : ∀ c ∈ lead, c = '(' ∨ isBlank c = true)
    (hword : upper word = start.toList) (rest : List Char) :
    ∃ head tail, (lead ++ (word ++ rest)).splitOnP (· == ';') =
      (lead ++ (word ++ head)) :: tail := by
  obtain ⟨head, tail, hsplit⟩ :=
    List.exists_cons_of_ne_nil (List.splitOnP_ne_nil (· == ';') rest)
  have hsemi : ∀ c ∈ lead ++ word, (c == ';') = false := by
    intro c hc
    rw [beq_eq_false_iff_ne]
    rintro rfl
    rcases List.mem_append.mp hc with hc | hc
    · rcases hlead ';' hc with hparen | hblank
      · cases hparen
      · cases hblank
    · have hnone : ∀ s ∈ refusedStarts, ';' ∉ s.toList := by decide
      refine hnone start hstart ?_
      rw [← hword]
      exact List.mem_flatMap.mpr ⟨';', hc, by decide⟩
  refine ⟨head, tail, ?_⟩
  rw [← List.append_assoc, splitOnP_append_of_forall hsemi, hsplit]
  simp

/-- Between semicolons, the fallback finds the verb first. -/
theorem exists_fallbackPieces {start : String} (hstart : start ∈ refusedStarts)
    {lead word : List Char} (hlead : ∀ c ∈ lead, c = '(' ∨ isBlank c = true)
    (hword : upper word = start.toList) (rest : List Char) :
    ∃ s more, fallbackPieces (lead ++ (word ++ rest)) = s :: more ∧ IsRefused s := by
  obtain ⟨head, tail, hsplit⟩ := exists_splitOnP_of_start hstart hlead hword rest
  have hstarts := startsRefused_append hstart hlead hword head
  refine ⟨_, ((tail.map trim).filter (!·.isEmpty)).map fallbackPiece, ?_,
    isRefused_fallbackPiece (startsRefused_trim.mpr hstarts)⟩
  rw [fallbackPieces, cutAt_eq_splitOnP, hsplit, List.map_cons,
    List.filter_cons_of_pos (by simpa [List.isEmpty_iff] using hstarts.trim_ne_nil), List.map_cons]

/-- **The first statement of a destructive text is refused.** -/
theorem exists_refused_of_destructive {sql : String}
    (h : IsDestructive (stripComments sql.toList)) :
    ∃ s more, statements sql = s :: more ∧ IsRefused s := by
  obtain ⟨verb, hverb, word, rest, hdrop, hmap, hrest⟩ := h
  have hword := isVerbWord_of_map hverb hmap
  have htext : stripComments sql.toList =
      (stripComments sql.toList).takeWhile isLead ++ (word ++ rest) := by
    rw [← hdrop, List.takeWhile_append_dropWhile]
  have hlead : ∀ c ∈ (stripComments sql.toList).takeWhile isLead, isLead c = true :=
    fun c hc => List.mem_takeWhile_imp hc
  generalize (stripComments sql.toList).takeWhile isLead = lead at htext hlead
  have hnotBlank : (trim (stripComments sql.toList)).isEmpty = false := by
    by_contra hempty
    rw [Bool.not_eq_false, List.isEmpty_iff, trim_eq_nil_iff] at hempty
    obtain ⟨c, more, hcons⟩ := List.exists_cons_of_ne_nil hword.ne_nil
    have hblank := hempty c (by rw [htext, hcons]; simp)
    rw [hword.isBlank_of_mem c (by simp [hcons])] at hblank
    cases hblank
  rw [statements, hnotBlank, if_neg Bool.false_ne_true]
  split
  · rename_i tokens htokens
    have hscan := tokenize_eq_ok_iff.mp htokens
    rw [htext] at hscan
    obtain ⟨before, after, rfl, hafter, hbefore⟩ := hscan.of_isLead hlead
    obtain ⟨after, rfl⟩ := hafter.of_isVerbWord hword hrest
    obtain ⟨s, more, hstatements, hoperation⟩ := exists_tokenStatements hword hbefore
    refine ⟨s, more, hstatements, .inl ?_⟩
    rw [hoperation]
    exact isHardBlocked_of_mem hword.mem
  · rw [htext]
    refine exists_fallbackPieces (List.mem_cons_of_mem _ hword.mem) (fun c hc => ?_)
      hword.upper_eq rest
    have hc := hlead c hc
    rw [isLead, Bool.or_eq_true, beq_iff_eq, Bool.and_eq_true] at hc
    exact hc.imp_right And.left

end Statement

end SqlGateway
