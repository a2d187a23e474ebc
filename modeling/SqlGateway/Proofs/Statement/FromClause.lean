import SqlGateway.Proofs.Sql.Bare
import SqlGateway.Proofs.Statement.Combination
import SqlGateway.Proofs.Statement.Spelling

/-!
# The Tables of a FROM Clause

Behind `FROM` stand references to tables, separated by commas. A reference is a name, with its
database if that is written, and may have an alias, with or without `AS`. This module writes such a
list down, follows it through the tokenizer (`IsReadAs`) and then through the search for tables.

A text is cut into chunks that start with their separator. What a chunk is read as then depends on
what follows in one point only: the name at its end has to end there (`EndsName`).

## Main results

* `isReadAs_selectFrom`: the tokens of the statement that reads from a list.
* `tableList?_listTokens`: the walk through the list takes every reference, and no alias.
* `markedTables_of_quiet`: where no word is a marker, no table is found.
* `mem_tables_selectFrom`: the tables of the statement are those of the list.
-/

namespace SqlGateway.Statement

open Sql
open Text (NameSet)

/-! ### Lists as text -/

/-- Whether a character can start an identifier. -/
def isIdentifierStart (c : Char) : Bool :=
  c.isAlpha || c == '_' || c == '$'

/-- Whether a character can stand in an identifier. -/
def isIdentifierPart (c : Char) : Bool :=
  isIdentifierStart c || c.isDigit

/-- Whether a word is a keyword of SQL: one that the tokenizer knows, or one that names no table
where a table is expected. -/
def isSqlKeyword (word : List Char) : Bool :=
  isKeyword word || notTables.contains (String.ofList (Text.upper word))

/-- Whether a text is an identifier in ASCII: a letter, an underscore or a dollar sign, then
letters, digits, underscores and dollar signs. -/
def isAsciiIdentifier (word : List Char) : Bool :=
  word.head?.any isIdentifierStart && word.all isIdentifierPart

/-- An identifier in ASCII that is no keyword. -/
structure Identifier where
  chars : List Char
  isAsciiIdentifier_chars : isAsciiIdentifier chars = true
  not_keyword : isSqlKeyword chars = false

/-- A name as it is written: an identifier, or any text without backticks between two of them. -/
inductive WrittenName where
  | plain (name : Identifier)
  | quoted (name : List Char) (notMem : '`' ∉ name)

namespace WrittenName

/-- The characters of a name. -/
def chars : WrittenName → List Char
  | plain name => name.chars
  | quoted name _ => name

/-- The text of a name. -/
def text : WrittenName → List Char
  | plain name => name.chars
  | quoted name _ => '`' :: (name ++ ['`'])

/-- The token of a name. -/
def token : WrittenName → Token
  | plain name => .word name.chars
  | quoted name _ => .quotedWord name

end WrittenName

/-- An alias, with or without `AS` in front. -/
structure TableAlias where
  withAs : Bool
  name : WrittenName

/-- A reference to a table. -/
structure TableReference where
  database : Option WrittenName
  table : WrittenName
  asName : Option TableAlias

/-- The text of an alias, with a blank in front. -/
def TableAlias.text (a : TableAlias) : List Char :=
  ' ' :: ((if a.withAs then "AS ".toList else []) ++ a.name.text)

/-- The tokens of an alias that are no blanks. -/
def TableAlias.tokens (a : TableAlias) : List Token :=
  (if a.withAs then [.word "AS".toList] else []) ++ [a.name.token]

namespace TableReference

/-- The parts of the name of a table. -/
def parts (r : TableReference) : List WrittenName :=
  r.database.toList ++ [r.table]

/-- The name of a table, in lower case and with its database. -/
def name (r : TableReference) : String :=
  String.ofList (Text.lower (['.'].intercalate (r.parts.map WrittenName.chars)))

/-- The text of a reference. -/
def text (r : TableReference) : List Char :=
  ['.'].intercalate (r.parts.map WrittenName.text) ++ (r.asName.map TableAlias.text).getD []

/-- The tokens of the alias of a reference that are no blanks. -/
def aliasTokens (r : TableReference) : List Token :=
  (r.asName.map TableAlias.tokens).getD []

/-- The tokens of a reference that are no blanks. -/
def tokens (r : TableReference) : List Token :=
  [Token.period].intercalate (r.parts.map fun part => [part.token]) ++ r.aliasTokens

end TableReference

/-- The text of a list of references. -/
def listText (refs : List TableReference) : List Char :=
  [',', ' '].intercalate (refs.map TableReference.text)

/-- The tokens of a list of references that are no blanks. -/
def listTokens (refs : List TableReference) : List Token :=
  [Token.comma].intercalate (refs.map TableReference.tokens)

/-- The statement that reads from a list. -/
def selectFrom (refs : List TableReference) : String :=
  String.ofList ("SELECT * FROM ".toList ++ listText refs)

/-! ### Reading names -/

/-- A text that a name can stop at. -/
def EndsName (u : List Char) : Prop :=
  ∀ c ∈ u.head?, c = '.' ∨ c = ',' ∨ c = ' '

theorem EndsName.nil : EndsName [] := by
  simp [EndsName]

theorem EndsName.cons {c : Char} (h : c = '.' ∨ c = ',' ∨ c = ' ') (u : List Char) :
    EndsName (c :: u) := by
  simpa [EndsName] using h

/-- The text is read as the tokens, blanks apart, whatever stands behind it if a name can stop
there, and it opens no comment. -/
def IsReadAs (text : List Char) (tokens : List Token) : Prop :=
  ∀ u, EndsName u →
    (∃ read, Scans (text ++ u) read u ∧ read.filter (· != .blank) = tokens) ∧
      (IsBare (text ++ u) ↔ IsBare u)

/-- What the characters of identifiers are to the tokenizer. -/
theorem of_isIdentifierPart {c : Char} (h : isIdentifierPart c = true) :
    isWordPart c = true ∧ isQuote c = false ∧ (c ≠ '#' ∧ c ≠ '/' ∧ c ≠ '-') ∧
      (isIdentifierStart c = true → isWordStart c = true ∧ c ≠ '@' ∧ c.isDigit = false) := by
  have hascii : c.toNat < 0x80 := by
    simp only [isIdentifierPart, isIdentifierStart, Bool.or_eq_true, beq_iff_eq] at h
    rcases h with ((halpha | rfl) | rfl) | hdigit
    · exact Text.toNat_lt_of_isAlphanum (by simp [Char.isAlphanum, halpha])
    · decide
    · decide
    · exact Text.toNat_lt_of_isAlphanum (by simp [Char.isAlphanum, hdigit])
  revert h
  exact Text.of_ascii (p := fun c => isIdentifierPart c = true →
    isWordPart c = true ∧ isQuote c = false ∧ (c ≠ '#' ∧ c ≠ '/' ∧ c ≠ '-') ∧
      (isIdentifierStart c = true → isWordStart c = true ∧ c ≠ '@' ∧ c.isDigit = false))
    (by decide) hascii

/-- Characters that open no comment do not change whether a text is bare. -/
theorem isBare_append_iff {w : List Char} (hw : ∀ c ∈ w, isIdentifierPart c = true)
    (u : List Char) : IsBare (w ++ u) ↔ IsBare u := by
  induction w with
  | nil => rfl
  | cons c w ih =>
      obtain ⟨hc, hw⟩ := List.forall_mem_cons.mp hw
      obtain ⟨-, hquote, hne, -⟩ := of_isIdentifierPart hc
      rw [List.cons_append, isBare_cons_iff hquote hne, ih hw]

theorem exists_of_isAsciiIdentifier {w : List Char} (h : isAsciiIdentifier w = true) :
    ∃ c v, w = c :: v ∧ isIdentifierStart c = true ∧ ∀ d ∈ c :: v, isIdentifierPart d = true := by
  rw [isAsciiIdentifier, Bool.and_eq_true, List.all_eq_true] at h
  cases w with
  | nil => cases h.1
  | cons c v => exact ⟨c, v, rfl, h.1, h.2⟩

/-- An identifier is read up to the place where a name can stop. -/
theorem isReadAs_word {w : List Char} (h : isAsciiIdentifier w = true) : IsReadAs w [.word w] := by
  intro u hu
  obtain ⟨c, v, rfl, hstart, hpart⟩ := exists_of_isAsciiIdentifier h
  obtain ⟨hc, hv⟩ := List.forall_mem_cons.mp hpart
  obtain ⟨hword, hat, -⟩ := (of_isIdentifierPart hc).2.2.2 hstart
  have hend : ∀ d ∈ u.head?, isWordPart d = false ∧ d ≠ '\'' := fun d hd => by
    rcases hu d hd with rfl | rfl | rfl <;> decide
  have hread : Reads c (v ++ u) (.word (c :: v)) u :=
    reads_word hword hat (fun d hd => (of_isIdentifierPart (hv d hd)).1)
      (fun d hd => (hend d hd).1) fun _ _ hhead => (hend _ hhead).2 rfl
  exact ⟨⟨_, .cons hread (.done u), rfl⟩, isBare_append_iff hpart u⟩

theorem isBody_of_notMem {name : List Char} (h : '`' ∉ name) : IsBody '`' name := by
  induction name with
  | nil => exact fun rest hrest => readQuoted_quote (by decide) hrest
  | cons c name ih =>
      obtain ⟨hc, hname⟩ := not_or.mp (List.mem_cons.not.mp h)
      exact (ih hname).cons (Ne.symm hc) fun _ => rfl

/-- A name is read, whether it is quoted or not. -/
theorem WrittenName.isReadAs (n : WrittenName) : IsReadAs n.text [n.token] := by
  cases n with
  | plain name => exact isReadAs_word name.isAsciiIdentifier_chars
  | quoted name notMem =>
      intro u hu
      have hbody := isBody_of_notMem notMem
      have hhead : u.head? ≠ some '`' := by
        intro hhead
        rcases hu '`' hhead with h | h | h <;> exact absurd h (by decide)
      have hread : Reads '`' (name ++ '`' :: u) (.quotedWord name) u := by
        have h : Reads '`' (name ++ '`' :: u) _ _ :=
          .quoted (by decide) (by rw [hbody u hhead])
        rwa [hbody u hhead] at h
      have htext : text (.quoted name notMem) ++ u = '`' :: (name ++ '`' :: u) := by simp [text]
      rw [htext]
      exact ⟨⟨_, .cons hread (.done u), rfl⟩, isBare_section_iff (by decide) hbody hhead⟩

/-! ### Reading lists -/

variable {s t : List Char} {ss ts : List Token}

/-- A chunk that starts with a separator can stand behind another. -/
theorem IsReadAs.append {c : Char} (h : IsReadAs s ss) (h' : IsReadAs (c :: t) ts)
    (hc : c = '.' ∨ c = ',' ∨ c = ' ') : IsReadAs (s ++ c :: t) (ss ++ ts) := by
  intro u hu
  obtain ⟨⟨read, hscan, hread⟩, hbare⟩ := h (c :: t ++ u) (.cons hc _)
  obtain ⟨⟨read', hscan', hread'⟩, hbare'⟩ := h' u hu
  rw [List.append_assoc]
  exact ⟨⟨read ++ read', hscan.trans hscan', by rw [List.filter_append, hread, hread']⟩,
    hbare.trans hbare'⟩

/-- A sign that is read on its own can stand in front of a chunk. -/
theorem IsReadAs.sign (c : Char) (token : Token)
    (hc : isQuote c = false ∧ letterForm? c = none ∧ c ≠ '#' ∧ c ≠ '/' ∧ c ≠ '-')
    (hread : ∀ u, EndsName u → ReadsOutside (c :: (s ++ u)) token (s ++ u))
    (h : IsReadAs s ss) : IsReadAs (c :: s) ([token].filter (· != .blank) ++ ss) := by
  intro u hu
  obtain ⟨hquote, hform, hne⟩ := hc
  obtain ⟨⟨read, hscan, hfilter⟩, hbare⟩ := h u hu
  have hfirst : Reads c (s ++ u) token (s ++ u) := (hread u hu).reads hquote (by simp [hform])
  refine ⟨⟨token :: read, .cons hfirst hscan, ?_⟩, ?_⟩
  · rw [← List.singleton_append, List.filter_append, hfilter]
  · rw [List.cons_append, isBare_cons_iff hquote hne, hbare]

theorem IsReadAs.blank (h : IsReadAs s ss) : IsReadAs (' ' :: s) ss :=
  IsReadAs.sign ' ' .blank (by decide) (fun _ _ => .blank (by decide) (by decide)) h

theorem IsReadAs.comma (h : IsReadAs s ss) : IsReadAs (',' :: s) (.comma :: ss) :=
  IsReadAs.sign ',' .comma (by decide) (fun _ _ => .mark rfl) h

theorem IsReadAs.star (h : IsReadAs s ss) : IsReadAs ('*' :: s) (.sign ['*'] :: ss) := by
  refine IsReadAs.sign '*' (.sign ['*']) (by decide) (fun u _ => ?_) h
  have hsplit : splitOperator? ('*' :: (s ++ u)) = some (['*'], s ++ u) := rfl
  exact .operator (by decide) hsplit

/-- A point is no part of a number in front of a name. -/
theorem IsReadAs.point (hne : s ≠ []) (hdigit : ∀ c ∈ s.head?, c.isDigit = false)
    (h : IsReadAs s ss) : IsReadAs ('.' :: s) (.period :: ss) := by
  refine IsReadAs.sign '.' .period (by decide) (fun u _ => ?_) h
  obtain ⟨c, more, rfl⟩ := List.exists_cons_of_ne_nil hne
  exact .number (by decide) (.period hdigit)

/-- The text of a name starts with no digit. -/
theorem WrittenName.head_text (n : WrittenName) :
    n.text ≠ [] ∧ ∀ c ∈ n.text.head?, c.isDigit = false := by
  cases n with
  | plain name =>
      obtain ⟨c, v, hchars, hstart, hpart⟩ :=
        exists_of_isAsciiIdentifier name.isAsciiIdentifier_chars
      rw [text, hchars]
      refine ⟨List.cons_ne_nil _ _, ?_⟩
      rintro d ⟨⟩
      exact ((of_isIdentifierPart (hpart c List.mem_cons_self)).2.2.2 hstart).2.2
  | quoted name notMem =>
      refine ⟨List.cons_ne_nil _ _, ?_⟩
      rintro d ⟨⟩
      decide

theorem TableAlias.isReadAs (a : TableAlias) : IsReadAs a.text a.tokens := by
  have has : IsReadAs "AS".toList [.word "AS".toList] := isReadAs_word (by decide)
  rw [text, tokens]
  cases a.withAs with
  | true => simpa using (has.append a.name.isReadAs.blank (by decide)).blank
  | false => simpa using a.name.isReadAs.blank

/-- **A reference is read** as its name and its alias. -/
theorem TableReference.isReadAs (r : TableReference) : IsReadAs r.text r.tokens := by
  have hname : IsReadAs (['.'].intercalate (r.parts.map WrittenName.text))
      ([Token.period].intercalate (r.parts.map fun part => [part.token])) := by
    rw [parts]
    cases r.database with
    | none => simpa using r.table.isReadAs
    | some database =>
        obtain ⟨hne, hdigit⟩ := r.table.head_text
        simpa [List.intercalate_cons_cons] using
          database.isReadAs.append (r.table.isReadAs.point hne hdigit) (by decide)
  rw [text, tokens, aliasTokens]
  cases r.asName with
  | none => simpa using hname
  | some a => exact hname.append a.isReadAs (by decide)

theorem listTokens_cons (r r' : TableReference) (refs : List TableReference) :
    listTokens (r :: r' :: refs) = r.tokens ++ .comma :: listTokens (r' :: refs) := by
  simp [listTokens, List.intercalate_cons_cons]

/-- A list is read reference by reference. -/
theorem isReadAs_list (r : TableReference) (refs : List TableReference) :
    IsReadAs (listText (r :: refs)) (listTokens (r :: refs)) := by
  induction refs generalizing r with
  | nil => simpa [listText, listTokens] using r.isReadAs
  | cons r' refs ih =>
      have htext : listText (r :: r' :: refs) = r.text ++ ',' :: ' ' :: listText (r' :: refs) := by
        simp [listText, List.intercalate_cons_cons]
      rw [htext, listTokens_cons]
      exact r.isReadAs.append (ih r').blank.comma (by decide)

theorem toList_selectFrom (refs : List TableReference) :
    (selectFrom refs).toList = "SELECT * FROM ".toList ++ listText refs :=
  String.toList_ofList

/-- **The statement that reads from a list**, in tokens. -/
theorem isReadAs_selectFrom (r : TableReference) (refs : List TableReference) :
    IsReadAs (selectFrom (r :: refs)).toList
      (.word "SELECT".toList :: .sign ['*'] :: .word "FROM".toList :: listTokens (r :: refs)) := by
  have hselect : IsReadAs "SELECT".toList [.word "SELECT".toList] := isReadAs_word (by decide)
  have hfrom : IsReadAs "FROM".toList [.word "FROM".toList] := isReadAs_word (by decide)
  have hlist := hfrom.append (isReadAs_list r refs).blank (by decide)
  have hall := hselect.append hlist.blank.star.blank (by decide)
  rw [toList_selectFrom]
  exact hall

/-! ### Names and aliases -/

namespace WrittenName

variable (n : WrittenName)

/-- A name is none of the words that the search for tables looks for. -/
theorem isWord_eq_false {word : String} (h : word ∈ keywords) : n.token.isWord word = false := by
  cases n with
  | plain name =>
      have hkeyword := (Bool.or_eq_false_iff.mp name.not_keyword).1
      rw [token, Token.isWord, Token.keyword?, beq_eq_false_iff_ne]
      rintro heq
      rw [isKeyword, Option.some.inj heq, List.contains_eq_mem, decide_eq_false_iff_not] at hkeyword
      exact hkeyword h
  | quoted => rfl

theorem wordText?_token : wordText? n.token = some n.chars := by
  cases n <;> rfl

/-- A name begins the name of a table. -/
theorem beginsTable_token : beginsTable n.token = true := by
  cases n with
  | plain name =>
      obtain ⟨c, v, hchars, hstart, hpart⟩ :=
        exists_of_isAsciiIdentifier name.isAsciiIdentifier_chars
      have hat := ((of_isIdentifierPart (hpart c List.mem_cons_self)).2.2.2 hstart).2.1
      have hnot := (Bool.or_eq_false_iff.mp name.not_keyword).2
      rw [token, beginsTable, hnot, hchars]
      simpa using hat
  | quoted => rfl

theorem token_ne : n.token ≠ .period ∧ n.token ≠ .openParen ∧ n.token ≠ .closeParen ∧
    n.token ≠ .semicolon := by
  cases n <;> simp [token]

end WrittenName

theorem nameTail_of_head {l : List Token} (h : l.head? ≠ some .period) : nameTail l = ([], l) := by
  rw [nameTail.eq_def]
  split
  · exact absurd rfl h
  · rfl

theorem nameTail_of_period (n : WrittenName) {l : List Token} (h : l.head? ≠ some .period) :
    nameTail (.period :: n.token :: l) = ([n.chars], l) := by
  rw [nameTail, n.wordText?_token, nameTail_of_head h]

namespace TableReference

variable (r : TableReference) {rest : List Token} (hrest : ∀ t ∈ rest.head?, t = .comma)

include hrest

/-- What stands behind the name of a table goes on with no part of it, and is no argument. -/
theorem head?_aliasTokens {t : Token} (ht : t = .period ∨ t = .openParen) :
    (r.aliasTokens ++ rest).head? ≠ some t := by
  intro hhead
  rw [aliasTokens] at hhead
  cases hname : r.asName with
  | none =>
      rw [hname] at hhead
      rcases ht with rfl | rfl <;> exact absurd (hrest _ hhead) (by decide)
  | some a =>
      obtain ⟨hperiod, hparen, -⟩ := a.name.token_ne
      rw [hname] at hhead
      cases hwith : a.withAs <;> rcases ht with rfl | rfl <;>
        simp [TableAlias.tokens, hwith, hperiod, hparen] at hhead

/-- **The name of a table is read**, with its database. -/
theorem tableName?_tokens :
    tableName? true (r.tokens ++ rest) = some (r.name, r.aliasTokens ++ rest) := by
  have hperiod := r.head?_aliasTokens hrest (.inl rfl)
  have hparen := r.head?_aliasTokens hrest (.inr rfl)
  rw [tokens, name, parts, List.append_assoc]
  generalize r.aliasTokens ++ rest = l at hperiod hparen ⊢
  cases r.database with
  | none =>
      simp [tableName?, r.table.wordText?_token, r.table.beginsTable_token,
        nameTail_of_head hperiod, hparen]
  | some database =>
      simp [tableName?, database.wordText?_token, database.beginsTable_token,
        List.intercalate_cons_cons, nameTail_of_period r.table hperiod, hparen]

/-- **The alias is passed over.** -/
theorem dropAlias_aliasTokens : dropAlias (r.aliasTokens ++ rest) = rest := by
  rw [aliasTokens]
  cases r.asName with
  | none =>
      cases rest with
      | nil => rfl
      | cons t rest =>
          obtain rfl := hrest t rfl
          rfl
  | some a =>
      have has : Token.isWord "AS" (.word ['A', 'S']) = true := by decide
      have hname : a.name.token.isWord "AS" = false := a.name.isWord_eq_false (by decide)
      have hdrop : dropWord "AS" (a.tokens ++ rest) = a.name.token :: rest := by
        rw [TableAlias.tokens]
        cases a.withAs with
        | true => simp [dropWord, startsWith, has]
        | false => simp [dropWord, startsWith, hname]
      rw [Option.map_some, Option.getD_some, dropAlias, hdrop]
      cases a.name with
      | plain name =>
          have hkeyword := (Bool.or_eq_false_iff.mp name.not_keyword).1
          simp [WrittenName.token, hkeyword]
      | quoted => rfl

end TableReference

/-! ### The search for tables -/

/-- **The walk through a list takes every reference**, and no alias. -/
theorem tableList?_listTokens (r : TableReference) (refs : List TableReference) :
    tableList? (listTokens (r :: refs)) = (r :: refs).map TableReference.name := by
  induction refs generalizing r with
  | nil =>
      have hrest : ∀ t ∈ ([] : List Token).head?, t = .comma := by simp
      have hname := r.tableName?_tokens hrest
      have hdrop := r.dropAlias_aliasTokens hrest
      rw [List.append_nil] at hname hdrop
      have hlist : listTokens [r] = r.tokens := by simp [listTokens]
      rw [hlist, tableList?_of_last hname (by simp [hdrop])]
      rfl
  | cons r' refs ih =>
      have hrest : ∀ t ∈ (Token.comma :: listTokens (r' :: refs)).head?, t = .comma := by simp
      rw [listTokens_cons, tableList?_of_comma (r.tableName?_tokens hrest)
        (r.dropAlias_aliasTokens hrest), ih]
      rfl

/-- A token that is no parenthesis, no semicolon and no marker. -/
structure IsQuiet (t : Token) : Prop where
  ne_openParen : t ≠ .openParen
  ne_closeParen : t ≠ .closeParen
  ne_semicolon : t ≠ .semicolon
  isWord_eq_false : ∀ word ∈ tableMarkers, t.isWord word = false

/-- **Without a marker no table is found.** -/
theorem markedTables_of_quiet {l : List Token} (h : ∀ t ∈ l, IsQuiet t) (opened : List Bool)
    (before : Option Token) : markedTables opened before l = [] := by
  induction l generalizing before with
  | nil => rfl
  | cons t l ih =>
      obtain ⟨ht, hl⟩ := List.forall_mem_cons.mp h
      rw [markedTables]
      · rw [ih hl, List.append_nil]
        split
        · rename_i marker hkey
          refine if_neg fun hhere => ?_
          have hmem := (Bool.and_eq_true_iff.mp hhere).1
          rw [List.contains_eq_mem, decide_eq_true_eq] at hmem
          have hnot := ht.isWord_eq_false marker hmem
          rw [Token.isWord, hkey] at hnot
          simp at hnot
        · rfl
      · exact ht.ne_openParen
      · exact ht.ne_closeParen

theorem WrittenName.isQuiet_token (n : WrittenName) : IsQuiet n.token := by
  have hkeywords : ∀ word ∈ tableMarkers, word ∈ keywords := by decide +kernel
  obtain ⟨-, hopen, hclose, hsemicolon⟩ := n.token_ne
  exact ⟨hopen, hclose, hsemicolon, fun word hword => n.isWord_eq_false (hkeywords word hword)⟩

theorem TableReference.isQuiet_tokens (r : TableReference) : ∀ t ∈ r.tokens, IsQuiet t := by
  have hperiod : IsQuiet .period := ⟨nofun, nofun, nofun, fun _ _ => rfl⟩
  have has : IsQuiet (.word "AS".toList) := ⟨nofun, nofun, nofun, by decide⟩
  rw [tokens, List.forall_mem_append]
  constructor
  · rw [parts]
    cases r.database with
    | none => simpa using r.table.isQuiet_token
    | some database =>
        simpa [List.intercalate_cons_cons] using
          ⟨database.isQuiet_token, hperiod, r.table.isQuiet_token⟩
  · rw [aliasTokens]
    cases r.asName with
    | none => exact List.forall_mem_nil _
    | some a =>
        rw [Option.map_some, Option.getD_some, TableAlias.tokens, List.forall_mem_append,
          List.forall_mem_singleton]
        refine ⟨?_, a.name.isQuiet_token⟩
        cases a.withAs with
        | true => exact List.forall_mem_singleton.mpr has
        | false => exact List.forall_mem_nil _

theorem isQuiet_listTokens (r : TableReference) (refs : List TableReference) :
    ∀ t ∈ listTokens (r :: refs), IsQuiet t := by
  induction refs generalizing r with
  | nil => simpa [listTokens] using r.isQuiet_tokens
  | cons r' refs ih =>
      rw [listTokens_cons, List.forall_mem_append, List.forall_mem_cons]
      exact ⟨r.isQuiet_tokens, ⟨nofun, nofun, nofun, fun _ _ => rfl⟩, ih r'⟩

/-- No list starts with `IF`. -/
theorem startsWith_listTokens (r : TableReference) (refs : List TableReference) :
    startsWith "IF" (listTokens (r :: refs)) = false := by
  obtain ⟨n, rest, hfirst⟩ : ∃ n rest, r.tokens = WrittenName.token n :: rest := by
    rw [TableReference.tokens, TableReference.parts]
    cases r.database with
    | none => exact ⟨r.table, r.aliasTokens, by simp⟩
    | some database =>
        exact ⟨database, .period :: r.table.token :: r.aliasTokens,
          by simp [List.intercalate_cons_cons]⟩
  have hif : n.token.isWord "IF" = false := n.isWord_eq_false (by decide +kernel)
  cases refs with
  | nil => simpa [listTokens, hfirst, startsWith] using hif
  | cons r' refs => rw [listTokens_cons, hfirst]; exact hif

theorem cutAtSemicolons_of_notMem {l : List Token} (h : .semicolon ∉ l) :
    cutAtSemicolons l = [l] := by
  induction l with
  | nil => rfl
  | cons t l ih =>
      obtain ⟨ht, hl⟩ := not_or.mp (List.mem_cons.not.mp h)
      rw [cutAtSemicolons, ih hl]
      exact Ne.symm ht

/-- A single statement is described from its tokens. -/
theorem exists_parse_of_isReadAs {sql : String} {t : Token} {tokens : List Token}
    (h : IsReadAs sql.toList (t :: tokens)) (hblank : Text.trim sql.toList ≠ [])
    (hsemicolon : .semicolon ∉ t :: tokens) :
    ∃ normalized, parse sql = { analyzeBody normalized (t :: tokens) with text := sql } := by
  obtain ⟨⟨read, hscan, hread⟩, hbare⟩ := h [] .nil
  rw [List.append_nil] at hscan hbare
  have hstrip := stripComments_of_isBare (hbare.mpr isBare_nil)
  have hsplit : splitStatements read = [read] := by
    have hnot : .semicolon ∉ read := fun hmem =>
      hsemicolon (hread ▸ List.mem_filter.mpr ⟨hmem, by decide⟩)
    have hmem : t ∈ read.filter (· != .blank) := hread ▸ List.mem_cons_self
    obtain ⟨ht, hne⟩ := List.mem_filter.mp hmem
    have hany : read.any (· != .blank) = true := List.any_eq_true.mpr ⟨t, ht, hne⟩
    rw [splitStatements, cutAtSemicolons_of_notMem hnot, List.filter_singleton, hany]
    rfl
  have hstatements : statements sql = [analyze read] := by
    have htokens : tokenize (stripComments sql.toList) = .ok read := by
      rw [hstrip, tokenize_eq_ok_iff]
      exact hscan
    rw [statements_of_tokenize htokens, hstrip, if_neg (by simpa using hblank), hsplit]
    rfl
  obtain ⟨fallback, hparse⟩ := parse_eq_combine sql
  refine ⟨String.ofList (render read), ?_⟩
  rw [hparse, hstatements, ← hread]
  rfl

/-- The tables of a statement that selects from a quiet list. -/
theorem tables_analyzeBody_select (normalized : String) {list : List Token}
    (hquiet : ∀ t ∈ list, IsQuiet t) (hif : startsWith "IF" list = false) :
    (analyzeBody normalized (.word "SELECT".toList :: .sign ['*'] :: .word "FROM".toList ::
      list)).tables = .ofList (tableList? list) := by
  have hkey : (Token.word "SELECT".toList).keyword? = some "SELECT" := by decide +kernel
  have hkey' : (Token.word "FROM".toList).keyword? = some "FROM" := by decide +kernel
  have hverb (rest : List Token) : verbOf (.word "SELECT".toList :: rest) = "SELECT" :=
    verbOf_cons hkey (by decide) (by decide) rest
  have hunexplained : (Token.word "SELECT".toList).isWord "EXPLAIN" = false := by decide +kernel
  have htableless : (tablelessVerbs.contains "SELECT" ||
      (Text.dropStart? "SHOW ENGINE".toList "SELECT".toList).isSome) = false := by decide +kernel
  -- Of the three words in front only `FROM` is a marker.
  have hmarked : markedTables [] none
      (.word "SELECT".toList :: .sign ['*'] :: .word "FROM".toList :: list) = tableList? list := by
    have hselect : tableMarkers.contains "SELECT" = false := by decide
    have hfrom : tableMarkers.contains "FROM" = true := by decide
    simp only [markedTables, hkey, hkey', hselect, hfrom, markedTables_of_quiet hquiet]
    simp [Token.keyword?, tablesAfter, dropCondition, hif]
  rw [analyzeBody_eq, List.dropWhile_cons_of_neg (by simp), explained?, hunexplained]
  simp only [Bool.false_and, Bool.false_eq_true, if_false, describe, single, hverb, tablesOf,
    htableless, hmarked]
  rfl

/-- **The tables of a statement that reads from a list are those of the list**: no reference is
lost, and no alias or other word is added. -/
theorem mem_tables_selectFrom (r : TableReference) (refs : List TableReference) (name : String) :
    name ∈ (parse (selectFrom (r :: refs))).tables.names ↔
      ∃ r' ∈ r :: refs, r'.name = name := by
  have hblank : Text.trim (selectFrom (r :: refs)).toList ≠ [] := by
    rw [ne_eq, Text.trim_eq_nil_iff, toList_selectFrom]
    intro h
    exact absurd (h 'S' (by simp)) (by decide)
  have hquiet := isQuiet_listTokens r refs
  have hsemicolon : Token.semicolon ∉
      .word "SELECT".toList :: .sign ['*'] :: .word "FROM".toList :: listTokens (r :: refs) := by
    simpa using fun hmem => (hquiet _ hmem).ne_semicolon rfl
  have hif := startsWith_listTokens r refs
  obtain ⟨normalized, hparse⟩ :=
    exists_parse_of_isReadAs (isReadAs_selectFrom r refs) hblank hsemicolon
  rw [hparse]
  change name ∈ (analyzeBody normalized _).tables.names ↔ _
  rw [tables_analyzeBody_select normalized hquiet hif, NameSet.mem_names_ofList,
    tableList?_listTokens, List.mem_map]

example :
    let ref : TableReference :=
      { database := some (.quoted "My Shop".toList (by decide))
        table := .plain ⟨"Orders".toList, by decide, by decide +kernel⟩
        asName := some ⟨true, .quoted "o".toList (by decide)⟩ }
    selectFrom [ref, { ref with database := none, asName := none }] =
        "SELECT * FROM `My Shop`.Orders AS `o`, Orders" ∧
      (parse (selectFrom [ref, { ref with database := none, asName := none }])).tables.names =
        ["my shop.orders", "orders"] := by
  decide +kernel

end SqlGateway.Statement
