import SqlGateway.Proofs.Sql.Break
import SqlGateway.Proofs.Text.Phrase

/-!
# Numbers

A number is a mantissa, which is a run of digits with or without a point, and an exponent or
none. Where it ends depends on what stands behind it: letters behind a mantissa make it a word,
unless the first is an `e`, and behind an exponent the letter `L` marks a long number.

`ReadsNumber cs t u` says that the reader of numbers reads `t` from `cs` and leaves `u`, with one
case for each thing that it reads and with the conditions on what stands behind it. These are the
conditions that have to be looked at when something else is put there.

## Main results

* `splitExponent?_eq_some_iff`: exponents.
* `readNumber_eq_iff`: the reader is the relation.
-/

namespace SqlGateway.Sql

open Text

/-! ### Exponents -/

/-- An exponent: the letter, a sign or none, and digits. -/
structure IsExponent (e : List Char) : Prop where
  exists_parts : ∃ letter sign digits, e = letter :: (sign ++ digits) ∧
    (letter = 'e' ∨ letter = 'E') ∧ (sign = [] ∨ sign = ['+'] ∨ sign = ['-']) ∧
    digits ≠ [] ∧ ∀ c ∈ digits, c.isDigit = true

/-- A text without the letter has no exponent. -/
theorem splitExponent?_of_startsWithE {cs : List Char} (h : startsWithE cs = false) :
    splitExponent? cs = none := by
  cases cs with
  | nil => rfl
  | cons c rest =>
      rw [startsWithE] at h
      simp [splitExponent?, h]

/-- The sign of an exponent, and what is read behind it. -/
theorem exists_sign (letter : Char) (rest : List Char) :
    ∃ sign more, (sign = [] ∨ sign = ['+'] ∨ sign = ['-']) ∧ rest = sign ++ more ∧
      splitExponent? (letter :: rest) =
        if letter == 'e' || letter == 'E' then
          if (more.takeWhile Char.isDigit).isEmpty then none
          else some (letter :: (sign ++ more.takeWhile Char.isDigit), more.dropWhile Char.isDigit)
        else none := by
  cases rest with
  | nil => exact ⟨[], [], by simp, rfl, rfl⟩
  | cons d more =>
      by_cases hplus : d = '+'
      · subst hplus
        exact ⟨['+'], more, by simp, rfl, rfl⟩
      by_cases hminus : d = '-'
      · subst hminus
        exact ⟨['-'], more, by simp, rfl, rfl⟩
      · refine ⟨[], d :: more, by simp, rfl, ?_⟩
        simp [splitExponent?, hplus, hminus]

/-- **An exponent is read** exactly of a text that starts with one and goes on with no digit. -/
theorem splitExponent?_eq_some_iff {cs e u : List Char} :
    splitExponent? cs = some (e, u) ↔
      IsExponent e ∧ cs = e ++ u ∧ ∀ c ∈ u.head?, c.isDigit = false := by
  constructor
  · intro h
    cases cs with
    | nil => cases h
    | cons letter rest =>
        obtain ⟨sign, more, hsign, rfl, heq⟩ := exists_sign letter rest
        rw [heq] at h
        split at h
        swap
        · cases h
        rename_i hletter
        split at h
        · cases h
        rename_i hdigits
        cases h
        refine ⟨⟨letter, sign, _, rfl, by simpa using hletter, hsign, by simpa using hdigits,
          fun c hc => List.mem_takeWhile_imp hc⟩, ?_, head?_dropWhile⟩
        rw [List.cons_append, List.append_assoc, List.takeWhile_append_dropWhile]
  · rintro ⟨⟨letter, sign, digits, rfl, hletter, hsign, hne, hdigits⟩, rfl, hu⟩
    obtain ⟨d, more, rfl⟩ := List.exists_cons_of_ne_nil hne
    have hd : d.isDigit = true := hdigits d List.mem_cons_self
    have hletter' : (letter == 'e' || letter == 'E') = true := by simpa using hletter
    have htake : ((d :: more) ++ u).takeWhile Char.isDigit = d :: more := takeWhile_run hdigits hu
    have hdrop : ((d :: more) ++ u).dropWhile Char.isDigit = u := dropWhile_run hdigits hu
    rcases hsign with rfl | rfl | rfl
    · have hplus : d ≠ '+' := by
        rintro rfl
        cases hd
      have hminus : d ≠ '-' := by
        rintro rfl
        cases hd
      simp only [List.cons_append] at htake hdrop
      simp [splitExponent?, hletter', hplus, hminus, htake, hdrop]
    · simp only [List.cons_append] at htake hdrop
      simp [splitExponent?, hletter', htake, hdrop]
    · simp only [List.cons_append] at htake hdrop
      simp [splitExponent?, hletter', htake, hdrop]

/-- An exponent is no empty text, so what follows it is not the first character. -/
theorem IsExponent.head?_append {e : List Char} (h : IsExponent e) {u u' : List Char} :
    (e ++ u).head? = (e ++ u').head? := by
  obtain ⟨letter, sign, digits, rfl, -⟩ := h.exists_parts
  rfl

/-! ### Mantissas -/

/-- A mantissa that ends in front of a text: digits that are not the start of a longer run, of a
number with a point or of one in hexadecimal, or digits with a point. -/
inductive EndsMantissa : List Char → List Char → Prop
  | whole {m rest : List Char} (hne : m ≠ []) (hm : ∀ c ∈ m, c.isDigit = true)
      (hrest : ∀ c ∈ rest.head?, c.isDigit = false ∧ c ≠ '.')
      (hhex : ¬ (m = ['0'] ∧ rest.head? = some 'x')) : EndsMantissa m rest
  | point {whole places rest : List Char} (hne : whole ≠ [] ∨ places ≠ [])
      (hwhole : ∀ c ∈ whole, c.isDigit = true) (hplaces : ∀ c ∈ places, c.isDigit = true)
      (hrest : ∀ c ∈ rest.head?, c.isDigit = false) : EndsMantissa (whole ++ '.' :: places) rest

/-- The first character behind a mantissa decides where it ends. -/
theorem EndsMantissa.congr {m rest rest' : List Char} (h : EndsMantissa m rest)
    (hhead : rest'.head? = rest.head?) : EndsMantissa m rest' := by
  cases h with
  | whole hne hm hrest hhex => exact .whole hne hm (by rwa [hhead]) (by rwa [hhead])
  | point hne hwhole hplaces hrest => exact .point hne hwhole hplaces (by rwa [hhead])

/-- A mantissa starts with a digit or a point. -/
theorem EndsMantissa.exists_head {m rest : List Char} (h : EndsMantissa m rest) :
    ∃ c more, m = c :: more ∧ (c.isDigit || c == '.') = true := by
  cases h with
  | whole hne hm =>
      obtain ⟨c, more, rfl⟩ := List.exists_cons_of_ne_nil hne
      exact ⟨c, more, rfl, by rw [hm c List.mem_cons_self, Bool.true_or]⟩
  | @point whole places _ _ hwhole =>
      cases whole with
      | nil => exact ⟨'.', places, rfl, rfl⟩
      | cons c more =>
          exact ⟨c, more ++ '.' :: places, rfl, by rw [hwhole c List.mem_cons_self, Bool.true_or]⟩

/-- A number is a mantissa and what is made of the text behind it. -/
theorem EndsMantissa.readNumber_eq {m rest : List Char} (h : EndsMantissa m rest) :
    readNumber (m ++ rest) = finishNumber m rest := by
  cases h with
  | whole hne hm hrest hhex =>
      have hdigit : ∀ c ∈ rest.head?, c.isDigit = false := fun c hc => (hrest c hc).1
      have htake := takeWhile_run hm hdigit
      have hdrop := dropWhile_run hm hdigit
      rw [readNumber_of_plain (by rwa [htake, hdrop])
        (by rw [hdrop]; exact fun hp => (hrest '.' hp).2 rfl), htake, hdrop]
  | @point whole places _ hne hwhole hplaces hrest =>
      have hpoint : ∀ c ∈ ('.' :: (places ++ rest)).head?, c.isDigit = false := by
        simp
      have happ : whole ++ '.' :: places ++ rest = whole ++ '.' :: (places ++ rest) := by simp
      rw [readNumber, happ, takeWhile_run hwhole hpoint, dropWhile_run hwhole hpoint]
      have htake := takeWhile_run hplaces hrest
      have hdrop := dropWhile_run hplaces hrest
      split
      · rename_i heq
        cases heq
      · rename_i heq
        cases heq
        rw [htake, hdrop]
        exact if_neg (by simpa [← not_and_or] using hne)
      · rename_i hother _
        exact absurd rfl (hother (places ++ rest))

/-! ### Numbers -/

/-- `ReadsNumber cs t u`: the reader of numbers reads `t` from `cs` and leaves `u`. -/
inductive ReadsNumber : List Char → Token → List Char → Prop
  | hex {digits u : List Char} (hdigits : ∀ c ∈ digits, isHexDigit c = true)
      (hu : ∀ c ∈ u.head?, isHexDigit c = false) :
      ReadsNumber ('0' :: 'x' :: digits ++ u) (.string .hex digits) u
  | period {u : List Char} (hu : ∀ c ∈ u.head?, c.isDigit = false) :
      ReadsNumber ('.' :: u) .period u
  | plain {m u : List Char} (hm : EndsMantissa m u) (hexponent : splitExponent? u = none)
      (hu : startsWithE u = true ∨ ∀ c ∈ u.head?, isWordPart c = false) :
      ReadsNumber (m ++ u) (.number m false) u
  | word {m w u : List Char} (hm : EndsMantissa m (w ++ u)) (hne : w ≠ [])
      (hw : ∀ c ∈ w, isWordPart c = true) (hstart : startsWithE w = false)
      (hu : ∀ c ∈ u.head?, isWordPart c = false) : ReadsNumber (m ++ w ++ u) (.word (m ++ w)) u
  | exponent {m e u : List Char} (hm : EndsMantissa m (e ++ u)) (he : IsExponent e)
      (hu : ∀ c ∈ u.head?, c.isDigit = false) (hlong : u.head? ≠ some 'L') :
      ReadsNumber (m ++ e ++ u) (.number (m ++ e) false) u
  | long {m e u : List Char} (hm : EndsMantissa m (e ++ 'L' :: u)) (he : IsExponent e) :
      ReadsNumber (m ++ e ++ 'L' :: u) (.number (m ++ e) true) u

/-- What a number is made of behind its mantissa. -/
theorem EndsMantissa.readsNumber {m rest : List Char} (h : EndsMantissa m rest) :
    ReadsNumber (m ++ rest) (finishNumber m rest).1 (finishNumber m rest).2 := by
  rcases hsplit : splitExponent? rest with _ | ⟨e, u⟩
  · by_cases hstart : startsWithE rest = true
    · have hfinish : finishNumber m rest = (.number m false, rest) := by
        simp [finishNumber, hsplit, hstart]
      rw [hfinish]
      exact .plain h hsplit (.inl hstart)
    · rw [Bool.not_eq_true] at hstart
      by_cases hletters : rest.takeWhile isWordPart = []
      · have hfinish : finishNumber m rest = (.number m false, rest) := by
          simp [finishNumber, hsplit, hletters]
        rw [hfinish]
        refine .plain h hsplit (.inr fun c hc => ?_)
        obtain ⟨more, rfl⟩ := List.head?_eq_some_iff.mp hc
        by_contra hpart
        simp [List.takeWhile_cons, hpart] at hletters
      · have hfinish : finishNumber m rest =
            (.word (m ++ rest.takeWhile isWordPart), rest.dropWhile isWordPart) := by
          simp [finishNumber, hsplit, hstart, hletters]
        have hrest := List.takeWhile_append_dropWhile (p := isWordPart) (l := rest)
        have hword : ReadsNumber (m ++ rest.takeWhile isWordPart ++ rest.dropWhile isWordPart)
            (.word (m ++ rest.takeWhile isWordPart)) (rest.dropWhile isWordPart) := by
          refine .word (by rwa [hrest]) hletters (fun c hc => List.mem_takeWhile_imp hc) ?_
            head?_dropWhile
          rw [← hstart]
          cases rest with
          | nil => rfl
          | cons c more =>
              by_cases hc : isWordPart c = true
              · simp [hc, startsWithE]
              · simp [hc] at hletters
        rw [hfinish]
        rwa [List.append_assoc, hrest] at hword
  · obtain ⟨he, rfl, hu⟩ := splitExponent?_eq_some_iff.mp hsplit
    by_cases hlong : u.head? = some 'L'
    · obtain ⟨after, rfl⟩ := List.head?_eq_some_iff.mp hlong
      have hfinish : finishNumber m (e ++ 'L' :: after) = (.number (m ++ e) true, after) := by
        simp [finishNumber, hsplit]
      rw [hfinish, ← List.append_assoc]
      exact .long h he
    · have hfinish : finishNumber m (e ++ u) = (.number (m ++ e) false, u) := by
        rw [finishNumber, hsplit]
        split
        · rename_i heq
          cases heq
          exact absurd rfl hlong
        · rename_i heq
          cases heq
          rfl
        · rename_i heq
          cases heq
      rw [hfinish, ← List.append_assoc]
      exact .exponent h he hu hlong

/-- The reader of numbers, at a digit or a point. -/
theorem readsNumber_readNumber {c : Char} (hc : (c.isDigit || c == '.') = true)
    (rest : List Char) :
    ReadsNumber (c :: rest) (readNumber (c :: rest)).1 (readNumber (c :: rest)).2 := by
  set cs := c :: rest with hcs
  have happ : cs.takeWhile Char.isDigit ++ cs.dropWhile Char.isDigit = cs :=
    List.takeWhile_append_dropWhile
  have hwhole : ∀ d ∈ cs.takeWhile Char.isDigit, d.isDigit = true := fun d hd =>
    List.mem_takeWhile_imp hd
  by_cases hx : cs.takeWhile Char.isDigit = ['0'] ∧ (cs.dropWhile Char.isDigit).head? = some 'x'
  · obtain ⟨after, hafter⟩ := List.head?_eq_some_iff.mp hx.2
    have hread : readNumber cs =
        (.string .hex (after.takeWhile isHexDigit), after.dropWhile isHexDigit) := by
      simp [readNumber, hx.1, hafter]
    have hsource : cs = '0' :: 'x' :: after.takeWhile isHexDigit ++ after.dropWhile isHexDigit := by
      rw [← happ, hx.1, hafter]
      simp
    rw [hread]
    rw [hsource]
    exact .hex (fun d hd => List.mem_takeWhile_imp hd) head?_dropWhile
  by_cases hp : (cs.dropWhile Char.isDigit).head? = some '.'
  · obtain ⟨after, hafter⟩ := List.head?_eq_some_iff.mp hp
    have hplaces := List.takeWhile_append_dropWhile (p := Char.isDigit) (l := after)
    by_cases hempty : cs.takeWhile Char.isDigit = [] ∧ after.takeWhile Char.isDigit = []
    · have hread : readNumber cs = (.period, after) := by
        simp [readNumber, hempty.1, hempty.2, hafter]
      have hsource : cs = '.' :: after := by rw [← happ, hempty.1, hafter]; rfl
      rw [hread, hsource]
      refine .period fun d hd => ?_
      rw [hempty.2, List.nil_append] at hplaces
      rw [← hplaces] at hd
      exact head?_dropWhile d hd
    · have hm : EndsMantissa (cs.takeWhile Char.isDigit ++ '.' :: after.takeWhile Char.isDigit)
          (after.dropWhile Char.isDigit) :=
        .point (by rwa [← not_and_or]) hwhole (fun d hd => List.mem_takeWhile_imp hd)
          head?_dropWhile
      have hsource : cs.takeWhile Char.isDigit ++ '.' :: after.takeWhile Char.isDigit ++
          after.dropWhile Char.isDigit = cs := by
        rw [List.append_assoc, List.cons_append, hplaces, ← hafter, happ]
      have hread := hm.readsNumber
      rwa [← hm.readNumber_eq, hsource] at hread
  · have hne : cs.takeWhile Char.isDigit ≠ [] := by
      by_cases hdigit : c.isDigit = true
      · simp [hcs, hdigit]
      · have hpoint : c = '.' := by simpa [hdigit] using hc
        subst hpoint
        exact absurd rfl hp
    have hm : EndsMantissa (cs.takeWhile Char.isDigit) (cs.dropWhile Char.isDigit) := by
      refine .whole hne hwhole (fun d hd => ⟨head?_dropWhile d hd, ?_⟩) hx
      rintro rfl
      exact hp hd
    have hread := hm.readsNumber
    rwa [← hm.readNumber_eq, happ] at hread

/-- **The reader of numbers as a relation**, with one case for each thing that it reads. -/
theorem readNumber_of_readsNumber {cs u : List Char} {t : Token} (h : ReadsNumber cs t u) :
    readNumber cs = (t, u) := by
  cases h with
  | @hex digits _ hdigits hu =>
      have htake : ('0' :: 'x' :: digits ++ u).takeWhile Char.isDigit = ['0'] := rfl
      have hdrop : ('0' :: 'x' :: digits ++ u).dropWhile Char.isDigit = 'x' :: (digits ++ u) := rfl
      simp [readNumber, takeWhile_run hdigits hu, dropWhile_run hdigits hu]
  | period hu =>
      have htake : ([] ++ u).takeWhile Char.isDigit = [] := takeWhile_run (by simp) hu
      rw [List.nil_append] at htake
      simp [readNumber, htake]
  | plain hm hexponent hu =>
      rw [hm.readNumber_eq, finishNumber, hexponent]
      rcases hu with hstart | hu
      · simp [hstart]
      · have htake : ([] ++ u).takeWhile isWordPart = [] := takeWhile_run (by simp) hu
        rw [List.nil_append] at htake
        simp [htake]
  | @word m w _ hm hne hw hstart hu =>
      have hstart' : startsWithE (w ++ u) = false := by
        obtain ⟨d, more, rfl⟩ := List.exists_cons_of_ne_nil hne
        exact hstart
      rw [List.append_assoc, hm.readNumber_eq, finishNumber, splitExponent?_of_startsWithE hstart',
        hstart', takeWhile_run hw hu, dropWhile_run hw hu]
      simp [hne]
  | @exponent m e _ hm he hu hlong =>
      have hsplit : splitExponent? (e ++ u) = some (e, u) :=
        splitExponent?_eq_some_iff.mpr ⟨he, rfl, hu⟩
      rw [List.append_assoc, hm.readNumber_eq, finishNumber, hsplit]
      split
      · rename_i heq
        cases heq
        exact absurd rfl hlong
      · rename_i heq
        cases heq
        rfl
      · rename_i heq
        cases heq
  | @long m e _ hm he =>
      have hsplit : splitExponent? (e ++ 'L' :: u) = some (e, 'L' :: u) :=
        splitExponent?_eq_some_iff.mpr ⟨he, rfl, by simp⟩
      rw [List.append_assoc, hm.readNumber_eq]
      simp [finishNumber, hsplit]

end SqlGateway.Sql
