import SqlGateway.Policy.ConnectionString
import SqlGateway.Proofs.Policy.WriteBack

/-!
# Escaped Texts in URLs

A text is *escaped* for a URL when all but its letters and digits in ASCII is written as encoded
bytes (`escape`). What a URL means by its marks does not occur in an escaped text, so the marks
that stand between escaped parts are the only ones: `read_of_parts` says what is read from a URL
that is put together from escaped texts, a host name and a port. The parts are found where they
stand and are left as they are: nothing that is encoded gets decoded, and nothing gets encoded
again.

Two segments are special: `.` and `..` mean a directory however they are spelt, so a path of one
segment that spells one of them is the root.

## Main results

* `escapeWhere_eq_self_iff`: which texts are their own encoding.
* `isEscaped_escape`: what an escaped text is made of.
* `read_of_parts`: the URL that is read from escaped parts.
-/

namespace SqlGateway.Url

open Text

/-! ### Escaping -/

section

variable {p : Char → Bool} {cs : List Char}

/-- Encodes the characters that satisfy a test. -/
def escapeWhere (p : Char → Bool) (cs : List Char) : List Char :=
  cs.flatMap fun c => if p c then (String.utf8EncodeChar c).flatMap escapeByte else [c]

/-- Encodes everything but the letters and digits in ASCII. -/
def escape (cs : List Char) : List Char :=
  escapeWhere (!·.isAlphanum) cs

theorem percentEncode_eq_escapeWhere (set cs : List Char) :
    percentEncode set cs = escapeWhere (fun c => isNeverPlain c || set.contains c) cs := rfl

theorem escapeWhere_cons (p : Char → Bool) (c : Char) (cs : List Char) :
    escapeWhere p (c :: cs) =
      (if p c then (String.utf8EncodeChar c).flatMap escapeByte else [c]) ++ escapeWhere p cs := rfl

/-- An encoded character is three characters for each of its bytes. -/
theorem three_le_length_escapeBytes (c : Char) :
    3 ≤ ((String.utf8EncodeChar c).flatMap escapeByte).length := by
  cases hbytes : String.utf8EncodeChar c with
  | nil => exact absurd hbytes (String.utf8EncodeChar_ne_nil)
  | cons b rest => simp [escapeByte]

/-- Encoding shortens nothing. -/
theorem length_le_length_escapeWhere (p : Char → Bool) (cs : List Char) :
    cs.length ≤ (escapeWhere p cs).length := by
  induction cs with
  | nil => exact Nat.le_refl 0
  | cons c cs ih =>
      have hbytes := three_le_length_escapeBytes c
      rw [escapeWhere_cons, List.length_append, List.length_cons]
      split
      · omega
      · rw [List.length_singleton]
        omega

/-- **A text is its own encoding** if it has no character that is encoded, and only then. -/
theorem escapeWhere_eq_self_iff : escapeWhere p cs = cs ↔ ∀ c ∈ cs, p c = false := by
  induction cs with
  | nil => simp [escapeWhere]
  | cons c cs ih =>
      rw [escapeWhere_cons, List.forall_mem_cons, ← ih]
      cases hc : p c with
      | false => simp
      | true =>
          refine iff_of_false (fun heq => ?_) (fun h => nomatch h.1)
          -- the encoding of the first character alone is longer than it
          have hlength := congrArg List.length heq
          have hbytes := three_le_length_escapeBytes c
          have hrest := length_le_length_escapeWhere p cs
          rw [if_pos rfl, List.length_append, List.length_cons] at hlength
          omega

theorem escapeWhere_eq_nil_iff : escapeWhere p cs = [] ↔ cs = [] := by
  constructor
  · intro h
    have hlength := length_le_length_escapeWhere p cs
    rw [h] at hlength
    exact List.length_eq_zero_iff.mp (Nat.le_zero.mp hlength)
  · rintro rfl
    rfl

/-- Only letters, digits and percent signs. -/
def IsEscaped (cs : List Char) : Prop :=
  ∀ c ∈ cs, c.isAlphanum = true ∨ c = '%'

theorem isEscaped_escapeByte (b : UInt8) : IsEscaped (escapeByte b) := by
  have hdigit : ∀ n < 16, (Nat.digitChar n).toUpper.isAlphanum = true := by decide
  have hhigh : b.toNat / 16 < 16 := Nat.div_lt_of_lt_mul b.toNat_lt
  have hlow : b.toNat % 16 < 16 := Nat.mod_lt _ (by decide)
  intro c hc
  simp only [escapeByte, List.mem_cons, List.not_mem_nil, or_false] at hc
  rcases hc with rfl | rfl | rfl
  · exact .inr rfl
  · exact .inl (hdigit _ hhigh)
  · exact .inl (hdigit _ hlow)

/-- What is left after encoding: characters that are not encoded, and encoded bytes. -/
theorem of_mem_escapeWhere {c : Char} (h : c ∈ escapeWhere p cs) :
    (c ∈ cs ∧ p c = false) ∨ c.isAlphanum = true ∨ c = '%' := by
  obtain ⟨d, hd, hc⟩ := List.mem_flatMap.mp h
  split at hc
  · obtain ⟨b, -, hb⟩ := List.mem_flatMap.mp hc
    exact .inr (isEscaped_escapeByte b c hb)
  · rename_i hplain
    rw [List.mem_singleton.mp hc]
    exact .inl ⟨hd, Bool.eq_false_iff.mpr hplain⟩

theorem isEscaped_escape (cs : List Char) : IsEscaped (escape cs) := by
  intro c hc
  rcases of_mem_escapeWhere hc with ⟨-, hplain⟩ | hescaped
  · exact .inl (by simpa using hplain)
  · exact hescaped

theorem isEscaped_digitsText (n : Nat) : IsEscaped (Decimal.digitsText n).toList := by
  intro c hc
  exact .inl (by rw [Char.isAlphanum, Decimal.isDigit_of_mem_digitsText hc, Bool.or_true])

theorem toNat_lt_of_escaped {c : Char} (h : c.isAlphanum = true ∨ c = '%') : c.toNat < 0x80 := by
  rcases h with halnum | rfl
  · exact toNat_lt_of_isAlphanum halnum
  · decide

/-- A test in ASCII that fails for letters, digits and the percent sign finds nothing in an
escaped text. -/
theorem IsEscaped.all_false (h : IsEscaped cs)
    (hp : ∀ n < 0x80, (Char.ofNat n).isAlphanum = true ∨ Char.ofNat n = '%' →
      p (Char.ofNat n) = false) : ∀ c ∈ cs, p c = false := fun c hc =>
  of_ascii (p := fun c => c.isAlphanum = true ∨ c = '%' → p c = false) hp
    (toNat_lt_of_escaped (h c hc)) (h c hc)

/-- Escaping changes all texts but those of letters and digits. -/
theorem escape_eq_self_iff : escape cs = cs ↔ ∀ c ∈ cs, c.isAlphanum = true := by
  simp [escape, escapeWhere_eq_self_iff]

end

/-! ### Reading -/

/-- A character of a host name: a letter, a digit, a dot or a hyphen. A letter need not be in
ASCII. -/
def isHostChar (c : Char) : Bool :=
  c.isAlphanum || c == '.' || c == '-' || 0x80 ≤ c.toNat

/-- A character of a part of a URL: of a host name or of an escaped text. -/
def isPartChar (c : Char) : Bool :=
  isHostChar c || c == '%'

theorem isPartChar_of_isHostChar {c : Char} (h : isHostChar c = true) : isPartChar c = true := by
  rw [isPartChar, h, Bool.true_or]

theorem isPartChar_of_escaped {c : Char} (h : c.isAlphanum = true ∨ c = '%') :
    isPartChar c = true := by
  rcases h with halnum | rfl
  · exact isPartChar_of_isHostChar (by simp [isHostChar, halnum])
  · rfl

theorem IsEscaped.isPartChar {cs : List Char} (h : IsEscaped cs) :
    ∀ c ∈ cs, isPartChar c = true :=
  fun c hc => isPartChar_of_escaped (h c hc)

theorem contains_false_of_isPartChar {c : Char} {marks : List Char} (h : isPartChar c = true)
    (hmarks : marks.any isPartChar = false) : marks.contains c = false := by
  rw [← Bool.not_eq_true, List.contains_iff_mem]
  intro hmem
  exact List.any_eq_false.mp hmarks c hmem h

/-- No blank and no control character of ASCII stands in a part. -/
theorem lt_toNat_of_isPartChar {c : Char} (h : isPartChar c = true) : 0x20 < c.toNat := by
  by_cases hascii : c.toNat < 0x80
  · exact of_ascii (p := fun c => isPartChar c = true → 0x20 < c.toNat) (by decide) hascii h
  · omega

/-- No blank stands in a part either, once what is past ASCII is encoded. -/
theorem isBlank_of_mem_percentEncode {set cs : List Char} (h : ∀ c ∈ cs, isPartChar c = true) :
    ∀ c ∈ percentEncode set cs, isBlank c = false := by
  intro c hc
  have hrange : 0x20 < c.toNat ∧ c.toNat < 0x80 := by
    rcases of_mem_escapeWhere hc with ⟨hmem, hplain⟩ | hescaped
    · simp only [isNeverPlain, Bool.or_eq_false_iff, decide_eq_false_iff_not] at hplain
      exact ⟨lt_toNat_of_isPartChar (h c hmem), by omega⟩
    · exact ⟨lt_toNat_of_isPartChar (isPartChar_of_escaped hescaped), toNat_lt_of_escaped hescaped⟩
  simp only [isBlank]
  grind

/-- The characters at which an authority and what follows it are cut. -/
def isMark (c : Char) : Bool :=
  ['/', '\\', '?', '#', '@', ':', '['].contains c

theorem isMark_of_isPartChar {c : Char} (h : isPartChar c = true) : isMark c = false :=
  contains_false_of_isPartChar h (by decide)

theorem beq_false_of_isMark {c m : Char} (hc : isMark c = false) (hm : isMark m = true) :
    (c == m) = false := by
  refine beq_false_of_ne ?_
  rintro rfl
  rw [hm] at hc
  cases hc

theorem cutAtLast?_of_notMem {p : Char → Bool} {mark : Char} {before after : List Char}
    (hmark : p mark = true) (hafter : ∀ c ∈ after, p c = false) :
    cutAtLast? p (before ++ mark :: after) = some (before, after) := by
  have hreverse : (before ++ mark :: after).reverse = after.reverse ++ mark :: before.reverse := by
    simp
  have hrun : ∀ c ∈ after.reverse, (!p c) = true := fun c hc => by
    rw [hafter c (List.mem_reverse.mp hc)]
    rfl
  have hstop : ∀ c ∈ (mark :: before.reverse).head?, (!p c) = false := by
    simp [hmark]
  rw [cutAtLast?, hreverse, dropWhile_run hrun hstop, takeWhile_run hrun hstop]
  simp

/-- The host part of a text ends at the first colon, if there are no brackets before it. -/
theorem hostPart_of_name {name after : List Char}
    (hname : ∀ c ∈ name, (c == ':' || c == '[') = false) :
    hostPart false (name ++ ':' :: after) = name := by
  induction name with
  | nil => rfl
  | cons c name ih =>
      obtain ⟨hc, hname⟩ := List.forall_mem_cons.mp hname
      obtain ⟨hcolon, hbracket⟩ := Bool.or_eq_false_iff.mp hc
      rw [List.cons_append, hostPart, if_neg (by simp_all), hbracket, Bool.false_and, Bool.or_false,
        ih hname]

theorem readCredentials_of_escaped {user password : List Char} (huser : IsEscaped user)
    (hpassword : IsEscaped password) (hne : password ≠ []) :
    readCredentials (user ++ ':' :: password) =
      (String.ofList user, some (String.ofList password)) := by
  have hrun : ∀ c ∈ user, (c != ':') = true := fun c hc => by
    simpa using huser.all_false (p := (· == ':')) (by decide) c hc
  have hplain {cs : List Char} (h : IsEscaped cs) : percentEncode credentialSet cs = cs := by
    rw [percentEncode_eq_escapeWhere, escapeWhere_eq_self_iff]
    exact h.all_false (by decide)
  rw [readCredentials, takeWhile_run hrun (by simp), dropWhile_run hrun (by simp), List.tail_cons,
    if_neg (by simpa using hne), hplain huser, hplain hpassword]

theorem readOpaqueHost_of_name {host : List Char} (h : ∀ c ∈ host, isHostChar c = true) :
    readOpaqueHost host = .ok (String.ofList (percentEncode [] host)) := by
  have hallowed : ∀ c ∈ host, forbiddenInName.contains c = false :=
    fun c hc => contains_false_of_isPartChar (isPartChar_of_isHostChar (h c hc)) (by decide)
  have hbracket : host.head? ≠ some '[' := fun hhead => by
    simpa [forbiddenInName] using hallowed _ (List.mem_of_head? hhead)
  rw [readOpaqueHost, if_neg hbracket, if_neg]
  simpa using hallowed

theorem readPort_digitsText {n : Nat} (h : n < UInt16.size) :
    readPort (Decimal.digitsText n).toList = .ok (some n) := by
  have hdigits := Decimal.isDigits_digitsText n
  have hne : (Decimal.digitsText n).toList.isEmpty = false := by
    rw [isDigits, Bool.and_eq_true] at hdigits
    simpa using hdigits.1
  rw [readPort, hne, if_neg (by decide), Decimal.digitsValue_digitsText, hdigits]
  simp [h]

/-- Whether a segment means a directory relative to the one that it stands in. -/
def isRelative (segment : List Char) : Bool :=
  isHere segment || isAbove segment

/-- The path of one segment; a relative one leads to the root. -/
def segmentPath (segment : List Char) : List Char :=
  if isRelative segment then ['/'] else '/' :: segment

/-- A segment that is written with letters and digits means no directory. -/
theorem isRelative_of_isAlphanum {segment : List Char} (h : ∀ c ∈ segment, c.isAlphanum = true) :
    isRelative segment = false := by
  have hlower : ∀ c ∈ segment.map Char.toLower, c.isAlphanum = true := by
    intro c hc
    obtain ⟨d, hd, rfl⟩ := List.mem_map.mp hc
    exact of_ascii (p := fun c => c.isAlphanum = true → c.toLower.isAlphanum = true) (by decide)
      (toNat_lt_of_isAlphanum (h d hd)) (h d hd)
  -- each way to spell a directory has a dot or a percent sign in it
  have hspelling : ∀ spelling : String, spelling.toList.all Char.isAlphanum = false →
      String.ofList (segment.map Char.toLower) ≠ spelling := by
    rintro _ hmark rfl
    rw [String.toList_ofList, List.all_eq_true.mpr hlower] at hmark
    cases hmark
  simp [isRelative, isHere, isAbove, hspelling]

theorem readPath_of_escaped {isSlash : Char → Bool} {segment : List Char} (h : IsEscaped segment)
    (hslash : isSlash '/' = true) (hplain : ∀ c ∈ segment, isSlash c = false) :
    readPath isSlash ('/' :: segment) = segmentPath segment := by
  have hkept : ('/' :: segment).takeWhile (fun c => c != '?' && c != '#') = '/' :: segment := by
    refine List.takeWhile_eq_self_iff.mpr fun c hc => ?_
    rcases List.mem_cons.mp hc with rfl | hc
    · rfl
    · have hmark := h.all_false (p := fun c => c == '?' || c == '#') (by decide) c hc
      simpa using hmark
  have hencoded : percentEncode pathSet ('/' :: segment) = '/' :: segment := by
    rw [percentEncode_eq_escapeWhere, escapeWhere_eq_self_iff]
    exact List.forall_mem_cons.mpr ⟨by decide, h.all_false (by decide)⟩
  rw [readPath, hkept, hencoded, segmentPath, isRelative]
  simp only [hslash, if_true, cutAt_of_forall hplain, resolve, leave]
  cases isAbove segment <;> cases isHere segment <;> simp

/-- What stands between the slashes and the path. -/
def authorityText (user password host : List Char) (port : Nat) : List Char :=
  (user ++ ':' :: password) ++ '@' :: (host ++ ':' :: (Decimal.digitsText port).toList)

theorem of_mem_authorityText {user password host : List Char} {port : Nat} {c : Char}
    (huser : IsEscaped user) (hpassword : IsEscaped password)
    (hhost : ∀ c ∈ host, isHostChar c = true) (h : c ∈ authorityText user password host port) :
    isPartChar c = true ∨ c = ':' ∨ c = '@' := by
  simp only [authorityText, List.mem_append, List.mem_cons] at h
  rcases h with (hc | hc | hc) | hc | hc | hc | hc
  · exact .inl (huser.isPartChar c hc)
  · exact .inr (.inl hc)
  · exact .inl (hpassword.isPartChar c hc)
  · exact .inr (.inr hc)
  · exact .inl (isPartChar_of_isHostChar (hhost c hc))
  · exact .inr (.inl hc)
  · exact .inl ((isEscaped_digitsText port).isPartChar c hc)

theorem isMark_of_mem_host {host : List Char} (hhost : ∀ c ∈ host, isHostChar c = true) :
    ∀ c ∈ host, isMark c = false :=
  fun c hc => isMark_of_isPartChar (isPartChar_of_isHostChar (hhost c hc))

theorem isMark_of_mem_digitsText (port : Nat) :
    ∀ c ∈ (Decimal.digitsText port).toList, isMark c = false :=
  fun c hc => isMark_of_isPartChar ((isEscaped_digitsText port).isPartChar c hc)

/-- An authority does not end before its path. -/
theorem run_authorityText {user password host : List Char} (port : Nat) (huser : IsEscaped user)
    (hpassword : IsEscaped password) (hhost : ∀ c ∈ host, isHostChar c = true) :
    ∀ c ∈ authorityText user password host port,
      (!((c == '/' || (false && c == '\\')) || c == '?' || c == '#')) = true := by
  intro c hc
  rcases of_mem_authorityText huser hpassword hhost hc with hpart | rfl | rfl
  · have hmark := isMark_of_isPartChar hpart
    rw [beq_false_of_isMark hmark (m := '/') rfl, beq_false_of_isMark hmark (m := '\\') rfl,
      beq_false_of_isMark hmark (m := '?') rfl, beq_false_of_isMark hmark (m := '#') rfl]
    rfl
  · rfl
  · rfl

/-- The credentials of an authority end at its last at sign. -/
theorem cutAtLast?_authorityText {host : List Char} (user password : List Char) (port : Nat)
    (hhost : ∀ c ∈ host, isHostChar c = true) :
    cutAtLast? (· == '@') (authorityText user password host port) =
      some (user ++ ':' :: password, host ++ ':' :: (Decimal.digitsText port).toList) := by
  refine cutAtLast?_of_notMem rfl fun c hc => ?_
  simp only [List.mem_append, List.mem_cons] at hc
  rcases hc with hc | rfl | hc
  · exact beq_false_of_isMark (isMark_of_mem_host hhost c hc) rfl
  · rfl
  · exact beq_false_of_isMark (isMark_of_mem_digitsText port c hc) rfl

/-- **What is read from an authority that is put together from escaped parts**, and from a path
of one escaped segment. -/
theorem readAuthority_of_parts {scheme : String} {user password host segment : List Char}
    {port : Nat} (huser : IsEscaped user) (hpassword : IsEscaped password) (hne : password ≠ [])
    (hhost : ∀ c ∈ host, isHostChar c = true) (hport : port < UInt16.size)
    (hsegment : IsEscaped segment) :
    readAuthority scheme false (authorityText user password host port ++ '/' :: segment) =
      if host = [] then .error .emptyHost
      else .ok { scheme, user := String.ofList user, password := some (String.ofList password),
                 host := some (String.ofList (percentEncode [] host)), port := some port,
                 path := String.ofList (segmentPath segment) } := by
  have hrun := run_authorityText port huser hpassword hhost
  have hstop : ∀ c ∈ ('/' :: segment).head?,
      (!((c == '/' || (false && c == '\\')) || c == '?' || c == '#')) = false := by simp
  have htake := takeWhile_run hrun hstop
  have hdrop := dropWhile_run hrun hstop
  have hcut := cutAtLast?_authorityText user password port hhost
  have hname : hostPart false (host ++ ':' :: (Decimal.digitsText port).toList) = host := by
    refine hostPart_of_name fun c hc => ?_
    have hmark := isMark_of_mem_host hhost c hc
    rw [beq_false_of_isMark hmark rfl, beq_false_of_isMark hmark rfl, Bool.or_false]
  have hback : ∀ c ∈ ':' :: (Decimal.digitsText port).toList, (c != '\\') = true := by
    refine List.forall_mem_cons.mpr ⟨rfl, fun c hc => ?_⟩
    rw [bne, beq_false_of_isMark (isMark_of_mem_digitsText port c hc) rfl, Bool.not_false]
  have hporttext : (Decimal.digitsText port).toList.takeWhile (· != '\\') =
      (Decimal.digitsText port).toList :=
    List.takeWhile_eq_self_iff.mpr (List.forall_mem_cons.mp hback).2
  have hbehind : (':' :: (Decimal.digitsText port).toList).dropWhile (· != '\\') = [] :=
    List.dropWhile_eq_nil_iff.mpr hback
  have hpath : readPath (fun c => c == '/' || (false && c == '\\')) ('/' :: segment) =
      segmentPath segment :=
    readPath_of_escaped hsegment rfl (hsegment.all_false (by decide))
  have hcredentials : (user ++ ':' :: password).isEmpty = false := by simp
  unfold readAuthority
  simp only [htake, hdrop, hcut, Option.getD_some, hcredentials,
    readCredentials_of_escaped huser hpassword hne, hname, List.drop_left,
    readOpaqueHost_of_name hhost, Bool.false_eq_true, false_and, and_false, ↓reduceIte,
    List.tail_cons, hporttext, readPort_digitsText hport, hbehind, List.nil_append, hpath]
  cases host with
  | nil => rfl
  | cons c host => rfl

/-- Nothing is cleaned of a text in which only blanks and control characters past ASCII occur. -/
theorem clean_eq_self {cs : List Char} (h : ∀ c ∈ cs, 0x20 < c.toNat) : clean cs = cs := by
  have hblank : ∀ c ∈ cs, decide (c.toNat ≤ 0x20) = false := fun c hc =>
    decide_eq_false (Nat.not_le.mpr (h c hc))
  have hfront : cs.dropWhile (·.toNat ≤ 0x20) = cs :=
    dropWhile_of_head fun c hc => hblank c (List.mem_of_head? hc)
  have hback : cs.reverse.dropWhile (·.toNat ≤ 0x20) = cs.reverse :=
    dropWhile_of_head fun c hc => hblank c (List.mem_reverse.mp (List.mem_of_head? hc))
  rw [clean, hfront, dropEndWhile, hback, List.reverse_reverse, List.filter_eq_self]
  intro c hc
  have hlt := h c hc
  have htab : c ≠ '\t' := by rintro rfl; exact absurd hlt (by decide)
  have hline : c ≠ '\n' := by rintro rfl; exact absurd hlt (by decide)
  have hreturn : c.toNat ≠ 0x0D := by omega
  simp [htab, hline, hreturn]

/-- **What is read from a URL that is put together from escaped parts.** -/
theorem read_of_parts {user password host segment : List Char} {port : Nat}
    (huser : IsEscaped user) (hpassword : IsEscaped password) (hne : password ≠ [])
    (hhost : ∀ c ∈ host, isHostChar c = true) (hport : port < UInt16.size)
    (hsegment : IsEscaped segment) :
    read (String.ofList ("mysql://".toList ++
        (authorityText user password host port ++ '/' :: segment))) =
      if host = [] then .error .emptyHost
      else .ok { scheme := "mysql", user := String.ofList user,
                 password := some (String.ofList password),
                 host := some (String.ofList (percentEncode [] host)), port := some port,
                 path := String.ofList (segmentPath segment) } := by
  have hclean : ∀ c ∈ "mysql://".toList ++
      (authorityText user password host port ++ '/' :: segment), 0x20 < c.toNat := by
    have hscheme : "mysql://".toList.all (0x20 < ·.toNat) = true := by decide
    intro c hc
    rcases List.mem_append.mp hc with hc | hc
    · exact of_decide_eq_true (List.all_eq_true.mp hscheme c hc)
    rcases List.mem_append.mp hc with hc | hc
    · rcases of_mem_authorityText huser hpassword hhost hc with hpart | rfl | rfl
      · exact lt_toNat_of_isPartChar hpart
      · decide
      · decide
    rcases List.mem_cons.mp hc with rfl | hc
    · decide
    · exact lt_toNat_of_isPartChar (hsegment.isPartChar c hc)
  have hscheme : cutScheme? ("mysql://".toList ++
      (authorityText user password host port ++ '/' :: segment)) =
      some ("mysql", '/' :: '/' :: (authorityText user password host port ++ '/' :: segment)) := rfl
  rw [read, String.toList_ofList, clean_eq_self hclean, hscheme]
  exact readAuthority_of_parts huser hpassword hne hhost hport hsegment

end SqlGateway.Url
