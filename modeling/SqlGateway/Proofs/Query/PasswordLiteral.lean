import SqlGateway.Proofs.Query.Opening
import SqlGateway.Proofs.Sql.Escape

/-!
# Masked Literals

A literal behind an opening is masked up to the next quote of its kind. The reader of quoted
sections goes on behind a quote that is doubled or escaped, so of a literal with such a quote the
rest stays in the log (`leftover`). What stands before the literal stays as it is, and nothing in
the literal is looked at but its quotes, unless an earlier pass finds an opening in it
(`Undisturbed`).

## Main results

* `maskAfter_literal`: the pass for a kind masks the literal behind an opening of that kind.
* `maskAfter_pass`: the passes for other kinds leave it.
* `maskAccounts_literal`: what all three passes make of a literal.
* `redactions_agree_iff`: when what is logged does not depend on the literal.
-/

namespace SqlGateway.Query

open Text

variable {op : Opener} {after b cs lit o p rest s u x z : List Char} {c q : Char} {k : Kind}

/-- What is written for a literal. -/
def masked : List Char :=
  '\'' :: (mask ++ ['\''])

/-! ### Literals -/

theorem dropLiteral?_literal (hq : isLiteralQuote q = true) (hb : q ∉ b) :
    dropLiteral? (q :: (b ++ q :: s)) = some s := by
  have hrun : ∀ c ∈ b, (c != q) = true := fun c hc => by
    simpa using fun heq : c = q => hb (heq ▸ hc)
  replace hq : (q == '\'' || q == '"') = true := hq
  rw [dropLiteral?, if_pos hq, dropWhile_run hrun (by simp)]

/-- A literal that is read stands at the front of the text, with its quote first. -/
theorem exists_of_dropLiteral? (h : dropLiteral? lit = some after) :
    ∃ q body, lit = q :: (body ++ after) ∧ isLiteralQuote q = true := by
  cases lit with
  | nil => cases h
  | cons q rest =>
      rw [dropLiteral?] at h
      split at h
      · rename_i hq
        split at h
        · cases h
        · rename_i d after' hdrop
          obtain rfl := Option.some.inj h
          refine ⟨q, rest.takeWhile (· != q) ++ [d], ?_, hq⟩
          rw [List.append_assoc, List.singleton_append, ← hdrop, List.takeWhile_append_dropWhile]
      · cases h

/-! ### One pass -/

theorem maskAfterFrom_eq_drop (n : Nat) (cs : List Char) :
    maskAfterFrom op n cs = maskAfter op (cs.drop n) := by
  induction cs generalizing n with
  | nil => simp [maskAfter, maskAfterFrom]
  | cons c rest ih =>
      cases n with
      | zero => rfl
      | succ n =>
          rw [maskAfterFrom, ih]
          rfl

/-- Where nothing is found, a character stays. -/
theorem maskAfter_of_none (h : (op (c :: rest)).bind dropLiteral? = none) :
    maskAfter op (c :: rest) = c :: maskAfter op rest := by
  rw [maskAfter, maskAfterFrom]
  split
  · rfl
  · rename_i literal hliteral
    rw [hliteral, Option.bind_some] at h
    rw [h]
    rfl

/-- Where a literal is found, it is masked, and the pass goes on behind it. -/
theorem maskAfter_of_some (hop : op (o ++ lit) = some lit) (hlit : dropLiteral? lit = some after) :
    maskAfter op (o ++ lit) = o ++ masked ++ maskAfter op after := by
  obtain ⟨q, body, rfl, -⟩ := exists_of_dropLiteral? hlit
  obtain ⟨c, rest, hcs⟩ := List.exists_cons_of_ne_nil
    (List.append_ne_nil_of_right_ne_nil o (List.cons_ne_nil q (body ++ after)))
  have hlength := congrArg List.length hcs
  simp only [List.length_append, List.length_cons] at hlength
  have htake : (c :: rest).take (rest.length + 1 - (q :: (body ++ after)).length) = o := by
    rw [← hcs]
    simp only [List.length_append, List.length_cons]
    have hcount : rest.length + 1 - (body.length + after.length + 1) = o.length := by omega
    rw [hcount, List.take_left']
    rfl
  have hdrop : rest.drop (rest.length - after.length) = after := by
    have hsuffix : after <:+ c :: rest := ⟨o ++ q :: body, by rw [← hcs]; simp⟩
    rcases List.suffix_cons_iff.mp hsuffix with rfl | ⟨front, rfl⟩
    · simp only [List.length_cons] at hlength
      omega
    · simp
  rw [hcs, maskAfter, maskAfterFrom, ← hcs, hop]
  dsimp only
  rw [hlit, hcs]
  dsimp only
  rw [htake, maskAfterFrom_eq_drop, hdrop]
  simp [masked]

/-- A text in which nothing is found that starts there stays. -/
theorem maskAfter_append_of_none
    (h : ∀ z, z <:+ x → z ≠ [] → (op (z ++ u)).bind dropLiteral? = none) :
    maskAfter op (x ++ u) = x ++ maskAfter op u := by
  induction x with
  | nil => rfl
  | cons c x ih =>
      have hnone : (op (c :: (x ++ u))).bind dropLiteral? = none :=
        h (c :: x) List.suffix_rfl (List.cons_ne_nil _ _)
      rw [List.cons_append, maskAfter_of_none hnone,
        ih fun z hz => h z (hz.trans (List.suffix_cons c x)), List.cons_append]

/-- Where all that is found in a text is the literal behind it, that is masked, if an opening
stands in front of it. -/
theorem maskAfter_append_of_some (hlit : dropLiteral? u = some after)
    (hfind : ∀ z, z <:+ x → ∀ lit after', op (z ++ u) = some lit →
      dropLiteral? lit = some after' → lit = u)
    (hopens : ∃ o, o <:+ x ∧ op (o ++ u) = some u) :
    maskAfter op (x ++ u) = x ++ masked ++ maskAfter op after := by
  induction x with
  | nil =>
      obtain ⟨o, ho, hop⟩ := hopens
      obtain rfl := List.suffix_nil.mp ho
      exact maskAfter_of_some hop hlit
  | cons c x ih =>
      cases hfound : (op (c :: x ++ u)).bind dropLiteral? with
      | none =>
          have hopens' : ∃ o, o <:+ x ∧ op (o ++ u) = some u := by
            obtain ⟨o, ho, hop⟩ := hopens
            rcases List.suffix_cons_iff.mp ho with rfl | ho
            · rw [hop, Option.bind_some, hlit] at hfound
              cases hfound
            · exact ⟨o, ho, hop⟩
          replace hfound : (op (c :: (x ++ u))).bind dropLiteral? = none := hfound
          rw [List.cons_append, maskAfter_of_none hfound,
            ih (fun z hz => hfind z (hz.trans (List.suffix_cons c x))) hopens']
          rfl
      | some after' =>
          obtain ⟨lit, hop, hlit'⟩ := Option.bind_eq_some_iff.mp hfound
          obtain rfl := hfind _ List.suffix_rfl lit after' hop hlit'
          exact maskAfter_of_some hop hlit

/-! ### The pass of a kind -/

/-- **The pass for a kind** masks the literal behind an opening of that kind. -/
theorem maskAfter_literal (hx : Unquoted (p ++ o)) (ho : Opens k o) (hq : isLiteralQuote q = true)
    (hb : q ∉ b) (hplugin : k = .identified → ¬ AwaitsPlugin (p ++ o)) :
    maskAfter k.opener (p ++ o ++ q :: (b ++ q :: s)) =
      p ++ o ++ masked ++ maskAfter k.opener s := by
  refine maskAfter_append_of_some (dropLiteral?_literal hq hb) ?_ ⟨o, List.suffix_append p o, ?_⟩
  · intro z hz lit after hop hlit
    have hunquoted : Unquoted z := fun c hc => hx c (hz.subset hc)
    obtain ⟨q', body, rfl, hq'⟩ := exists_of_dropLiteral? hlit
    rcases opener_before_quote hunquoted hq hop (by simpa using hq') with ⟨-, heq⟩ | ⟨hk, hawaits⟩
    · exact heq
    · exact absurd (hawaits.of_suffix hz) (hplugin hk)
  · refine opener_eq_some_iff.mpr ⟨o, rfl, ho, ?_⟩
    simpa using isBlank_of_isLiteralQuote hq

/-- What an opening of a kind starts with. -/
def Starts : Kind → List Char → Prop
  | .identified => IsWordGap "IDENTIFIED"
  | .call => IsPasswordSign '('
  | .assign => IsPasswordSign '='

/-- A text has the start of an opening in it. -/
def Hides (k : Kind) (cs : List Char) : Prop :=
  ∃ w, w <:+: cs ∧ Starts k w

theorem Starts.length_le (h : Starts k x) : 8 ≤ x.length := by
  have hsign {sign : Char} (h : IsPasswordSign sign x) : 8 ≤ x.length := by
    obtain ⟨word, gap, gap', rfl, hspells, -⟩ := h
    have hlength : 8 = word.length := hspells.length_eq
    rw [List.length_append]
    omega
  cases k with
  | identified =>
      have hlength : 10 < x.length := IsWordGap.length_lt h
      omega
  | call => exact hsign h
  | assign => exact hsign h

theorem Hides.length_le (h : Hides k cs) : 8 ≤ cs.length := by
  obtain ⟨w, hw, hstarts⟩ := h
  exact hstarts.length_le.trans hw.length_le

theorem Opens.exists_starts (h : Opens k o) :
    ∃ w rest, o = w ++ rest ∧ Starts k w ∧ Unquoted w := by
  cases k with
  | identified =>
      cases h with
      | bare hw _ => exact ⟨_, _, rfl, hw, hw.unquoted (by decide)⟩
      | plugin hw _ _ _ _ _ => exact ⟨_, _, rfl, hw, hw.unquoted (by decide)⟩
  | call => exact ⟨o, [], by simp, h, IsPasswordSign.unquoted (by decide) h⟩
  | assign => exact ⟨o, [], by simp, h, IsPasswordSign.unquoted (by decide) h⟩

/-- An opening that is read in front of a quote starts in the text before it. -/
theorem hides_of_opener (hq : isLiteralQuote q = true) (h : k.opener (z ++ q :: u) = some lit) :
    Hides k z := by
  obtain ⟨o, heq, ho, -⟩ := opener_eq_some_iff.mp h
  obtain ⟨w, rest, rfl, hstarts, hw⟩ := ho.exists_starts
  rw [List.append_assoc] at heq
  obtain ⟨t, rfl, -⟩ := exists_append_of_unquoted hw hq heq
  exact ⟨w, List.infix_append' [] w t, hstarts⟩

/-- **The passes for other kinds** leave a literal, unless an opening starts in it. -/
theorem maskAfter_pass (hx : Unquoted x) (hq : isLiteralQuote q = true)
    (hends : ∀ o, o <:+ x → ¬ Opens k o) (hplugin : k = .identified → ¬ AwaitsPlugin x)
    (hb : ¬ Hides k b) :
    maskAfter k.opener (x ++ q :: (b ++ q :: s)) =
      x ++ q :: (b ++ q :: maskAfter k.opener s) := by
  have hquote (u : List Char) : maskAfter k.opener (q :: u) = q :: maskAfter k.opener u := by
    refine maskAfter_of_none ?_
    cases hop : k.opener (q :: u) with
    | none => rfl
    | some lit =>
        have hlength := (hides_of_opener (z := []) hq hop).length_le
        simp at hlength
  have hbody : maskAfter k.opener (b ++ q :: s) = b ++ maskAfter k.opener (q :: s) := by
    refine maskAfter_append_of_none fun z hz _ => ?_
    cases hop : k.opener (z ++ q :: s) with
    | none => rfl
    | some lit =>
        obtain ⟨w, hw, hstarts⟩ := hides_of_opener hq hop
        exact absurd ⟨w, hw.trans hz.isInfix, hstarts⟩ hb
  have hfront : maskAfter k.opener (x ++ q :: (b ++ q :: s)) =
      x ++ maskAfter k.opener (q :: (b ++ q :: s)) := by
    refine maskAfter_append_of_none fun z hz _ => ?_
    rw [Option.bind_eq_none_iff]
    intro lit hop
    by_contra hlit
    obtain ⟨after, hafter⟩ := Option.ne_none_iff_exists'.mp hlit
    obtain ⟨q', body, rfl, hq'⟩ := exists_of_dropLiteral? hafter
    have hunquoted : Unquoted z := fun c hc => hx c (hz.subset hc)
    rcases opener_before_quote hunquoted hq hop (by simpa using hq') with ⟨ho, -⟩ | ⟨hk, hawaits⟩
    · exact hends z hz ho
    · exact hplugin hk (hawaits.of_suffix hz)
  rw [hfront, hquote, hbody, hquote]

/-! ### All passes -/

/-- Nothing that is looked for before an opening of a kind is found at the literal behind it: no
plugin is awaited in front of it, and no opening of an earlier kind starts in it. Here `x` is the
text with the opening, and `b` the literal up to the next quote of its kind. -/
structure Undisturbed (k : Kind) (x b : List Char) : Prop where
  plugin : k ≠ .identified → ¬ AwaitsPlugin x
  identified : k ≠ .identified → ¬ Hides .identified b
  call : k = .assign → ¬ Hides .call b

/-- **What the passes make of a literal**: it is masked, and the text behind it is masked on its
own. -/
theorem maskAccounts_literal (hx : Unquoted (p ++ o)) (ho : Opens k o)
    (hq : isLiteralQuote q = true) (hb : q ∉ b) (hund : Undisturbed k (p ++ o) b) :
    maskAccounts (p ++ o ++ q :: (b ++ q :: s)) = p ++ o ++ masked ++ maskAccounts s := by
  have hown (s : List Char) : maskAfter k.opener (p ++ o ++ q :: (b ++ q :: s)) =
      p ++ o ++ masked ++ maskAfter k.opener s :=
    maskAfter_literal hx ho hq hb fun hk => by
      subst hk
      exact ho.not_awaitsPlugin p
  have hends {k' : Kind} (hne : k ≠ k') : ∀ o', o' <:+ p ++ o → ¬ Opens k' o' := by
    rintro o' ⟨p', heq⟩ ho'
    exact hne (ho.kind_unique ho' heq.symm)
  have hbefore (k' : Kind) (hne : k ≠ k') (hplugin : k' = .identified → ¬ AwaitsPlugin (p ++ o))
      (hhides : ¬ Hides k' b) (s : List Char) :
      maskAfter k'.opener (p ++ o ++ q :: (b ++ q :: s)) =
        p ++ o ++ q :: (b ++ q :: maskAfter k'.opener s) :=
    maskAfter_pass hx hq (hends hne) hplugin hhides
  have hbehind (k' : Kind) (hne : k ≠ k') (hk' : k' ≠ .identified) (s : List Char) :
      maskAfter k'.opener (p ++ o ++ masked ++ s) = p ++ o ++ masked ++ maskAfter k'.opener s := by
    have hmask : ¬ Hides k' mask := fun h => by
      have hlength := h.length_le
      simp [mask] at hlength
    have hpass := maskAfter_pass (s := s) hx (by decide : isLiteralQuote '\'' = true) (hends hne)
      (fun h => absurd h hk') hmask
    simpa [masked] using hpass
  change maskAfter Kind.assign.opener (maskAfter Kind.call.opener
    (maskAfter Kind.identified.opener (p ++ o ++ q :: (b ++ q :: s)))) = _
  cases k with
  | identified =>
      rw [hown, hbehind .call (by decide) (by decide), hbehind .assign (by decide) (by decide)]
      rfl
  | call =>
      rw [hbefore .identified (by decide) (fun _ => hund.plugin (by decide))
        (hund.identified (by decide)), hown, hbehind .assign (by decide) (by decide)]
      rfl
  | assign =>
      rw [hbefore .identified (by decide) (fun _ => hund.plugin (by decide))
        (hund.identified (by decide)), hbefore .call (by decide) nofun (hund.call rfl), hown]
      rfl

/-! ### What is logged -/

/-- With no password set, only the secrets of account statements are masked. -/
theorem redact_of_no_password (cs : List Char) :
    redact (String.ofList cs) "" = String.ofList (maskAccounts cs) := by
  have hnothing (cs : List Char) : replaceAll [] mask cs = cs := by
    induction cs with
    | nil => rw [replaceAll]
    | cons c rest ih =>
        rw [replaceAll]
        split
        · rw [dif_pos rfl, ih]
        · rw [ih]
  have hempty : "".toList = [] := rfl
  rw [redact, hempty, hnothing, String.toList_ofList]

/-- What stands in a literal behind the next quote of its kind, with the quote at its end. -/
def leftover (q : Char) (b : List Char) : List Char :=
  ((b ++ [q]).dropWhile (· != q)).tail

theorem leftover_cons (q c : Char) (b : List Char) :
    leftover q (c :: b) = if c = q then b ++ [q] else leftover q b := by
  rw [leftover, List.cons_append, List.dropWhile_cons]
  split
  · rename_i hne
    rw [if_neg (by simpa using hne)]
    rfl
  · rename_i heq
    rw [if_pos (by simpa using heq)]
    rfl

theorem append_eq_leftover (q : Char) (b : List Char) :
    b ++ [q] = b.takeWhile (· != q) ++ q :: leftover q b := by
  induction b with
  | nil => simp [leftover]
  | cons c b ih =>
      rw [leftover_cons, List.takeWhile_cons]
      by_cases hc : c = q
      · simp [hc]
      · simp [hc, ih]

/-- Nothing is left of a literal exactly if its quote does not stand in it. -/
theorem leftover_eq_nil_iff : leftover q b = [] ↔ q ∉ b := by
  induction b with
  | nil => simp [leftover]
  | cons c b ih =>
      rw [leftover_cons]
      by_cases hc : c = q
      · simp [hc]
      · simp [hc, ih, Ne.symm hc]

theorem maskAfter_ne_nil : maskAfter op (c :: rest) ≠ [] := by
  rw [maskAfter, maskAfterFrom]
  split
  · exact List.cons_ne_nil _ _
  · split
    · exact List.cons_ne_nil _ _
    · simp

theorem maskAccounts_ne_nil (h : cs ≠ []) : maskAccounts cs ≠ [] := by
  have hpass (op : Opener) {cs : List Char} (h : cs ≠ []) : maskAfter op cs ≠ [] := by
    obtain ⟨c, rest, rfl⟩ := List.exists_cons_of_ne_nil h
    exact maskAfter_ne_nil
  exact hpass _ (hpass _ (hpass _ h))

/-- **What is logged of a literal**: the mask, and what is left of it behind the next quote of its
kind. -/
theorem redact_literal (hp : Unquoted p) (hunquoted : Unquoted o) (ho : Opens k o)
    (hq : isLiteralQuote q = true) (hund : Undisturbed k (p ++ o) (b.takeWhile (· != q)))
    (r : List Char) :
    redact (String.ofList (p ++ o ++ Sql.quotedSource q b true ++ r)) "" =
      String.ofList (p ++ o ++ masked ++ maskAccounts (leftover q b ++ r)) := by
  have hfirst : q ∉ b.takeWhile (· != q) := fun hmem => by
    simpa using List.mem_takeWhile_imp hmem
  have htext : p ++ o ++ Sql.quotedSource q b true ++ r =
      p ++ o ++ q :: (b.takeWhile (· != q) ++ q :: (leftover q b ++ r)) := by
    have hsource : Sql.quotedSource q b true = q :: (b ++ [q]) := rfl
    rw [hsource, append_eq_leftover]
    simp
  rw [htext, redact_of_no_password,
    maskAccounts_literal (unquoted_append.mpr ⟨hp, hunquoted⟩) ho hq hfirst hund]

/-- **The log does not depend on a literal** behind an opening, whatever follows, exactly if the
literal has no quote of its kind in it; where it has one, what stands behind that quote is logged
like any other text. -/
theorem redactions_agree_iff {q₁ q₂ : Char} {b₁ b₂ : List Char} (hp : Unquoted p)
    (hunquoted : Unquoted o) (ho : Opens k o) (hq₁ : isLiteralQuote q₁ = true)
    (hq₂ : isLiteralQuote q₂ = true)
    (hund₁ : Undisturbed k (p ++ o) (b₁.takeWhile (· != q₁)))
    (hund₂ : Undisturbed k (p ++ o) (b₂.takeWhile (· != q₂))) :
    (∀ r, redact (String.ofList (p ++ o ++ Sql.quotedSource q₁ b₁ true ++ r)) "" =
        redact (String.ofList (p ++ o ++ Sql.quotedSource q₂ b₂ true ++ r)) "" ↔
      maskAccounts (leftover q₁ b₁ ++ r) = maskAccounts (leftover q₂ b₂ ++ r)) ∧
    (q₂ ∉ b₂ →
      ((∀ r, r.head? ≠ some q₁ → r.head? ≠ some q₂ →
          redact (String.ofList (p ++ o ++ Sql.quotedSource q₁ b₁ true ++ r)) "" =
            redact (String.ofList (p ++ o ++ Sql.quotedSource q₂ b₂ true ++ r)) "") ↔
        q₁ ∉ b₁)) := by
  have hiff (r : List Char) :
      redact (String.ofList (p ++ o ++ Sql.quotedSource q₁ b₁ true ++ r)) "" =
        redact (String.ofList (p ++ o ++ Sql.quotedSource q₂ b₂ true ++ r)) "" ↔
      maskAccounts (leftover q₁ b₁ ++ r) = maskAccounts (leftover q₂ b₂ ++ r) := by
    rw [redact_literal hp hunquoted ho hq₁ hund₁, redact_literal hp hunquoted ho hq₂ hund₂,
      String.ofList_inj, List.append_cancel_left_eq]
  refine ⟨hiff, fun hb₂ => ?_⟩
  rw [← leftover_eq_nil_iff] at hb₂ ⊢
  constructor
  · intro hall
    by_contra hne
    have hlog := (hiff []).mp (hall [] nofun nofun)
    rw [hb₂, List.append_nil] at hlog
    exact maskAccounts_ne_nil hne hlog
  · intro hb₁ r _ _
    rw [hiff, hb₁, hb₂]

/-- Two literals without their quotes inside. -/
theorem redactions_agree_of_set :
    ('\'' ∉ "abc".toList ∧ '"' ∉ "it's".toList) ∧
      ∀ r : List Char, r.head? ≠ some '\'' → r.head? ≠ some '"' →
        redact (String.ofList ("SET ".toList ++ "PASSWORD = ".toList ++
            Sql.quotedSource '\'' "abc".toList true ++ r)) "" =
          redact (String.ofList ("SET ".toList ++ "PASSWORD = ".toList ++
            Sql.quotedSource '"' "it's".toList true ++ r)) "" := by
  have hopens : Opens .assign "PASSWORD = ".toList :=
    ⟨"PASSWORD".toList, [' '], [' '], by decide, by simp [Spells, sameLetter],
      isBlank_of_mem_space, isBlank_of_mem_space⟩
  have hund {b : List Char} (hb : b.length < 8) :
      Undisturbed .assign ("SET ".toList ++ "PASSWORD = ".toList) b := by
    refine ⟨fun _ h => ?_, fun _ h => ?_, fun _ h => ?_⟩
    · exact absurd h.length_le (by decide)
    · have hlength := h.length_le
      omega
    · have hlength := h.length_le
      omega
  exact ⟨by decide, ((redactions_agree_iff (by simp [Unquoted, isLiteralQuote])
    (by simp [Unquoted, isLiteralQuote]) hopens (by decide) (by decide) (hund (by decide))
    (hund (by decide))).2 (by decide)).mpr (by decide)⟩

/-- The rest of a literal with a doubled quote is logged. -/
theorem redactions_differ :
    Sql.readQuoted '\'' "a''b'".toList = ⟨"a''b".toList, true, []⟩ ∧
      redact "SET PASSWORD = 'a''b'" "" = "SET PASSWORD = '***''b'" ∧
      Sql.readQuoted '\'' "c'".toList = ⟨"c".toList, true, []⟩ ∧
      redact "SET PASSWORD = 'c'" "" = "SET PASSWORD = '***'" := by
  decide +kernel

end SqlGateway.Query
