import SqlGateway.Proofs.Sql.Seam
import SqlGateway.Scope.Guard

/-!
# What Literals and Comments Conceal

The scope guard and the test for several statements go by the text without its comments and
with its literals emptied. So they find the same whatever stands in a literal or a comment: the
body can hold quotes, comment signs, semicolons and names of databases.

Where a literal or a comment stands is decided by the text in front of it. The statement is
therefore about every text that ends outside quoted sections and comments, in a versioned
comment or not, with a literal or a comment behind it and any text behind that.

## Main results

* `JudgedAlike.of_masked`: the guard goes by the masked text alone.
* `judged_alike`: the body of a literal or of a comment does not count.
-/

namespace SqlGateway.Scope

open Sql

/-- Two texts are judged alike if every policy finds the same violations in both, all that is
reported on them is the same, and either both are taken for several statements or neither. -/
structure JudgedAlike (sql sql' : String) : Prop where
  check_eq : ∀ policy, check sql policy = check sql' policy
  report_eq : ∀ policy, report sql policy = report sql' policy
  separator_eq : hasSeparator sql.toList = hasSeparator sql'.toList

/-- **The guard goes by the masked text alone.** -/
theorem JudgedAlike.of_masked {sql sql' : String} (hmask : maskSql sql = maskSql sql')
    (hseparator : hasSeparator sql.toList = hasSeparator sql'.toList) :
    JudgedAlike sql sql' := by
  have hreferences : references sql = references sql' := by rw [references, references, hmask]
  have hviolations (policy : Policy) : violations sql policy = violations sql' policy := by
    rw [violations, violations, listingViolations, listingViolations, hmask, hreferences]
  refine ⟨fun policy => ?_, fun policy => ?_, hseparator⟩
  · rw [check, check, hviolations policy]
  · rw [report, report, hviolations policy, referencedDatabases, referencedDatabases,
      isCrossDatabase, isCrossDatabase, hreferences]

/-- Texts with the same literals up to their bodies are judged alike. -/
theorem JudgedAlike.of_alike {cs cs' : List Char} (h : Alike cs cs') :
    JudgedAlike (String.ofList cs) (String.ofList cs') := by
  refine .of_masked ?_ ?_
  · rw [maskSql, maskSql, String.toList_ofList, String.toList_ofList, h.maskLiterals_eq]
  · rw [String.toList_ofList, String.toList_ofList, h.hasSeparator_eq]

/-- Texts that are the same without their comments are judged alike. -/
theorem JudgedAlike.of_stripped {cs cs' : List Char} (h : stripComments cs = stripComments cs') :
    JudgedAlike (String.ofList cs) (String.ofList cs') := by
  refine .of_masked ?_ ?_
  · rw [maskSql, maskSql, String.toList_ofList, String.toList_ofList, h]
  · rw [String.toList_ofList, String.toList_ofList, hasSeparator, hasSeparator, h]

/-- **What stands in a literal or a comment does not count.** Behind a text that ends outside
quoted sections and comments,

* string literals in the same quotes are judged alike whatever their bodies, unless the text
  goes on with a quote of that kind;
* block comments are judged alike whatever their bodies, unless the text in front ends with a
  star, which could close a versioned comment. -/
theorem judged_alike {front : List Char} (hfront : endsUnquoted front = true)
    (rest : List Char) :
    (∀ q, q = '\'' ∨ q = '"' → rest.head? ≠ some q →
      ∀ body body', isLiteralBody q body = true → isLiteralBody q body' = true →
        JudgedAlike (String.ofList (front ++ q :: (body ++ q :: rest)))
          (String.ofList (front ++ q :: (body' ++ q :: rest)))) ∧
    (front.getLast? ≠ some '*' →
      ∀ body body', IsCommentBody body → IsCommentBody body' →
        JudgedAlike (String.ofList (front ++ '/' :: '*' :: (body ++ '*' :: '/' :: rest)))
          (String.ofList (front ++ '/' :: '*' :: (body' ++ '*' :: '/' :: rest)))) := by
  constructor
  · intro q hq hrest body body' hbody hbody'
    have hquote : isQuote q = true := by rcases hq with rfl | rfl <;> decide
    have hne : q ≠ '`' := by rcases hq with rfl | rfl <;> decide
    exact .of_alike (alike_literal hfront hquote hne (isBody_of_isLiteralBody hquote hne hbody)
      (isBody_of_isLiteralBody hquote hne hbody') hrest)
  · intro hstar body body' hbody hbody'
    exact .of_stripped (stripComments_comment hfront hstar hbody hbody' rest)

/-- Behind a literal and in a versioned comment, where the new literal continues the old one,
a statement on another database goes unseen in a literal and in a comment. -/
theorem judged_alike_of_versioned :
    endsUnquoted "SELECT 1 /*!50000 , 'a'".toList = true ∧
      JudgedAlike
        (String.ofList ("SELECT 1 /*!50000 , 'a'".toList ++
          '\'' :: ("; DROP TABLE d.t -- \\' ''".toList ++ '\'' :: " FROM d.u */ ; x".toList)))
        (String.ofList ("SELECT 1 /*!50000 , 'a'".toList ++
          '\'' :: ([] ++ '\'' :: " FROM d.u */ ; x".toList))) ∧
      JudgedAlike
        (String.ofList ("SELECT 1 /*!50000 , 'a'".toList ++
          '/' :: '*' :: ("'; DROP TABLE d.t /*".toList ++
            '*' :: '/' :: " FROM d.u */ ; x".toList)))
        (String.ofList ("SELECT 1 /*!50000 , 'a'".toList ++
          '/' :: '*' :: ([] ++ '*' :: '/' :: " FROM d.u */ ; x".toList))) := by
  have hfront : endsUnquoted "SELECT 1 /*!50000 , 'a'".toList = true := by decide +kernel
  obtain ⟨hliteral, hcomment⟩ := judged_alike hfront " FROM d.u */ ; x".toList
  refine ⟨hfront, ?_, ?_⟩
  · exact hliteral '\'' (.inl rfl) (by decide) _ _ (by decide +kernel) rfl
  · exact hcomment (by decide) _ _ ⟨by decide +kernel, by decide⟩ ⟨by decide, by decide⟩

end SqlGateway.Scope
