import Mathlib.Data.List.Infix

/-
  SQLite's `LIKE` on texts as lists of characters: `%` stands
  for any text, `_` for any character, and the case of an
  ASCII letter does not matter.

  Key definitions: `SqlText.like`
-/

----
-- Patterns
----

namespace SqlText

/- `text LIKE pattern`. -/
def like : List Char → List Char → Bool
| [], text => text.isEmpty
| '%' :: pattern, text => text.tails.any (like pattern)
| '_' :: pattern, _ :: text => like pattern text
| '_' :: _, [] => false
| c :: pattern, d :: text => c.toLower == d.toLower && like pattern text
| _ :: _, [] => false

end SqlText
