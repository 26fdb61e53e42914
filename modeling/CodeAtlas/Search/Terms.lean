import CodeAtlas.Text.Blank
import CodeAtlas.Text.Case

/-! From a query to its terms. -/

namespace CodeAtlas.Search

/-- Stated on its own, so that the usual configuration is the same term wherever it is written. -/
theorem one_le_usualLength : 1 ≤ 100 := by decide

/-- Stated on its own for the same reason. -/
theorem one_le_usualLimit : 1 ≤ 3 := by decide

/-- How queries are guarded and how many records one term may contribute. -/
structure Config where
  maxQueryLength : Nat := 100
  perTermLimit : Nat := 3
  concurrent : Bool := false
  one_le_maxQueryLength : 1 ≤ maxQueryLength := by first | exact CodeAtlas.Search.one_le_usualLength | decide
  one_le_perTermLimit : 1 ≤ perTermLimit := by first | exact CodeAtlas.Search.one_le_usualLimit | decide

namespace Config

/-- The lower-cased words of a query, repetitions included. An empty query and one that is too long
    have none. -/
def terms (c : Config) (query : String) : List String :=
  if query.isEmpty || c.maxQueryLength < query.length then [] else Text.words (Text.lower query)

end Config

end CodeAtlas.Search
