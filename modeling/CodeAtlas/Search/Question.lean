import CodeAtlas.Failure
import CodeAtlas.Search.Engine

/-! Queries of any type. Only a text has terms; of anything else nothing is looked up. -/

namespace CodeAtlas.Search

/-- How many items a value has that is no text. -/
def lengthOf : Value → Except Misuse Nat
  | .list items => .ok items.length
  | .object fields => .ok fields.length
  | v => .error (.length v.typeName)

/-- The terms of a query. What counts as false has none, and neither has what is too long. -/
def Config.termsOf (c : Config) : Value → Except Misuse (List String)
  | .text s => .ok (c.terms s)
  | v =>
    if v.isEmptyLike then .ok []
    else (lengthOf v).bind fun n =>
      if c.maxQueryLength < n then .ok [] else .error (.operation v.typeName "lower")

/-- What is noted down of a query without terms: only the start of it is shown. -/
def idleNote : Value → Except Failure Note
  | .text s => .ok (note (Text.quoted (Text.takeChars 120 s)))
  | .list items => .ok (note (Value.list (items.take 120)).shown)
  | .object _ => .error (.arguments (.unusableName "slice"))
  | v => .error (.misuse (.stretch v.typeName))
where
  note (shown : String) : Note := ⟨.debug, Report.source, "No search terms in query " ++ shown⟩

/-- The note of a search by something that is no text; it finds nothing. -/
def Config.idleSearch (c : Config) (query : Value) : Except Failure Note :=
  ((c.termsOf query).mapError .misuse).bind fun _ => idleNote query

end CodeAtlas.Search
