import CodeAtlas.Text.Blank
import CodeAtlas.Text.Case
import CodeAtlas.Basic
import CodeAtlas.Value.Misuse

/-! Keywords as a list of tags: trimmed, none of them empty, none of them twice in whatever letter
    case. -/

namespace CodeAtlas.Index

/-- The tags that are no repetition of one in `seen` (in lower case) or of one before them. -/
def distinctTags (seen : List String) : List String → List String
  | [] => []
  | tag :: rest =>
    if seen.contains (Text.lower tag) then distinctTags seen rest
    else tag :: distinctTags (Text.lower tag :: seen) rest

/-- The parts between commas, trimmed, without empty ones. -/
def tagParts (raw : String) : List String :=
  ((Text.commaParts raw).map Text.trim).filter fun tag => !tag.isEmpty

/-- The first `limit` tags of `raw`. -/
def tags (raw : String) (limit : Int) : List String := Text.takeUpTo limit (distinctTags [] (tagParts raw))

/-- Keywords in their normal form. -/
def normalizeKeywords (raw : String) (limit : Int) : String := ", ".intercalate (tags raw limit)

/-- Keywords in their normal form, when they and the limit may be values of any type. The limit is looked
    at last. -/
def normalizeValues (raw limit : Value) : Except Misuse String :=
  (raw.textFor "split").bind fun raw =>
    (limit.takeOf (distinctTags [] (tagParts raw))).map fun tags => ", ".intercalate tags

end CodeAtlas.Index
