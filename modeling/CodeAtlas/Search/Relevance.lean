import CodeAtlas.Basic
import CodeAtlas.Store.Memory
import CodeAtlas.Text.Case

/-! How well a record answers a list of terms. -/

namespace CodeAtlas.Search

/-- What a term earns points for: a match in the keywords, one in the description, and on top of them a
    match in both. -/
inductive Award where
  | keyword
  | description
  | both
deriving DecidableEq, Repr

def Award.name : Award → String
  | .keyword => "keyword"
  | .description => "description"
  | .both => "both"

/-- The points of each award. -/
structure Weights where
  keyword : Int := 4
  description : Int := 2
  both : Int := 2
deriving DecidableEq, Repr

namespace Weights

def of (w : Weights) : Award → Int
  | .keyword => w.keyword
  | .description => w.description
  | .both => w.both

end Weights

/-- The awards of one term, in order. -/
def termAwards (inKeywords inDescription : Bool) : List Award :=
  (if inKeywords then [.keyword] else []) ++ (if inDescription then [.description] else []) ++
    (if inKeywords && inDescription then [.both] else [])

/-- A text in lower case; an absent one counts as empty. -/
def folded (s : Option String) : List Char := Text.lowerChars (s.getD "").toList

/-- The awards of a record for all terms, each as often as it stands in the list. The terms are taken as
    they are: only the record is lower-cased. -/
def awards (r : Record) (terms : List String) : List Award :=
  let keywords := folded r.keywords
  let description := folded r.description
  terms.flatMap fun t =>
    termAwards (Text.occursIn t.toList keywords) (Text.occursIn t.toList description)

/-- The points of all awards together. -/
def score (w : Weights) (r : Record) (terms : List String) : Int := ((awards r terms).map w.of).sum

end CodeAtlas.Search
