import CodeAtlas.Search.Relevance

/-! Ranking: retrieved copies are put in the order of falling scores, those of equal score staying in
    the order of their retrieval, and of each record the first copy is kept. -/

namespace CodeAtlas.Search

structure Scored where
  record : Record
  score : Int
deriving DecidableEq, Repr

namespace Scored

def id (s : Scored) : Option String := s.record.id

/-- `a` may stand before `b`. -/
def before (a b : Scored) : Bool := b.score ≤ a.score

end Scored

/-- Drops every copy whose id is in `seen` or on a copy before it. -/
def firstPerId (seen : List (Option String)) : List Scored → List Scored
  | [] => []
  | s :: rest =>
    if seen.contains s.id then firstPerId seen rest else s :: firstPerId (s.id :: seen) rest

def rank (retrieved : List Scored) : List Scored :=
  firstPerId [] (retrieved.mergeSort Scored.before)

end CodeAtlas.Search
