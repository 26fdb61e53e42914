import CodeAtlas.Journal
import CodeAtlas.Search.Lookup
import CodeAtlas.Search.Ranking
import CodeAtlas.Search.Terms
import CodeAtlas.Text.Quoted
import CodeAtlas.Basic

/-! The search itself: terms, lookups, scores, ranking. -/

namespace CodeAtlas.Search

/-- What a search is set up with. -/
structure Engine where
  config : Config := {}
  weights : Weights := {}
  /-- The score of every retrieved copy is noted down. -/
  notesScores : Bool := true

/-- A search as it went: its terms, the lookups made, and the scored copies in the order of their
    retrieval unless a lookup failed. -/
structure Report (ε : Type) where
  query : String
  terms : List String
  lookups : List Lookup
  retrieved : Except ε (List Scored)

namespace Report

variable {ε : Type}

/-- The ranked records, each once. -/
def hits (r : Report ε) : Except ε (List Scored) := r.retrieved.map rank

/-- The part of the program that the notes of a search belong to. -/
def source : String := "repomap.retrieval.search"

def scoreNote (source : String) (id : Option String) (score : Int) : Note :=
  ⟨.debug, source, "Relevance: " ++ id.getD "None" ++ " - " ++ toString score⟩

/-- What is noted down of a search. -/
def notes (r : Report ε) (withScores : Bool) : List Note :=
  if r.terms.isEmpty then
    [⟨.debug, source, "No search terms in query " ++ Text.quoted (Text.takeChars 120 r.query)⟩]
  else
    ⟨.debug, source, "Searching terms: [" ++ ", ".intercalate (r.terms.map Text.quoted) ++ "]"⟩ ::
      match r.retrieved with
      | .error _ => []
      | .ok scored =>
        (if withScores then scored.map fun s => scoreNote source s.id s.score else []) ++
          [⟨.info, source, "Found " ++ toString (rank scored).length ++ " unique results for " ++
            toString r.terms.length ++ " terms"⟩]

end Report

namespace Engine

variable {ε : Type}

/-- Looks the terms up. The outcome of a lookup may depend on its place among the terms; `order` is
    the one in which outcomes arrive when all lookups are made at once. -/
def retrieve (e : Engine) (terms : List String) (outcome : Nat → Lookup → Except ε (List Record))
    (order : List Nat) : Retrieval ε :=
  let lookups := terms.map fun t => Lookup.mk t e.config.perTermLimit
  let outcomes := lookups.mapIdx outcome
  if e.config.concurrent then atOnce lookups outcomes order else inTurn lookups outcomes

/-- A search whose lookups end as `outcome` says and, when made at once, in the given order. A query
    without terms makes no lookup. -/
def searchWith (e : Engine) (outcome : Nat → Lookup → Except ε (List Record))
    (order : List Nat) (query : String) : Report ε :=
  let terms := e.config.terms query
  let retrieval := e.retrieve terms outcome order
  { query, terms
    lookups := retrieval.lookups
    retrieved := retrieval.found.map fun records =>
      records.map fun r => ⟨r, score e.weights r terms⟩ }

/-- A search of a store that answers every lookup by `find`. -/
def search (e : Engine) (find : String → Int → Except ε (List Record)) (query : String) : Report ε :=
  e.searchWith (fun _ l => find l.term l.limit) (List.range (e.config.terms query).length) query

end Engine

end CodeAtlas.Search
