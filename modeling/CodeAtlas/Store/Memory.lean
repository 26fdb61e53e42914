import CodeAtlas.Text.Case
import CodeAtlas.Time.Timestamp

/-! The entries of source files, and a store that keeps them in a list, in the order in which their ids first came. -/

namespace CodeAtlas

/-- The entry of one source file, known by the path of its file: an outline of the file, a description and keywords.
    Every text may be absent, although a store that keeps tables takes an entry only if nothing but its id is
    absent. -/
structure Record where
  id : Option String
  content : Option String
  description : Option String
  keywords : Option String
  created : Timestamp
  updated : Timestamp
deriving DecidableEq, Repr

namespace Store

/-- A text contains a term: in lower case both, as a stretch of neighbouring characters. -/
def containsTerm (text term : String) : Bool :=
  Text.occursIn (Text.lowerChars term.toList) (Text.lowerChars text.toList)

/-- A text that a comparison needs is absent. -/
inductive AbsentText where
  | absentText
deriving DecidableEq, Repr

structure Memory where
  records : List Record := []

namespace Memory

def get? (m : Memory) (id : Option String) : Option Record := m.records.find? fun r => r.id == id

/-- Puts `r` in the place of the record with its id, or at the end. -/
def put (m : Memory) (r : Record) : Memory :=
  if m.records.any fun old => old.id == r.id then
    ⟨m.records.map fun old => if old.id == r.id then r else old⟩
  else ⟨m.records ++ [r]⟩

/-- Of records with equal ids the last one counts, at the place of the first. -/
def ofList (rs : List Record) : Memory := rs.foldl put {}

/-- Puts a record, and tells whether its id is new. A known record keeps the time of its creation and
    takes `now` as the time of its change. -/
def upsert (m : Memory) (now : Timestamp) (r : Record) : Bool × Memory :=
  match m.get? r.id with
  | none => (true, m.put r)
  | some old => (false, m.put { r with created := old.created, updated := now })

/-- The description is looked at only where the keywords do not match. -/
def matchesTerm (term : String) (r : Record) : Except AbsentText Bool :=
  match r.keywords with
  | none => .error .absentText
  | some keywords =>
    if containsTerm keywords term then .ok true
    else match r.description with
      | none => .error .absentText
      | some description => .ok (containsTerm description term)

/-- The records that match, in order. -/
def matching (term : String) : List Record → Except AbsentText (List Record)
  | [] => .ok []
  | r :: rest => match matchesTerm term r with
    | .error e => .error e
    | .ok hit => match matching term rest with
      | .error e => .error e
      | .ok found => .ok (if hit then r :: found else found)

/-- The first `limit` records that match the term. -/
def find (m : Memory) (term : Option String) (limit : Int) : Except AbsentText (List Record) :=
  match term with
  | none => .error .absentText
  | some term => (matching term m.records).map (Text.takeUpTo limit)

end Memory

end Store

end CodeAtlas
