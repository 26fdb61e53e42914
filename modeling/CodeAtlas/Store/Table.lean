import CodeAtlas.Store.Memory
import CodeAtlas.Time.Reader

/-! A table of records. Every column but the id must hold a text, ids that are present are unique, rows
    without an id are never taken for one another, and times are kept as texts, to be read again with
    every record that is taken out. -/

namespace CodeAtlas.Store

structure Row where
  id : Option String
  content : String
  description : String
  keywords : String
  created : String
  updated : String
deriving DecidableEq, Repr

inductive Column where
  | id
  | content
  | description
  | keywords
  | created
  | updated
deriving DecidableEq, Repr

def Column.name : Column → String
  | .id => "id"
  | .content => "content"
  | .description => "description"
  | .keywords => "keywords"
  | .created => "created_at"
  | .updated => "updated_at"

/-- Why the table refuses a row. -/
inductive Violation where
  | absent (column : Column)
  | duplicate
deriving DecidableEq, Repr

def Violation.message : Violation → String
  | .absent column => "NOT NULL constraint failed: indexing." ++ column.name
  | .duplicate => "UNIQUE constraint failed: indexing.id"

/-- A row as it is handed in, before the columns are checked. -/
structure Draft where
  id : Option String
  content : Option String
  description : Option String
  keywords : Option String
  created : Option String
  updated : Option String
deriving DecidableEq, Repr

/-- The row, or the first column that lacks its text. -/
def Draft.complete : Draft → Except Violation Row
  | ⟨_, none, _, _, _, _⟩ => .error (.absent .content)
  | ⟨_, some _, none, _, _, _⟩ => .error (.absent .description)
  | ⟨_, some _, some _, none, _, _⟩ => .error (.absent .keywords)
  | ⟨_, some _, some _, some _, none, _⟩ => .error (.absent .created)
  | ⟨_, some _, some _, some _, some _, none⟩ => .error (.absent .updated)
  | ⟨id, some content, some description, some keywords, some created, some updated⟩ =>
    .ok ⟨id, content, description, keywords, created, updated⟩

structure Table where
  rows : List Row := []
deriving DecidableEq, Repr

namespace Table

def holds (t : Table) (id : Option String) : Bool := id.isSome && t.rows.any fun r => r.id == id

/-- Adds a row at the end. -/
def insert (t : Table) (d : Draft) : Except Violation Table :=
  match d.complete with
  | .error e => .error e
  | .ok row => if t.holds row.id then .error .duplicate else .ok ⟨t.rows ++ [row]⟩

/-- Replaces the texts and the time of change of the row of a record, in its place. -/
def update (t : Table) (r : Record) (now : String) : Except Violation Table :=
  if t.holds r.id then
    match r.content, r.description, r.keywords with
    | none, _, _ => .error (.absent .content)
    | some _, none, _ => .error (.absent .description)
    | some _, some _, none => .error (.absent .keywords)
    | some content, some description, some keywords =>
      .ok ⟨t.rows.map fun row =>
        if row.id == r.id then { row with content, description, keywords, updated := now } else row⟩
  else .ok t

/-- The writing half of an upsert, once it has been found out whether the id is there. -/
def write (t : Table) (present : Bool) (r : Record) (now : String) : Except Violation Table :=
  if present then t.update r now
  else t.insert ⟨r.id, r.content, r.description, r.keywords, some now, some now⟩

/-- Writes a record, and tells whether its id is new. -/
def upsert (t : Table) (now : Timestamp) (r : Record) : Except Violation (Bool × Table) :=
  let present := t.holds r.id
  (t.write present r now.text).map fun written => (!present, written)

/-- The record of a row, whose times may be no times. -/
def record (row : Row) : Except Timestamp.Refusal Record :=
  match Timestamp.ofText row.created with
  | .error e => .error e
  | .ok created => match Timestamp.ofText row.updated with
    | .error e => .error e
    | .ok updated =>
      .ok ⟨row.id, some row.content, some row.description, some row.keywords, created, updated⟩

def records : List Row → Except Timestamp.Refusal (List Record)
  | [] => .ok []
  | row :: rest => match record row with
    | .error e => .error e
    | .ok r => match records rest with
      | .error e => .error e
      | .ok rs => .ok (r :: rs)

/-- An absent term matches nothing. -/
def matchesTerm (term : Option String) (row : Row) : Bool :=
  match term with
  | none => false
  | some term => containsTerm row.keywords term || containsTerm row.description term

/-- The first `limit` rows that match, in the order of their insertion; all of them when the limit is
    negative. -/
def matching (t : Table) (term : Option String) (limit : Int) : List Row :=
  let found := t.rows.filter (matchesTerm term)
  if limit < 0 then found else found.take limit.toNat

def row? (t : Table) (id : Option String) : Option Row :=
  match id with
  | none => none
  | some id => t.rows.find? fun r => r.id == some id

end Table

end CodeAtlas.Store
