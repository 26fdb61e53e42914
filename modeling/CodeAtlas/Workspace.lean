import CodeAtlas.Index.Run
import CodeAtlas.Search.Engine
import CodeAtlas.Store.Database
import CodeAtlas.Store.Memory
import CodeAtlas.Store.Query
import CodeAtlas.Time.Clock
import CodeAtlas.Tool.Builtin

/-! A place to work in: a tree of files seen from one directory, a record store, a clock, and the notes
    made so far. -/

namespace CodeAtlas

/-- A record store: in memory, or in a database at a path of the tree. -/
inductive RecordStore where
  | memory (records : Store.Memory)
  | database (path : Path)

structure Workspace where
  tree : FileTree := {}
  here : Place := []
  store : RecordStore := .memory {}
  clock : Clock := {}
  /-- The notes, the newest first. -/
  journal : List Note := []
  /-- Texts with halves of pairs have come in. -/
  halves : Bool := false

namespace Workspace

instance : Journal Workspace where
  add notes w := { w with journal := notes.reverse ++ w.journal }

/-- The notes in the order in which they were made. -/
def notes (w : Workspace) : List Note := w.journal.reverse

def readClock (w : Workspace) : Timestamp × Workspace := (w.clock.now, { w with clock := w.clock.tick })

/-! ### The store -/

/-- Work on an open database, which may leave another in its place. -/
def onDatabase {α : Type} (w : Workspace) (path : Path)
    (work : Database.Connection → Except Failure (α × Option Database)) : Except Failure α × Workspace :=
  match Database.connect w.tree w.here path with
  | .error f => (.error f, w)
  | .ok (connection, tree) =>
    let w := { w with tree }
    match work { connection with halves := w.halves } with
    | .error f => (.error f, w)
    | .ok (a, none) => (.ok a, w)
    | .ok (a, some db) =>
      (.ok a, { w with tree := Database.kept connection.place db tree })

/-- Makes the store ready for records. A store in memory always is, and does not offer it. -/
def prepareStore (w : Workspace) : Except Failure Unit × Workspace :=
  match w.store with
  | .memory _ => (.error (.notOffered "initialize"), w)
  | .database path =>
    let (done, tree) := Database.prepare w.tree w.here path
    (done, { w with tree })

/-- The first `limit` records that match a term. -/
def find (w : Workspace) (term : Option String) (limit : Int) : Except Failure (List Record) × Workspace :=
  match w.store with
  | .memory m => ((m.find term limit).mapError fun _ => .absentText, w)
  | .database path => w.onDatabase path fun c => (c.find term limit).map fun found => (found, none)

def get? (w : Workspace) (id : Option String) : Except Failure (Option Record) × Workspace :=
  match w.store with
  | .memory m => (.ok (m.get? id), w)
  | .database path => w.onDatabase path fun c => (c.get? id).map fun found => (found, none)

/-- The records that a look-up of any kind asks for. -/
def findBy (w : Workspace) (q : Query) : Except Failure (List Record) × Workspace :=
  match q.plain?, w.store with
  | some (term, limit), _ => w.find term limit
  | none, .memory m => (q.ofMemory m, w)
  | none, .database path => w.onDatabase path fun c => (q.ofDatabase c).map fun found => (found, none)

/-- The record whose id is a value of any type. -/
def getBy (w : Workspace) (id : Value) : Except Failure (Option Record) × Workspace :=
  match w.store with
  | .memory m => (Query.idOfMemory id m, w)
  | .database path => w.onDatabase path fun c => (Query.idOfDatabase id c).map fun found => (found, none)

/-- Writes a record, and tells whether its id is new. -/
def upsert (w : Workspace) (r : Record) : Except Failure Bool × Workspace :=
  match w.store with
  | .memory m =>
    if (m.get? r.id).isSome then
      let (now, w) := w.readClock
      let (isNew, m) := m.upsert now r
      (.ok isNew, { w with store := .memory m })
    else
      let (isNew, m) := m.upsert w.clock.now r
      (.ok isNew, { w with store := .memory m })
  | .database path =>
    let (now, w) := w.readClock
    w.onDatabase path fun c => (c.upsert now r).map fun (isNew, db) => (isNew, some db)

/-- Writes records in order, up to the first failure. -/
def upsertAll (w : Workspace) : List Record → Except Failure Unit × Workspace
  | [] => (.ok (), w)
  | r :: rest => match w.upsert r with
    | (.error f, w) => (.error f, w)
    | (.ok _, w) => w.upsertAll rest

/-- Puts a row of values into the table of the database as it is. -/
def insertRow (w : Workspace) (values : List Value) : Except Failure Unit × Workspace :=
  match w.store with
  | .memory _ => (.error (.notOffered "_connect"), w)
  | .database path => w.onDatabase path fun c => (c.insertRow values).map fun db => ((), some db)

/-! ### Searching and reading -/

/-- Answers a lookup as it would be answered now. -/
def answer (w : Workspace) (term : String) (limit : Int) : Except Failure (List Record) :=
  (w.find (some term) limit).1

/-- A search whose lookups are answered by `answer`. -/
def searchBy (answer : Workspace → String → Int → Except Failure (List Record)) (e : Search.Engine)
    (query : String) (w : Workspace) : Search.Report Failure × Workspace :=
  let report := e.search (answer w) query
  let w := match report.lookups with
    | [] => w
    | l :: _ => (w.find (some l.term) l.limit).2
  (report, Journal.add (report.notes e.notesScores) w)

/-- The hits of a search. -/
def hitsBy (answer : Workspace → String → Int → Except Failure (List Record)) (e : Search.Engine)
    (query : String) (w : Workspace) : Except Failure (List Search.Scored) × Workspace :=
  let (report, w) := searchBy answer e query w
  (report.hits, w)

/-- The files below a path, when the path and the suffixes may be values of any type. The suffixes are
    looked at only where the path leads to a directory. -/
def collectBy (w : Workspace) (path suffixes : Value) : Except Failure (List Path) := do
  let path ← path.pathText.mapError .misuse
  let below := fun words => (w.tree.collect w.here path words).mapError fun f => .index (.collecting f)
  let _ ← below []
  match w.tree.probe w.here (Path.ofText path), suffixes.items? with
  | .ok (some (.file _)), _ => below []
  | _, none => match suffixes with
    | .null => below []
    | v => .error (.arguments (.noItems v.typeName))
  | _, some items => below (← items.mapM fun v => (v.textFor "lower").mapError .misuse)

/-- The answer to a request for a file. -/
def describeFile (w : Workspace) (target : String) : Except FileFault String :=
  w.tree.describeFile w.here target

/-- The tools over the workspace, searching as the engine does. -/
def toolsBy (answer : Workspace → String → Int → Except Failure (List Record)) (e : Search.Engine) :
    Tool.Registry Workspace :=
  Tool.builtin describeFile (hitsBy answer e)

end Workspace

end CodeAtlas
