import CodeAtlas.Failure
import CodeAtlas.FileTree.Resolve
import CodeAtlas.Store.Draft
import CodeAtlas.Store.Location

/-! A record store in a database. A database is empty until it is given its table; after that it holds
    the records. -/

namespace CodeAtlas

/-- A database: its table, once there is one. -/
abbrev Database := Option Store.Table

namespace Database

open Store

/-- Gives a database its table; one that has it stays as it is. -/
def withTable (db : Database) : Database := some (db.getD {})

/-- The first `limit` records whose keywords or description contain the term. -/
def find (db : Database) (term : Option String) (limit : Int) : Except Failure (List Record) :=
  match db with
  | none => .error (.store (.lookingUpTerm term .noTable))
  | some table =>
    if fitsWord limit then (Table.records (table.matching term limit)).mapError .timestamp
    else .error .limitTooLarge

def get? (db : Database) (id : Option String) : Except Failure (Option Record) :=
  match db with
  | none => .error (.store (.lookingUpId id .noTable))
  | some table => match table.row? id with
    | none => .ok none
    | some row => ((Table.record row).map some).mapError .timestamp

/-- Writes a record and tells whether its id is new. A record that is refused changes nothing. -/
def upsert (db : Database) (now : Timestamp) (r : Record) : Except Failure (Bool × Database) :=
  match db with
  | none => .error (.store (.writing r.id .noTable))
  | some table => match table.upsert now r with
    | .error v => .error (.store (.writing r.id (.violation v)))
    | .ok (isNew, table) => .ok (isNew, some table)

/-! ### Open databases -/

/-- Why a text cannot be handed to a database, when texts may hold halves of pairs. -/
def handingFault? (halves : Bool) (s : Option String) : Option Failure :=
  if halves then (s.bind fun s => Text.Surrogate.refusal? s.toList).map .unencodable else none

/-- Why the texts of a record cannot be handed to a database, the id first. -/
def refusedText? (halves : Bool) (r : Record) : Option Failure :=
  [r.id, r.content, r.description, r.keywords].findSome? (handingFault? halves)

/-- A database as it was opened. -/
structure Connection where
  /-- Where the database is kept, unless it is forgotten after the work on it. -/
  place : Option Place
  /-- Nothing where the file holds something else than a database. -/
  content : Option Database
  /-- Why nothing can be written, if so. -/
  hindrance : Option DatabaseFault := none
  /-- Texts may hold halves of pairs, which the database does not take. -/
  halves : Bool := false

namespace Connection

/-- The table to read from. -/
def readable (c : Connection) : Except DatabaseFault Table :=
  match c.content with
  | none => .error .notDatabase
  | some none => .error .noTable
  | some (some table) => .ok table

/-- The table to write to. -/
def writable (c : Connection) : Except DatabaseFault Table :=
  match c.readable, c.hindrance with
  | .ok _, some hindrance => .error hindrance
  | found, _ => found

/-- Gives the database its table. Where it is already there nothing is written. -/
def withTable (c : Connection) : Except DatabaseFault Database :=
  match c.content, c.hindrance with
  | none, _ => .error .notDatabase
  | some none, some hindrance => .error hindrance
  | some db, _ => .ok (Database.withTable db)

def find (c : Connection) (term : Option String) (limit : Int) : Except Failure (List Record) :=
  match c.readable with
  | .error fault => .error (.store (.lookingUpTerm term fault))
  | .ok table =>
    match handingFault? c.halves term with
    | some f => .error f
    | none => Database.find (some table) term limit

def get? (c : Connection) (id : Option String) : Except Failure (Option Record) :=
  match c.readable with
  | .error fault => .error (.store (.lookingUpId id fault))
  | .ok table =>
    match handingFault? c.halves id with
    | some f => .error f
    | none => Database.get? (some table) id

/-- Writes a record. Its texts are handed over before anything is written. -/
def upsert (c : Connection) (now : Timestamp) (r : Record) : Except Failure (Bool × Database) :=
  match c.readable with
  | .error fault => .error (.store (.writing r.id fault))
  | .ok _ =>
    match refusedText? c.halves r with
    | some f => .error f
    | none => match c.writable with
      | .error fault => .error (.store (.writing r.id fault))
      | .ok table => Database.upsert (some table) now r

/-- Puts a row of values into the table as it is. The values are looked at only where there is a table. -/
def insertRow (c : Connection) (values : List Value) : Except Failure Database :=
  match c.readable, Draft.ofValues values, c.writable with
  | .error fault, _, _ => .error (.database fault)
  | .ok _, .error fault, _ => .error (.cell fault)
  | .ok _, .ok _, .error fault => .error (.database fault)
  | .ok _, .ok draft, .ok table => match table.insert draft with
    | .error v => .error (.database (.violation v))
    | .ok table => .ok (some table)

end Connection

/-- What a file holds as a database. A file with no more than one octet counts as empty, and so is its
    database. -/
def ofContent : Content → Option Database
  | .database db => some db
  | .octets bytes => if bytes.length ≤ 1 then some none else none

/-- Opens the database in a file. A file that is not there is created empty if that is allowed and its
    directory is there. -/
def openFile (t : FileTree) (here : Place) (l : Location) : Except OpeningFault (Connection × FileTree) :=
  let hindrance := if l.access = .readOnly || l.isFixed then some DatabaseFault.readOnly else none
  match l.place? t here with
  | none => .error .unavailable
  | some place =>
    let hindrance := hindrance.or (if Location.hasRoomBeside place then none else some .unavailable)
    match t.entry? place with
    | some (.file content) => .ok ({ place, content := ofContent content, hindrance }, t)
    | some .directory => .error (if l.access = .readOnly then .unreadable else .unavailable)
    | some (.link _) => .error .unavailable
    | none =>
      if l.access = .creating && t.entry? place.dropLast = some .directory then
        .ok ({ place, content := some none, hindrance }, t.put place (.file (.database none)))
      else .error .unavailable

/-- Opens the database that a text means. -/
def openText (t : FileTree) (here : Place) (s : String) : Except OpeningFault (Connection × FileTree) :=
  match Location.ofText s with
  | .error fault => .error fault
  | .ok l =>
    if l.isPassing then
      let hindrance := if l.access = .readOnly then some DatabaseFault.readOnly else none
      .ok ({ place := none, content := some none, hindrance }, t)
    else openFile t here l

/-- Opens the database that a path means. -/
def connect (t : FileTree) (here : Place) (p : Path) : Except Failure (Connection × FileTree) :=
  if p.text.toList.contains '\x00' then .error (.file ⟨.nullCharacter, p.text⟩)
  else (openText t here p.text).mapError fun fault => .store (.opening p fault)

/-- Leaves a database at its place, if it has one. -/
def kept (place : Option Place) (db : Database) (t : FileTree) : FileTree :=
  match place with
  | none => t
  | some place => t.put place (.file (.database db))

/-! ### Preparing a database -/

/-- Makes a directory at the end of a path, where nothing may be yet and whose parent has to be there. -/
def makeDirectory (t : FileTree) (here : Place) (p : Path) : Except FileFault FileTree :=
  match t.locate here false p with
  | .ok _ => .error ⟨.exists, p.text⟩
  | .error ⟨.missing, path⟩ =>
    match t.locate here true p.parent with
    | .ok ⟨place, .directory⟩ =>
      if p.name = ".." then .error ⟨.missing, path⟩ else .ok (t.put (place ++ [p.name]) .directory)
    | .ok _ => .error ⟨.notDirectory, path⟩
    | .error f => .error ⟨f.kind, path⟩
  | .error f => .error f

/-- A fault in making a directory does not matter where a directory is. -/
def unlessDirectory (t : FileTree) (here : Place) (p : Path) (f : FileFault) : Except FileFault Unit :=
  match t.isDirectory here p with
  | .ok true => .ok ()
  | .ok false => .error f
  | .error f => .error f

/-- Makes a directory and the directories above it, as far as they are missing; at most `depth` of
    them. Those that were made stay even if one cannot be made. -/
def makeDirectories (here : Place) : Nat → FileTree → Path → Except FileFault Unit × FileTree
  | depth, t, p =>
    match makeDirectory t here p with
    | .ok t => (.ok (), t)
    | .error ⟨.missing, path⟩ =>
      match depth with
      | 0 => (.error ⟨.missing, path⟩, t)
      | depth + 1 =>
        if p.parent = p then (.error ⟨.missing, path⟩, t)
        else match makeDirectories here depth t p.parent with
          | (.error f, t) => (.error f, t)
          | (.ok (), t) => match makeDirectory t here p with
            | .ok t => (.ok (), t)
            | .error ⟨.missing, path⟩ => (.error ⟨.missing, path⟩, t)
            | .error f => (unlessDirectory t here p f, t)
    | .error f => (unlessDirectory t here p f, t)

/-- Makes the directory of a database file, opens the file and gives it its table. -/
def prepare (t : FileTree) (here : Place) (p : Path) : Except Failure Unit × FileTree :=
  match makeDirectories here p.names.length t p.parent with
  | (.error f, t) => (.error (.file f), t)
  | (.ok (), t) => match connect t here p with
    | .error f => (.error f, t)
    | .ok (connection, t) => match connection.withTable with
      | .error fault => (.error (.store (.initializing fault)), t)
      | .ok db => (.ok (), kept connection.place db t)

end Database

end CodeAtlas
