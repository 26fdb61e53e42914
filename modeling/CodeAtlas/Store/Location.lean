import CodeAtlas.Basic
import CodeAtlas.FileTree.Locate
import CodeAtlas.Store.Fault
import CodeAtlas.Text.Case
import CodeAtlas.Text.Utf8

/-! Where a database is kept. A text names a file, or is an address: the word `file`, a colon, the name
    of a file and options that say how the file may be used. A database without a file is forgotten as
    soon as the work on it is done.

    The place of the file is found from the names alone: `..` takes back the name before it, whatever is
    there, and each link is put in the place of its name at once. -/

namespace CodeAtlas.Store

/-- How the file of a database may be used. -/
inductive Access where
  | readOnly
  | existing
  | creating
  | memory
deriving DecidableEq, Repr

namespace Access

def ofWord? : String → Option Access
  | "ro" => some .readOnly
  | "rw" => some .existing
  | "rwc" => some .creating
  | "memory" => some .memory
  | _ => none

/-- An option may take rights away from the one before it, and add none. -/
def permits : Access → Access → Bool
  | .readOnly, .existing | .readOnly, .creating | .existing, .creating => false
  | _, _ => true

end Access

structure Location where
  file : String
  access : Access := .creating
  /-- The way files are handled. -/
  system : String := "unix"
  /-- The file is promised not to change. -/
  isFixed : Bool := false
deriving DecidableEq, Repr

namespace Location

/-- The ways of handling files there are. The last of them has no files. -/
def systems : List String := ["unix", "unix-none", "unix-dotfile", "unix-excl", "memdb"]

/-- A number other than zero, or a word for yes. -/
def isYes (s : String) : Bool :=
  let digits := s.toList.takeWhile Char.isDigit
  if digits.isEmpty then ["on", "yes", "true"].contains (Text.lower s)
  else
    let n := Text.natOfDigits digits
    n < 2 ^ 31 && n % 256 ≠ 0

/-- A piece of an address, read up to an octet of zero. -/
def pieceText (cs : List Char) : String :=
  String.ofList (Text.Utf8.decodeLossy ((Text.percentOctets cs).takeWhile (· ≠ 0)))

/-- Takes an option into account; one that is not known does not matter. -/
def withOption (l : Location) (name value : String) : Except OpeningFault Location :=
  match name with
  | "vfs" => .ok { l with system := value }
  | "cache" =>
    if value = "shared" || value = "private" then .ok l else .error (.unknownMode "cache" value)
  | "mode" => match Access.ofWord? value with
    | none => .error (.unknownMode "access" value)
    | some access => if l.access.permits access then .ok { l with access } else .error (.forbiddenMode value)
  | _ => .ok l

/-- The options of an address, those without a name left out. -/
def options (cs : List Char) : List (String × String) :=
  ((Text.splitWhere (· == '&') cs).map fun part =>
    (pieceText (part.takeWhile (· ≠ '=')), pieceText ((part.dropWhile (· ≠ '=')).drop 1))).filter fun o =>
      !o.1.isEmpty

/-- The location that an address means, of which only what stands before a number sign counts. -/
def ofAddress (cs : List Char) : Except OpeningFault Location :=
  let cs := cs.takeWhile (· ≠ '#')
  let given := options ((cs.dropWhile (· ≠ '?')).drop 1)
  let start : Location := {
    file := pieceText (cs.takeWhile (· ≠ '?'))
    isFixed := ((given.find? fun o => o.1 == "immutable").map fun o => isYes o.2).getD false }
  match given.foldlM (fun l o => withOption l o.1 o.2) start with
  | .error fault => .error fault
  | .ok l => if systems.contains l.system then .ok l else .error (.unknownSystem l.system)

def ofText (s : String) : Except OpeningFault Location :=
  match s.toList with
  | 'f' :: 'i' :: 'l' :: 'e' :: ':' :: rest => ofAddress rest
  | _ => .ok { file := s }

/-- No file belongs to the database. -/
def isPassing (l : Location) : Bool :=
  l.file.isEmpty || l.file == ":memory:" || l.access = .memory || l.system == "memdb"

/-! ### The place of a file -/

/-- The octets of the whole path to a place. -/
def placeSize (p : Place) : Nat := (p.map fun name => name.utf8ByteSize + 1).sum

/-- On the way a path may take this many octets. -/
def wayLimit : Nat := 511

/-- At the end this many have to be left for the name of a companion file. -/
def companionSize : Nat := 8

/-- This many links may be met on the way. -/
def linkLimit : Nat := 201

/-- A name can be looked for in the directory at a place. Where nothing is, nothing is found. -/
def admits (t : FileTree) (dir : Place) (name : String) : Bool :=
  placeSize dir + name.utf8ByteSize + 1 ≤ wayLimit && match t.entry? dir with
    | some .directory => name.utf8ByteSize ≤ FileTree.nameLimit
    | some _ => false
    | none => true

/-- The place that names lead to. -/
def placeFrom (t : FileTree) (links : Nat) (dir : Place) (names : List String) : Option Place :=
  match names with
  | [] => some dir
  | name :: rest =>
    if name = "." then placeFrom t links dir rest
    else if name = ".." then placeFrom t links dir.dropLast rest
    else if admits t dir name then
      match t.entry? (dir ++ [name]), links with
      | some (.link _), 0 => none
      | some (.link target), links + 1 =>
        placeFrom t links (if FileTree.startsAtRoot target then [] else dir) (FileTree.targetNames target ++ rest)
      | _, links => placeFrom t links (dir ++ [name]) rest
    else none
termination_by (links, names.length)

/-- The place of the file, if it can be told and is not the root. -/
def place? (l : Location) (t : FileTree) (here : Place) : Option Place :=
  let start := if FileTree.startsAtRoot l.file then [] else here
  (placeFrom t linkLimit start (FileTree.targetNames l.file)).filter fun p =>
    !p.isEmpty && placeSize p + companionSize ≤ wayLimit + 1

/-- Beside the file goes a companion, whose name has to be a name too. -/
def hasRoomBeside (p : Place) : Bool :=
  (p.getLast?.getD "").utf8ByteSize + companionSize ≤ FileTree.nameLimit

end Location

end CodeAtlas.Store
