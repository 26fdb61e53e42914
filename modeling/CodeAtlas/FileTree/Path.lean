import CodeAtlas.Text.Blank

/-! Paths as they are written: where they start and the names that follow. Empty names and the name
    `.` drop out; the name `..` stays. -/

namespace CodeAtlas

/-- Where a path starts. Two slashes, and only two, are a start of their own. -/
inductive Start where
  | here
  | root
  | doubleRoot
deriving DecidableEq, Repr

def Start.text : Start → String
  | .here => ""
  | .root => "/"
  | .doubleRoot => "//"

structure Path where
  start : Start
  names : List String
deriving DecidableEq, Repr

namespace Path

def startOf : List Char → Start
  | '/' :: '/' :: '/' :: _ => .root
  | '/' :: '/' :: _ => .doubleRoot
  | '/' :: _ => .root
  | _ => .here

/-- The parts of a text between its slashes that are names. -/
def namesOf (s : String) : List String :=
  ((Text.splitWhere (· == '/') s.toList).filter fun part => !part.isEmpty && part ≠ ['.']).map String.ofList

def ofText (s : String) : Path := ⟨startOf s.toList, namesOf s⟩

def text (p : Path) : String :=
  match p.start, p.names with
  | .here, [] => "."
  | start, names => start.text ++ "/".intercalate names

def child (p : Path) (name : String) : Path := { p with names := p.names ++ [name] }

/-- The path without its last name; a path without names is its own parent. -/
def parent (p : Path) : Path := { p with names := p.names.dropLast }

def name (p : Path) : String := p.names.getLast?.getD ""

def isAbsolute (p : Path) : Bool := p.start ≠ .here

/-- What a name ends in, from its last point on; a point at either end begins no suffix. -/
def suffixChars (name : List Char) : List Char :=
  let tail := name.reverse.takeWhile (· ≠ '.')
  if tail.isEmpty || name.length ≤ tail.length + 1 then []
  else '.' :: tail.reverse

def suffix (p : Path) : String := String.ofList (suffixChars p.name.toList)

end Path

end CodeAtlas
