import CodeAtlas.FileTree.Basic
import CodeAtlas.FileTree.Fault

/-! Following a path through the tree, name by name and link by link. -/

namespace CodeAtlas.FileTree

/-- A name may take this many octets. -/
def nameLimit : Nat := 255

/-- A path may take this many octets. -/
def pathLimit : Nat := 4095

/-- This many links may be followed on the way. -/
def linkLimit : Nat := 40

/-- A place and what is there. -/
structure Located where
  place : Place
  entry : Entry

/-- How far the names of a path lead without following a link. -/
inductive Stride where
  | arrived (at_ : Located)
  | fault (kind : FaultKind)
  | link (dir : Place) (target : String) (rest : List String)

/-- Follows names from a directory. Where `last` is false, a link that the last name leads to is what
    the path means. -/
def stride (t : FileTree) (last : Bool) : Place → List String → Stride
  | dir, [] => .arrived ⟨dir, .directory⟩
  | dir, "." :: rest => stride t last dir rest
  | dir, ".." :: rest => stride t last dir.dropLast rest
  | dir, name :: rest =>
    if nameLimit < name.utf8ByteSize then .fault .nameTooLong
    else match t.entry? (dir ++ [name]) with
      | none => .fault .missing
      | some .directory => stride t last (dir ++ [name]) rest
      | some (.file content) =>
        if rest.isEmpty then .arrived ⟨dir ++ [name], .file content⟩ else .fault .notDirectory
      | some (.link target) =>
        if rest.isEmpty && !last then .arrived ⟨dir ++ [name], .link target⟩
        else .link dir target rest

/-- The names of a link's target. A slash at its end asks for a directory. -/
def targetNames (target : String) : List String :=
  let names := ((Text.splitWhere (· == '/') target.toList).filter fun part => !part.isEmpty).map String.ofList
  if target.toList.getLast? == some '/' then names ++ ["."] else names

def startsAtRoot (s : String) : Bool := s.toList.head? == some '/'

/-- Strides from link to link, following at most as many as the first argument says. -/
def follow (t : FileTree) (last : Bool) : Nat → Place → List String → Except FaultKind Located
  | links, dir, names =>
    match stride t last dir names with
    | .arrived at_ => .ok at_
    | .fault kind => .error kind
    | .link from_ target rest =>
      match links with
      | 0 => .error .tooManyLinks
      | links + 1 =>
        follow t last links (if startsAtRoot target then [] else from_) (targetNames target ++ rest)

/-- What a path means, seen from the directory `here`. -/
def locate (t : FileTree) (here : Place) (last : Bool) (p : Path) : Except FileFault Located :=
  if p.text.toList.contains '\x00' then .error ⟨.nullCharacter, p.text⟩
  else if pathLimit < p.text.utf8ByteSize then .error ⟨.nameTooLong, p.text⟩
  else (follow t last linkLimit (if p.isAbsolute then [] else here) p.names).mapError fun kind =>
    ⟨kind, p.text⟩

/-! ### Probes -/

/-- What is at the end of a path, links followed; nothing where the fault only means that. -/
def probe (t : FileTree) (here : Place) (p : Path) : Except FileFault (Option Entry) :=
  match t.locate here true p with
  | .ok found => .ok (some found.entry)
  | .error f => if f.kind.meansAbsent then .ok none else .error f

def isFile (t : FileTree) (here : Place) (p : Path) : Except FileFault Bool :=
  (t.probe here p).map fun e => match e with
    | some (.file _) => true
    | _ => false

def isDirectory (t : FileTree) (here : Place) (p : Path) : Except FileFault Bool :=
  (t.probe here p).map fun e => e == some .directory

end CodeAtlas.FileTree
