import CodeAtlas.FileTree.Locate

/-! The real path of a path: absolute, without links, without `.` and `..`. Names with nothing behind
    them are kept as they are, so that every path has a real path unless its links run in a circle. -/

namespace CodeAtlas.FileTree

/-- What is known of the links met so far: the place a link leads to, or nothing while that is still
    being found out. -/
abbrev Seen := List (Place × Option Place)

/-- A place so far, whether every link on the way led somewhere, and the links met. -/
structure Resolved where
  place : Place
  settled : Bool
  seen : Seen

/-- Resolves names from a place, with `enter` for the names of a link's target. A link met again while
    it is being resolved stops everything: the names after it are kept unresolved. -/
def resolveNames (t : FileTree) (enter : Place → List String → Seen → Resolved) :
    Place → List String → Seen → Resolved
  | place, [], seen => ⟨place, true, seen⟩
  | place, "." :: rest, seen => resolveNames t enter place rest seen
  | place, ".." :: rest, seen => resolveNames t enter place.dropLast rest seen
  | place, name :: rest, seen =>
    let next := place ++ [name]
    match t.entry? next with
    | some (.link target) =>
      match seen.find? fun s => s.1 == next with
      | some (_, some known) => resolveNames t enter known rest seen
      | some (_, none) => ⟨next ++ rest, false, seen⟩
      | none =>
        let inner := enter (if startsAtRoot target then [] else place) (targetNames target)
          ((next, none) :: seen)
        if inner.settled then resolveNames t enter inner.place rest ((next, some inner.place) :: inner.seen)
        else ⟨inner.place ++ rest, false, inner.seen⟩
    | _ => resolveNames t enter next rest seen

/-- Resolution inside at most `depth` links. -/
def resolveWithin (t : FileTree) : Nat → Place → List String → Seen → Resolved
  | 0 => resolveNames t fun place names seen => ⟨place ++ names, false, seen⟩
  | depth + 1 => resolveNames t (resolveWithin t depth)

/-- Drops `.` and takes a name away for every `..`. -/
def flatten (names : List String) : Place :=
  names.foldl (fun place name =>
    if name = "." then place else if name = ".." then place.dropLast else place ++ [name]) []

/-- The place a path leads to. No link is entered while it is being resolved, so the number of entries
    bounds how deep links lead into links. -/
def realPlace (t : FileTree) (here : Place) (p : Path) : Place :=
  flatten (resolveWithin t t.entries.length (if p.isAbsolute then [] else here) p.names []).place

def realPath (t : FileTree) (here : Place) (p : Path) : Except FileFault Path :=
  if p.text.toList.contains '\x00' then .error ⟨.nullCharacter, p.text⟩
  else
    let real : Path := ⟨.root, t.realPlace here p⟩
    match t.locate here true real with
    | .error ⟨.tooManyLinks, path⟩ => .error ⟨.linkLoop, path⟩
    | _ => .ok real

end CodeAtlas.FileTree
