import CodeAtlas.FileTree.Path
import CodeAtlas.Store.Table

/-! A tree of files as a value: every place below the root, given by the names that lead to it, holds a
    directory, a regular file or a symbolic link. -/

namespace CodeAtlas

/-- The names that lead from the root to a place, none of them `.` or `..`. -/
abbrev Place := List String

/-- What a regular file holds: octets, or a database with or without its table. -/
inductive Content where
  | octets (bytes : List UInt8)
  | database (table : Option Store.Table)
deriving DecidableEq, Repr

inductive Entry where
  | directory
  | file (content : Content)
  | link (target : String)
deriving DecidableEq, Repr

structure FileTree where
  entries : List (Place × Entry) := []
deriving DecidableEq, Repr

namespace FileTree

/-- What is at a place. The root is always a directory. -/
def entry? (t : FileTree) (p : Place) : Option Entry :=
  if p.isEmpty then some .directory else (t.entries.find? fun e => e.1 == p).map (·.2)

/-- The names in a directory. -/
def children (t : FileTree) (dir : Place) : List String :=
  t.entries.filterMap fun e =>
    if e.1.length = dir.length + 1 && dir.isPrefixOf e.1 then e.1.getLast? else none

/-- Puts an entry at a place, in the stead of whatever was there. -/
def put (t : FileTree) (p : Place) (e : Entry) : FileTree :=
  if t.entries.any fun old => old.1 == p then
    ⟨t.entries.map fun old => if old.1 == p then (p, e) else old⟩
  else ⟨t.entries ++ [(p, e)]⟩

def remove (t : FileTree) (p : Place) : FileTree := ⟨t.entries.filter fun e => e.1 != p⟩

/-- Makes directories along the names from `dir` on, as far as nothing is there yet. -/
def makeDirectories (t : FileTree) (dir : Place) : List String → FileTree
  | [] => t
  | name :: rest =>
    let place := dir ++ [name]
    makeDirectories (if (t.entry? place).isSome then t else t.put place .directory) place rest

/-- Puts an entry at a place, making the directories on the way to it. -/
def create (t : FileTree) (p : Place) (e : Entry) : FileTree :=
  (t.makeDirectories [] p.dropLast).put p e

end FileTree

end CodeAtlas
