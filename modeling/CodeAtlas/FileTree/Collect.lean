import CodeAtlas.FileTree.Locate
import CodeAtlas.Text.Blank
import CodeAtlas.Text.Case

/-! Collecting the source files below a path, in the order of their names. -/

namespace CodeAtlas.FileTree

/-- Why no files are collected. -/
inductive CollectFault where
  | blankPath
  | absent (path : Path)
  | listing (dir : Path) (fault : FileFault)
  | probe (fault : FileFault)
deriving DecidableEq, Repr

def CollectFault.message : CollectFault → String
  | .blankPath => "Path is required and cannot be empty"
  | .absent path => "Path " ++ path.text ++ " does not exist"
  | .listing dir fault => "Error reading directory " ++ dir.text ++ ": " ++ fault.message
  | .probe fault => fault.message

/-- Directories that hold no sources of the project itself. -/
def skippedDirectories : List String := [".git", "__pycache__", "node_modules", ".venv", ".mypy_cache"]

/-- The suffixes asked for, in lower case; with none given every file counts. -/
abbrev Suffixes := List String

def Suffixes.admit (s : Suffixes) (p : Path) : Bool := s.isEmpty || s.contains (Text.lower p.suffix)

/-- Everything that the outcomes hold, or the first failure among them. -/
def joinOutcomes {ε α : Type} : List (Except ε (List α)) → Except ε (List α)
  | [] => .ok []
  | .error e :: _ => .error e
  | .ok found :: rest => (joinOutcomes rest).map (found ++ ·)

/-- The names in the directory at the end of a path, in order. -/
def sortedNames (t : FileTree) (here : Place) (dir : Path) : Except FileFault (List String) :=
  match t.locate here true dir with
  | .error f => .error f
  | .ok ⟨place, .directory⟩ => .ok ((t.children place).mergeSort fun a b => a ≤ b)
  | .ok _ => .error ⟨.notDirectory, dir.text⟩

/-- The files below a directory, at most `depth` directories down. Links to directories are entered;
    whatever is no directory counts as a file, a link that leads nowhere included. A directory below
    is collected as by a path of its own; as it is there, only a blank text can be wrong with its path. -/
def collectBelow (t : FileTree) (here : Place) (suffixes : Suffixes) :
    Nat → Path → Except CollectFault (List Path)
  | 0, dir => .error (.listing dir ⟨.nameTooLong, dir.text⟩)
  | depth + 1, dir =>
    match t.sortedNames here dir with
    | .error f => .error (.listing dir f)
    | .ok names => joinOutcomes (names.map fun name =>
        let item := dir.child name
        match t.isDirectory here item with
        | .error f => .error (.listing dir f)
        | .ok true =>
          if skippedDirectories.contains name then .ok []
          else if Text.isBlankText item.text then .error .blankPath
          else collectBelow t here suffixes depth item
        | .ok false => .ok (if suffixes.admit item then [item] else []))

/-- The files below a path. A path to a single file stands for that file, whatever its suffix. Every
    directory entered makes the path longer, so its limit also bounds the depth. -/
def collect (t : FileTree) (here : Place) (path : String) (suffixes : List String) :
    Except CollectFault (List Path) :=
  if Text.isBlankText path then .error .blankPath
  else
    let root := Path.ofText path
    match t.probe here root with
    | .error f => .error (.probe f)
    | .ok none => .error (.absent root)
    | .ok (some (.file _)) => .ok [root]
    | .ok (some _) => collectBelow t here (suffixes.map Text.lower) (pathLimit + 1) root

end CodeAtlas.FileTree
