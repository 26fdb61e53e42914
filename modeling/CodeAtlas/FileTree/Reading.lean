import CodeAtlas.FileTree.Locate
import CodeAtlas.Text.Utf8

/-! Reading a file as text. -/

namespace CodeAtlas

/-- Why a file cannot be read as text. -/
inductive ReadFault where
  | file (fault : FileFault)
  | encoding (refusal : Text.Utf8.Refusal)
deriving DecidableEq, Repr

namespace ReadFault

def message : ReadFault → String
  | .file f => f.message
  | .encoding r => r.message

/-- The fault is one that comes with files: the system's own, or that the octets are no text. -/
def isOrdinary : ReadFault → Bool
  | .file f => f.kind.isSystem
  | .encoding _ => true

end ReadFault

namespace FileTree

/-- The octets of a database's first page stop being text here, as long as it has been changed fewer than 127 times. -/
def databaseRefusal : Text.Utf8.Refusal := ⟨.invalidStart, 102, 102, 0xF8⟩

/-- The text of a regular file, its line ends unified. -/
def contentText : Content → Except Text.Utf8.Refusal String
  | .octets bytes => (Text.Utf8.decode bytes).map fun cs => String.ofList (Text.unifyLineEnds cs)
  | .database none => .ok ""
  | .database (some _) => .error databaseRefusal

/-- The text of the file at the end of a path. -/
def readText (t : FileTree) (here : Place) (p : Path) : Except ReadFault String :=
  match t.locate here true p with
  | .error f => .error (.file f)
  | .ok ⟨_, .file content⟩ => (contentText content).mapError .encoding
  | .ok _ => .error (.file ⟨.isDirectory, p.text⟩)

/-- The answer to a request for a file: its text, or what stands in the way. A path too long to be
    looked up is a fault of the request and not an answer. -/
def describeFile (t : FileTree) (here : Place) (target : String) : Except FileFault String :=
  let p := Path.ofText target
  match t.probe here p with
  | .error f => .error f
  | .ok none => .ok ("File not found: " ++ target)
  | .ok (some (.file _)) =>
    match t.readText here p with
    | .ok s => .ok s
    | .error f => .ok ("File reading failed - " ++ f.message)
  | .ok (some _) => .ok (target ++ " is not a file")

end FileTree

end CodeAtlas
