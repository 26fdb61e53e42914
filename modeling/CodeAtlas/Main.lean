import CodeAtlas.CommandLine.Run
import CodeAtlas.Store.Archive
import Std.Time.DateTime.Timestamp

/-! The program. It copies the part of the file system that a run may need into a tree, runs the command
    line there, writes back the databases and directories that the run has left, and prints. -/

namespace CodeAtlas.CommandLine

/-- Models that cannot be reached. -/
def unreachable : Models Unit where
  chat _ s := (.error (.raised .connectionError "Connection error."), s)
  summarize _ s := (.error (.raised .connectionError "Connection error."), s)

def placeText (p : Place) : String := "/" ++ "/".intercalate p

/-- Copies what is at a place, and what is at most `depth` directories below it. -/
def load : Nat → Place → FileTree → IO FileTree
  | depth, place, t => do
    let path := (← IO.currentDir) / placeText place
    let kind ← try pure (some (← path.symlinkMetadata).type) catch _ => pure none
    match kind, depth with
    | some .symlink, _ => do
      let target ← try pure (← IO.FS.realPath path).toString catch _ => pure "/dev/null"
      pure (t.create place (.link target))
    | some .file, _ =>
      try pure (t.create place (.file (Store.Archive.content (← IO.FS.readBinFile path).toList)))
      catch _ => pure t
    | some .dir, depth + 1 => do
      let found ← path.readDir
      let names := (found.toList.map fun e => e.fileName).filter fun name =>
        !FileTree.skippedDirectories.contains name
      names.foldlM (fun t name => load depth (place ++ [name]) t) (t.makeDirectories [] place)
    | _, _ => pure t

/-- Directories are copied this far down. -/
def depthLimit : Nat := 64

/-- Copies what is at the end of a path. -/
def loadPath (here : Place) (t : FileTree) (p : Path) : IO FileTree :=
  load depthLimit (t.realPlace here p) t

/-- The variables around the program. -/
def surroundings : IO (List (String × String)) := do
  let bytes ← try IO.FS.readBinFile "/proc/self/environ" catch _ => pure ByteArray.empty
  let entries := Text.splitWhere (· == '\x00') (Text.Utf8.decodeLossy bytes.toList)
  pure ((entries.filter fun e => e.contains '=').map fun e =>
    (String.ofList (e.takeWhile (· ≠ '=')), String.ofList ((e.dropWhile (· ≠ '=')).drop 1)))

def now : IO Timestamp := do
  let t ← Std.Time.Timestamp.now
  let start : Timestamp := { year := 1970, month := 1, day := 1 }
  pure ((start.later? (t.toNanosecondsSinceUnixEpoch.val / 1000)).getD start)

/-- A time as it stands before a note: to the millisecond, behind a comma. -/
def noteTime (t : Timestamp) : String :=
  String.ofList ((t.chars.take 19).map fun c => if c = 'T' then ' ' else c) ++
    "," ++ String.ofList (Timestamp.digits 3 (t.micro / 1000))

/-- Writes back the databases of a tree, and the directories that were not there before. -/
def save (before after : FileTree) : IO Unit :=
  after.entries.forM fun (place, entry) => do
    match entry with
    | .directory => if (before.entry? place).isNone then IO.FS.createDirAll (placeText place)
    | .file (.database db) =>
      IO.FS.writeBinFile (placeText place) ⟨(Store.Archive.octets (.database db)).toArray⟩
    | _ => pure ()

end CodeAtlas.CommandLine

open CodeAtlas CommandLine in
/-- Runs the words given to the program, and ends with the code of the run. -/
def main (words : List String) : IO UInt32 := do
  let here := (Path.ofText (← IO.currentDir).toString).names
  let around ← surroundings
  let start ← now
  let tree ← loadPath here {} ⟨.here, []⟩
  let tree ← words.foldlM (fun t word => loadPath here t (Path.ofText word)) tree
  let named := match Settings.load tree here around with
    | .ok s => [s.databasePath, s.dataDir] ++ s.promptPath.toList
    | .error _ => []
  let tree ← named.foldlM (loadPath here) tree
  let session : Session Unit :=
    { workspace := { tree, here, clock := { start, step := 1 } }, model := () }
  let models := fun (s : Settings) => s.model?.map fun choice => choice.map fun _ => unreachable
  let (outcome, session) := run around models words session
  save tree session.workspace.tree
  IO.print (outcome.output (noteTime start))
  IO.eprint outcome.errors
  match outcome.ending with
  | .ok code => pure code.toUInt32
  | .error f => do
    IO.eprintln (f.label ++ ": " ++ f.message)
    pure 1
