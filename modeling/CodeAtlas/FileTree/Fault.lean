import CodeAtlas.Text.Quoted

/-! Why an operation on the file tree fails. -/

namespace CodeAtlas

inductive FaultKind where
  | missing
  | exists
  | notDirectory
  | isDirectory
  | nameTooLong
  | tooManyLinks
  | nullCharacter
  | linkLoop
deriving DecidableEq, Repr

/-- A fault, and the path that it was met with. -/
structure FileFault where
  kind : FaultKind
  path : String
deriving DecidableEq, Repr

namespace FaultKind

/-- The number and the words that the system has for a fault, where it is one of the system's. -/
def words? : FaultKind → Option (Nat × String)
  | .missing => some (2, "No such file or directory")
  | .exists => some (17, "File exists")
  | .notDirectory => some (20, "Not a directory")
  | .isDirectory => some (21, "Is a directory")
  | .nameTooLong => some (36, "File name too long")
  | .tooManyLinks => some (40, "Too many levels of symbolic links")
  | .nullCharacter => none
  | .linkLoop => none

/-- Faults that only say that nothing usable is at a path. -/
def meansAbsent : FaultKind → Bool
  | .missing | .notDirectory | .tooManyLinks | .nullCharacter => true
  | .exists | .isDirectory | .nameTooLong | .linkLoop => false

/-- The fault is one of the operating system's. -/
def isSystem (k : FaultKind) : Bool := k.words?.isSome

end FaultKind

namespace FileFault

def message (f : FileFault) : String :=
  match f.kind.words? with
  | some (number, words) => "[Errno " ++ toString number ++ "] " ++ words ++ ": " ++ Text.quoted f.path
  | none => match f.kind with
    | .linkLoop => "Symlink loop from " ++ Text.quoted f.path
    | _ => "embedded null byte"

end FileFault

end CodeAtlas
