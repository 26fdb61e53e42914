import CodeAtlas.FileTree.Path
import CodeAtlas.Store.Table

/-! Why a store fails. -/

namespace CodeAtlas.Store

/-- What a database says is wrong. -/
inductive DatabaseFault where
  | noTable
  | notDatabase
  | readOnly
  | unavailable
  | violation (v : Violation)
  /-- What should be a whole number is none. -/
  | mismatch
  /-- The value at a place of a statement has a type that a database does not know. -/
  | unsupported (place : Nat) (type : String)
  /-- The comparison of texts has failed. -/
  | functionFailed
deriving DecidableEq, Repr

namespace DatabaseFault

def label : DatabaseFault → String
  | .notDatabase => "DatabaseError"
  | .violation _ => "IntegrityError"
  | .mismatch => "IntegrityError"
  | .unsupported _ _ => "ProgrammingError"
  | _ => "OperationalError"

def message : DatabaseFault → String
  | .noTable => "no such table: indexing"
  | .notDatabase => "file is not a database"
  | .readOnly => "attempt to write a readonly database"
  | .unavailable => "unable to open database file"
  | .violation v => v.message
  | .mismatch => "datatype mismatch"
  | .unsupported place type =>
    "Error binding parameter " ++ toString place ++ ": type '" ++ type ++ "' is not supported"
  | .functionFailed => "user-defined function raised exception"

end DatabaseFault

/-- Why a database cannot be opened. -/
inductive OpeningFault where
  | unavailable
  | unreadable
  /-- An option of the address has a word that is none of its own. -/
  | unknownMode (option word : String)
  /-- The address asks for more than it allowed before. -/
  | forbiddenMode (word : String)
  | unknownSystem (name : String)
deriving DecidableEq, Repr

def OpeningFault.message : OpeningFault → String
  | .unavailable => "unable to open database file"
  | .unreadable => "disk I/O error"
  | .unknownMode option word => "no such " ++ option ++ " mode: " ++ word
  | .forbiddenMode word => "access mode not allowed: " ++ word
  | .unknownSystem name => "no such vfs: " ++ name

/-- A failure of the store: what it was doing and what went wrong. -/
inductive Fault where
  | opening (path : Path) (cause : OpeningFault)
  | initializing (cause : DatabaseFault)
  | lookingUpTerm (term : Option String) (cause : DatabaseFault)
  | lookingUpId (id : Option String) (cause : DatabaseFault)
  /-- A look-up by a value of any type, as it is shown. -/
  | lookingUp (what shown : String) (cause : DatabaseFault)
  | writing (id : Option String) (cause : DatabaseFault)
  | reported (text : String)
deriving DecidableEq, Repr

/-- An absent text shown in a message. -/
def quotedOrNone : Option String → String
  | none => "None"
  | some s => Text.quoted s

def Fault.message : Fault → String
  | .opening path cause => "Cannot open record store " ++ path.text ++ ": " ++ cause.message
  | .initializing cause => "Failed to initialize record store: " ++ cause.message
  | .lookingUpTerm term cause => "Lookup failed for term " ++ quotedOrNone term ++ ": " ++ cause.message
  | .lookingUpId id cause => "Lookup failed for id " ++ quotedOrNone id ++ ": " ++ cause.message
  | .lookingUp what shown cause => "Lookup failed for " ++ what ++ " " ++ shown ++ ": " ++ cause.message
  | .writing id cause => "Failed to write record " ++ quotedOrNone id ++ ": " ++ cause.message
  | .reported text => text

end CodeAtlas.Store
