import CodeAtlas.FileTree.Collect
import CodeAtlas.FileTree.Reading
import CodeAtlas.Schema.Basic
import CodeAtlas.Store.Draft
import CodeAtlas.Store.Fault
import CodeAtlas.Url.Basic
import CodeAtlas.Value.Misuse
import CodeAtlas.Value.Printer

/-! Everything that can go wrong while the program runs, by cause. Each cause has a name, which tells
    what sort of failure it is, and a message. -/

namespace CodeAtlas

/-- Why no entry is made of a file. -/
inductive IndexFault where
  | collecting (fault : FileTree.CollectFault)
  | summary (id : String) (rejection : Schema.Rejection)
  | incomplete (id : String)
  | prompt (path : Path) (fault : ReadFault)
  | reported (text : String)

/-- Why what a model asks for cannot be read as a tool call. -/
inductive ArgumentFault where
  /-- Something that holds no items stands where a list or an object is needed. -/
  | noItems (type : String)
  /-- An item of the arguments is no pair of a name and a value: it holds nothing at all. -/
  | itemWithoutItems (index : Nat)
  /-- An item of the arguments has another length than two. -/
  | itemLength (index length : Nat)
  /-- Something that cannot be a name stands where one is needed. -/
  | unusableName (type : String)
  /-- A request for a tool has no fields. -/
  | noFields (type : String)
  /-- Something that is no table of names and values stands where a request should. -/
  | noItemTable (type : String)
  /-- A request for a tool has a part that is none of its own. -/
  | unknownPart (name : String)
  /-- A request for a tool lacks parts. -/
  | missingParts (names : List String)
deriving DecidableEq, Repr

/-- A sort of failure that the program does not foresee, by its name, of which there always is one. -/
structure FailureKind where
  name : String
  name_ne_empty : name ≠ ""

namespace FailureKind

def valueError : FailureKind := ⟨"ValueError", by decide⟩

def typeError : FailureKind := ⟨"TypeError", by decide⟩

def osError : FailureKind := ⟨"OSError", by decide⟩

def runtimeError : FailureKind := ⟨"RuntimeError", by decide⟩

def connectionError : FailureKind := ⟨"APIConnectionError", by decide⟩

end FailureKind

inductive Failure where
  | store (fault : Store.Fault)
  | database (fault : Store.DatabaseFault)
  | cell (fault : Store.CellFault)
  | limitTooLarge
  | absentText
  | notOffered (operation : String)
  | timestamp (refusal : Timestamp.Refusal)
  | file (fault : FileFault)
  | encoding (refusal : Text.Utf8.Refusal)
  | index (fault : IndexFault)
  | unreadable (path : Path) (fault : ReadFault)
  | unreadableReported (text : String)
  | invalid (rejection : Schema.Rejection)
  | senseless (bound : Schema.Bound) (v : Value)
  | unknownTool (name : String)
  | duplicateTool (name : String)
  | unknownTrace (id : String)
  | unknownKey (key : Option String)
  | absentItem (index : Nat)
  | arguments (fault : ArgumentFault)
  | unknownWeight (name : String)
  | misuse (use : Misuse)
  /-- Something that is no number stands where numbers are added up. -/
  | noSum (left right : String)
  /-- Something that is no text stands where a term should. -/
  | noTerm (type : String)
  | url (fault : Url.Fault)
  | unencodable (refusal : Text.Surrogate.Refusal)
  | unsendable (refusal : Text.Surrogate.Refusal)
  | notFinite
  | exhausted
  /-- Whatever else is raised. -/
  | raised (kind : FailureKind) (text : String)

namespace IndexFault

def message : IndexFault → String
  | .collecting fault => fault.message
  | .summary id rejection => "Error parsing model response for " ++ id ++ ": " ++ rejection.headline
  | .incomplete id => "Model returned an incomplete summary for " ++ id
  | .prompt path fault => "Cannot read indexing prompt " ++ path.text ++ ": " ++ fault.message
  | .reported text => text

end IndexFault

/-- Words in a row: two with `and` between them, more with commas too. -/
def enumeration : List String → String
  | [] => ""
  | [a] => a
  | [a, b] => a ++ " and " ++ b
  | words => ", ".intercalate words.dropLast ++ ", and " ++ words.getLast?.getD ""

namespace ArgumentFault

def label : ArgumentFault → String
  | .itemLength _ _ => "ValueError"
  | .noFields _ => "AttributeError"
  | .noItemTable _ => "AttributeError"
  | _ => "TypeError"

def message : ArgumentFault → String
  | .noItems type => "'" ++ type ++ "' object is not iterable"
  | .itemWithoutItems index =>
    "cannot convert dictionary update sequence element #" ++ toString index ++ " to a sequence"
  | .itemLength index length =>
    "dictionary update sequence element #" ++ toString index ++ " has length " ++ toString length ++
      "; 2 is required"
  | .unusableName type => "unhashable type: '" ++ type ++ "'"
  | .noFields type => "'" ++ type ++ "' object has no attribute 'get'"
  | .noItemTable type => "'" ++ type ++ "' object has no attribute 'items'"
  | .unknownPart name => "tool_call() got an unexpected keyword argument " ++ Text.quoted name
  | .missingParts names => "tool_call() missing " ++ toString names.length ++
      " required keyword-only argument" ++ (if names.length = 1 then "" else "s") ++ ": " ++
      enumeration (names.map fun name => "'" ++ name ++ "'")

end ArgumentFault

def Misuse.message : Misuse → String
  | .operation type name => "'" ++ type ++ "' object has no attribute " ++ Text.quoted name
  | .length type => "object of type '" ++ type ++ "' has no len()"
  | .stretch type => "'" ++ type ++ "' object is not subscriptable"
  | .place => "slice indices must be integers or None or have an __index__ method"
  | .negation type => "bad operand type for unary -: '" ++ type ++ "'"
  | .comparison type => "'>' not supported between instances of 'int' and '" ++ type ++ "'"
  | .measure type => "float() argument must be a string or a real number, not '" ++ type ++ "'"
  | .measureText text => "could not convert string to float: " ++ Text.quoted text
  | .measureTooLarge => "int too large to convert to float"
  | .path type => "expected str, bytes or os.PathLike object, not " ++ type
  | .tokens type => "expected string or bytes-like object, got '" ++ type ++ "'"
  | .binding type => "str expected, not " ++ type

namespace Failure

/-- The sort of a fault of the file tree. -/
def fileLabel : FaultKind → String
  | .missing => "FileNotFoundError"
  | .exists => "FileExistsError"
  | .notDirectory => "NotADirectoryError"
  | .isDirectory => "IsADirectoryError"
  | .nameTooLong => "OSError"
  | .tooManyLinks => "OSError"
  | .nullCharacter => "ValueError"
  | .linkLoop => "RuntimeError"

/-- Where a text holds what cannot be encoded. -/
def surrogateMessage (r : Text.Surrogate.Refusal) : String :=
  let place :=
    if r.first = r.last then
      "character '" ++ String.ofList (Text.escapeCode r.code) ++ "' in position " ++ toString r.first
    else "characters in position " ++ toString r.first ++ "-" ++ toString r.last
  "'utf-8' codec can't encode " ++ place ++ ": surrogates not allowed"

/-- The sort of failure. -/
def label : Failure → String
  | .store _ => "RecordStoreError"
  | .database fault => fault.label
  | .cell fault => fault.label
  | .limitTooLarge => "OverflowError"
  | .absentText => "AttributeError"
  | .notOffered _ => "AttributeError"
  | .timestamp _ => "ValueError"
  | .file fault => fileLabel fault.kind
  | .encoding _ => "UnicodeDecodeError"
  | .index (.collecting (.probe fault)) => fileLabel fault.kind
  | .index _ => "IndexingError"
  | .unreadable _ _ => "UnreadableFileError"
  | .unreadableReported _ => "UnreadableFileError"
  | .invalid _ => "ValidationError"
  | .senseless _ _ => "TypeError"
  | .unknownTool _ => "KeyError"
  | .duplicateTool _ => "ValueError"
  | .unknownTrace _ => "KeyError"
  | .unknownKey _ => "KeyError"
  | .absentItem _ => "TypeError"
  | .arguments fault => fault.label
  | .unknownWeight _ => "TypeError"
  | .misuse use => use.label
  | .noSum _ _ => "TypeError"
  | .noTerm _ => "TypeError"
  | .url _ => "InvalidURL"
  | .unencodable _ => "UnicodeEncodeError"
  | .unsendable _ => "PydanticSerializationError"
  | .notFinite => "ValueError"
  | .exhausted => "StopIteration"
  | .raised kind _ => kind.name

def message : Failure → String
  | .store fault => fault.message
  | .database fault => fault.message
  | .cell fault => fault.message
  | .limitTooLarge => Store.tooLargeText
  | .absentText => "'NoneType' object has no attribute 'lower'"
  | .notOffered operation => "'InMemoryRecordStore' object has no attribute " ++ Text.quoted operation
  | .timestamp refusal => refusal.message
  | .file fault => fault.message
  | .encoding refusal => refusal.message
  | .index fault => fault.message
  | .unreadable path fault => "Cannot read " ++ path.text ++ ": " ++ fault.message
  | .unreadableReported text => text
  | .invalid rejection => rejection.message
  | .senseless bound v =>
    "Unable to apply constraint '" ++ bound.name ++ "' to supplied value " ++ v.display
  | .unknownTool name => Text.quoted ("Unknown tool: " ++ name)
  | .duplicateTool name => "Tool already registered: " ++ name
  | .unknownTrace id => Text.quoted ("Trace not found: " ++ id)
  | .unknownKey key => (key.map Text.quoted).getD ""
  | .absentItem i =>
    "sequence item " ++ toString i ++ ": expected str instance, NoneType found"
  | .arguments fault => fault.message
  | .unknownWeight name => "ScoreWeights.__init__() got an unexpected keyword argument " ++ Text.quoted name
  | .misuse use => use.message
  | .noSum left right =>
    "unsupported operand type(s) for +=: '" ++ left ++ "' and '" ++ right ++ "'"
  | .noTerm type => "'in <string>' requires string as left operand, not " ++ type
  | .url fault => fault.message
  | .unencodable refusal => surrogateMessage refusal
  | .unsendable refusal =>
    "Error serializing to JSON: UnicodeEncodeError: " ++ surrogateMessage refusal
  | .notFinite => "Out of range float values are not JSON compliant"
  | .exhausted => ""
  | .raised _ text => text

/-- The message, or the sort of failure where there is none. -/
def text (f : Failure) : String := if f.message.isEmpty then f.label else f.message

/-- The failure is one that the program itself foresees and reports. -/
def isForeseen : Failure → Bool
  | .store _ => true
  | .index (.collecting (.probe _)) => false
  | .index _ => true
  | .unreadable _ _ => true
  | .unreadableReported _ => true
  | _ => false

end Failure

end CodeAtlas
