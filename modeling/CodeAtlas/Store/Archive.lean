import CodeAtlas.FileTree.Basic
import CodeAtlas.Text.Utf8
import CodeAtlas.Value.Printer
import CodeAtlas.Value.Reader

/-! Databases written down: a first line that tells what a file is, and then the rows as one value. A
    database without a table is an empty file. -/

namespace CodeAtlas.Store

def Row.toValue (r : Row) : Value :=
  .list [(r.id.map Value.text).getD .null, .text r.content, .text r.description, .text r.keywords,
    .text r.created, .text r.updated]

def Row.ofValue? : Value → Option Row
  | .list [.null, .text content, .text description, .text keywords, .text created, .text updated] =>
    some ⟨none, content, description, keywords, created, updated⟩
  | .list [.text id, .text content, .text description, .text keywords, .text created, .text updated] =>
    some ⟨some id, content, description, keywords, created, updated⟩
  | _ => none

namespace Archive

/-- What the file of a table begins with. -/
def heading : String := "CodeAtlas table\n"

def write (t : Table) : String := heading ++ (Value.list (t.rows.map Row.toValue)).data

def read? (s : String) : Option Table :=
  if s.startsWith heading then
    match Value.read (String.ofList (s.toList.drop heading.length)) with
    | .ok (.list rows) => (rows.mapM Row.ofValue?).map Table.mk
    | _ => none
  else none

/-- The octets of a file. -/
def octets : Content → List UInt8
  | .octets bytes => bytes
  | .database none => []
  | .database (some t) => Text.Utf8.encode (write t).toList

/-- What a file of octets holds. -/
def content (bytes : List UInt8) : Content :=
  match (Text.Utf8.decode bytes).toOption.bind fun cs => read? (String.ofList cs) with
  | some t => .database (some t)
  | none => .octets bytes

end Archive

end CodeAtlas.Store
