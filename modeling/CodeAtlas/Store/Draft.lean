import CodeAtlas.Decimal.Double
import CodeAtlas.Store.Table
import CodeAtlas.Value.Basic

/-! Rows from values of any type: a column keeps the text of a number, and takes no list or object. -/

namespace CodeAtlas.Store

/-- Why values are no row. -/
inductive CellFault where
  /-- There are not as many values as columns. -/
  | count (given : Nat)
  | unsupported (column : Column) (type : String)
  | tooLarge (column : Column)
deriving DecidableEq, Repr

/-- What is said of an integer that does not fit. -/
def tooLargeText : String := "Python int too large to convert to SQLite INTEGER"

/-- The columns in their order. -/
def columns : List Column := [.id, .content, .description, .keywords, .created, .updated]

namespace CellFault

def label : CellFault → String
  | .tooLarge _ => "OverflowError"
  | _ => "ProgrammingError"

def message : CellFault → String
  | .count given => "Incorrect number of bindings supplied. The current statement uses " ++
      toString columns.length ++ ", and there are " ++ toString given ++ " supplied."
  | .unsupported column type => "Error binding parameter " ++ toString (columns.idxOf column + 1) ++
      ": type '" ++ type ++ "' is not supported"
  | .tooLarge _ => tooLargeText

end CellFault

/-- Integers have to fit a signed word of 64 bits. -/
def fitsWord (n : Int) : Bool := -(2 ^ 63) ≤ n && n < 2 ^ 63

/-- The text that a column keeps of a value. No number is no text, and zero has no sign. -/
def cellText (column : Column) : Value → Except CellFault (Option String)
  | .null => .ok none
  | .text s => .ok (some s)
  | .bool b => .ok (some (if b then "1" else "0"))
  | .int n => if fitsWord n then .ok (some (toString n)) else .error (.tooLarge column)
  | .real x => .ok (if x.isNaN then none else if x == 0.0 then some "0.0" else some (Decimal.columnStyle.write x))
  | v => .error (.unsupported column v.typeName)

namespace Draft

/-- A draft of one value for each column. -/
def ofValues : List Value → Except CellFault Draft
  | [id, content, description, keywords, created, updated] => do
    let id ← cellText .id id
    let content ← cellText .content content
    let description ← cellText .description description
    let keywords ← cellText .keywords keywords
    let created ← cellText .created created
    let updated ← cellText .updated updated
    pure ⟨id, content, description, keywords, created, updated⟩
  | values => .error (.count values.length)

end Draft

end CodeAtlas.Store
