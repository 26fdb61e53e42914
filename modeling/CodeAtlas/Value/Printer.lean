import CodeAtlas.Decimal.Double
import CodeAtlas.Text.Quoted
import CodeAtlas.Value.Basic

/-! Writing values: as data to be read back, and as they are shown inside a message. -/

namespace CodeAtlas.Value

/-! ### As data -/

/-- A text between double quotes; only what the format cannot hold is escaped. -/
def dataChar (c : Char) : List Char :=
  if c = '"' then ['\\', '"']
  else if c = '\\' then ['\\', '\\']
  else if c = '\n' then ['\\', 'n']
  else if c = '\r' then ['\\', 'r']
  else if c = '\t' then ['\\', 't']
  else if c = '\x08' then ['\\', 'b']
  else if c = '\x0c' then ['\\', 'f']
  else if c.toNat < 0x20 then '\\' :: 'u' :: Text.hexDigits 4 c.toNat
  else [c]

def dataText (s : String) : String := String.ofList ('"' :: s.toList.flatMap dataChar ++ ['"'])

/-- What stands between two items, and between a name and its value. -/
structure Spacing where
  comma : String
  colon : String

mutual

def dataIn (s : Spacing) : Value → String
  | .null => "null"
  | .bool b => if b then "true" else "false"
  | .int n => toString n
  | .real x => Decimal.dataStyle.write x
  | .text t => dataText t
  | .list items => "[" ++ s.comma.intercalate (itemsIn s items) ++ "]"
  | .object fields => "\x7b" ++ s.comma.intercalate (fieldsIn s fields) ++ "\x7d"

def itemsIn (s : Spacing) : List Value → List String
  | [] => []
  | v :: vs => dataIn s v :: itemsIn s vs

def fieldsIn (s : Spacing) : List (String × Value) → List String
  | [] => []
  | (name, v) :: rest => (dataText name ++ s.colon ++ dataIn s v) :: fieldsIn s rest

end

/-- The value as data, with a space after every comma and colon. -/
def data : Value → String := dataIn ⟨", ", ": "⟩

/-- The value as data without any spaces. -/
def compact : Value → String := dataIn ⟨",", ":"⟩

/-- Names in the order of their character codes. -/
def nameLE (a b : String × Value) : Bool := a.1 ≤ b.1

mutual

/-- The value with the fields of every object in the order of their names. -/
def sorted : Value → Value
  | .list items => .list (sortedItems items)
  | .object fields => .object ((sortedFields fields).mergeSort nameLE)
  | v => v

def sortedItems : List Value → List Value
  | [] => []
  | v :: vs => sorted v :: sortedItems vs

def sortedFields : List (String × Value) → List (String × Value)
  | [] => []
  | (name, v) :: rest => (name, sorted v) :: sortedFields rest

end

/-! ### In a message -/

mutual

/-- The value as it stands inside another one that is shown: texts are quoted. -/
def shown : Value → String
  | .null => "None"
  | .bool b => if b then "True" else "False"
  | .int n => toString n
  | .real x => Decimal.shortStyle.write x
  | .text s => Text.quoted s
  | .list items => "[" ++ ", ".intercalate (shownItems items) ++ "]"
  | .object fields => "\x7b" ++ ", ".intercalate (shownFields fields) ++ "\x7d"

def shownItems : List Value → List String
  | [] => []
  | v :: vs => shown v :: shownItems vs

def shownFields : List (String × Value) → List String
  | [] => []
  | (name, v) :: rest => (Text.quoted name ++ ": " ++ shown v) :: shownFields rest

end

/-- The value shown on its own: a text is itself. -/
def display : Value → String
  | .text s => s
  | v => v.shown

end CodeAtlas.Value
