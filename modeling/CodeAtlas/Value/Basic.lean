/-! Data of no fixed shape: what a request body, a model's answer or the arguments of a tool call may
    be. -/

namespace CodeAtlas

/-- A value. The fields of an object keep the order in which they were given. -/
inductive Value where
  | null
  | bool (b : Bool)
  | int (n : Int)
  | real (x : Float)
  | text (s : String)
  | list (items : List Value)
  | object (fields : List (String × Value))
deriving Inhabited

namespace Value

/-- Lists of named values, in which a name stands at most once. -/
abbrev Fields := List (String × Value)

namespace Fields

def get? (fields : Fields) (name : String) : Option Value :=
  (fields.find? fun f => f.1 == name).map (·.2)

/-- Gives `name` the value `v`, in its old place if it has one and at the end otherwise. -/
def set (fields : Fields) (name : String) (v : Value) : Fields :=
  if fields.any fun f => f.1 == name then
    fields.map fun f => if f.1 == name then (name, v) else f
  else fields ++ [(name, v)]

/-- Keeps of equal names the last value, at the place of the first. -/
def ofPairs (pairs : List (String × Value)) : Fields :=
  pairs.foldl (fun fields p => fields.set p.1 p.2) []

end Fields

def get? (v : Value) (name : String) : Option Value :=
  match v with
  | .object fields => Fields.get? fields name
  | _ => none

mutual

/-- Every number in the value is finite. -/
def isFinite : Value → Bool
  | .real x => x.isFinite
  | .list items => itemsFinite items
  | .object fields => fieldsFinite fields
  | _ => true

def itemsFinite : List Value → Bool
  | [] => true
  | v :: vs => isFinite v && itemsFinite vs

def fieldsFinite : List (String × Value) → Bool
  | [] => true
  | (_, v) :: rest => isFinite v && fieldsFinite rest

end

mutual

/-- The value with nothing in the place of every number that is not finite. -/
def withoutInfinite : Value → Value
  | .real x => if x.isFinite then .real x else .null
  | .list items => .list (itemsWithoutInfinite items)
  | .object fields => .object (fieldsWithoutInfinite fields)
  | v => v

def itemsWithoutInfinite : List Value → List Value
  | [] => []
  | v :: vs => withoutInfinite v :: itemsWithoutInfinite vs

def fieldsWithoutInfinite : List (String × Value) → List (String × Value)
  | [] => []
  | (name, v) :: rest => (name, withoutInfinite v) :: fieldsWithoutInfinite rest

end

/-- Counts as false where only a yes or no is asked: nothing, zero, and whatever is empty. -/
def isEmptyLike : Value → Bool
  | .null => true
  | .bool b => !b
  | .int n => n == 0
  | .real x => x == 0.0
  | .text s => s.isEmpty
  | .list items => items.isEmpty
  | .object fields => fields.isEmpty

/-- The word for the type of a value. -/
def typeName : Value → String
  | .null => "NoneType"
  | .bool _ => "bool"
  | .int _ => "int"
  | .real _ => "float"
  | .text _ => "str"
  | .list _ => "list"
  | .object _ => "dict"

/-- The items of a value that has some: those of a list, the characters of a text, the names of an
    object. -/
def items? : Value → Option (List Value)
  | .list items => some items
  | .text s => some (s.toList.map fun c => .text (String.ofList [c]))
  | .object fields => some (fields.map fun f => .text f.1)
  | _ => none

end Value

end CodeAtlas
