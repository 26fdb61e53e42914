import CodeAtlas.Basic
import CodeAtlas.Value.Basic

/-! Values that are put to a use which their type does not allow, and lists that are cut by a value. -/

namespace CodeAtlas

/-- A use that a value is put to in vain; most of them tell of its type. -/
inductive Misuse where
  /-- An operation is asked for that the type does not have. -/
  | operation (type name : String)
  /-- Something without a length is measured. -/
  | length (type : String)
  /-- Something that has no stretches is cut. -/
  | stretch (type : String)
  /-- A list is to be cut at something that is no place in it. -/
  | place
  /-- Something that is no number is turned to the other side of zero. -/
  | negation (type : String)
  /-- Something that is no number is compared with one. -/
  | comparison (type : String)
  /-- Something that is no number is measured as one. -/
  | measure (type : String)
  /-- A text that is no number is measured as one. -/
  | measureText (text : String)
  /-- An integer beyond all doubles is measured as one. -/
  | measureTooLarge
  /-- Something that is no text stands for a path. -/
  | path (type : String)
  /-- Something that is no text is searched for tokens. -/
  | tokens (type : String)
  /-- Something that is no text is handed to the surroundings. -/
  | binding (type : String)
deriving DecidableEq, Repr

namespace Misuse

def label : Misuse → String
  | .operation _ _ => "AttributeError"
  | .measureText _ => "ValueError"
  | .measureTooLarge => "OverflowError"
  | _ => "TypeError"

end Misuse

namespace Value

/-- A list up to where a value cuts it: at an integer, or nowhere if there is no value. -/
def takeOf {α : Type} (limit : Value) (xs : List α) : Except Misuse (List α) :=
  match limit with
  | .null => .ok xs
  | .int n => .ok (Text.takeUpTo n xs)
  | .bool b => .ok (Text.takeUpTo (if b then 1 else 0) xs)
  | _ => .error .place

/-- A list from where a value cuts it, counted from the end. -/
def fromEndOf {α : Type} (limit : Value) (xs : List α) : Except Misuse (List α) :=
  match limit with
  | .int n => .ok (Text.fromEnd n xs)
  | .bool b => .ok (Text.fromEnd (if b then 1 else 0) xs)
  | .real _ => .error .place
  | v => .error (.negation v.typeName)

/-- The text that stands for a path. -/
def pathText : Value → Except Misuse String
  | .text s => .ok s
  | v => .error (.path v.typeName)

/-- The text whose operation of the given name is asked for. -/
def textFor (name : String) : Value → Except Misuse String
  | .text s => .ok s
  | v => .error (.operation v.typeName name)

end Value

end CodeAtlas
