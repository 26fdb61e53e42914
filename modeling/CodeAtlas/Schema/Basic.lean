import CodeAtlas.Decimal.Double
import CodeAtlas.Value.Basic

/-! What an object has to look like: its fields, the kind of each, and what is wrong with one that
    does not look like that. -/

namespace CodeAtlas

/-- What a field may hold. -/
inductive Kind where
  | text
  | integer
  | number
  | boolean
  | list
  | object
  | anything
  | nothing
  | optionalText
  | optionalInteger
  | texts
deriving DecidableEq, Repr

/-- A number that another one may have to reach. -/
inductive Threshold where
  | whole (n : Int)
  | real (x : Float)

def Threshold.text : Threshold → String
  | .whole n => toString n
  | .real x => Decimal.plainText x

/-- A field; without a default it must be given. -/
structure Field where
  name : String
  kind : Kind
  description : Option String := none
  atLeast : Option Threshold := none
  minLength : Option Nat := none
  default : Option Value := none

namespace Field

def required (f : Field) : Bool := f.default.isNone

end Field

structure Schema where
  title : String
  fields : List Field

namespace Schema

/-- What is wrong with a value. -/
inductive Complaint where
  | missing
  | notText
  | unreadableText
  | notObject
  | notInstance (title : String)
  | withoutFields
  | notTuple
  | notList
  | notInteger
  | unreadableInteger
  | oversizedInteger
  | fractional
  | notNumber
  | unreadableNumber
  | notFinite
  | notBoolean
  | unreadableBoolean
  | notNothing
  | below (bound : Threshold)
  | shortText (least : Nat)
  | shortList (least actual : Nat)
  | shortObject (least actual : Nat)
  | shortValue (least actual : Nat)

def plural (n : Nat) (word : String) : String :=
  toString n ++ " " ++ word ++ (if n = 1 then "" else "s")

def Complaint.message : Complaint → String
  | .missing => "Field required"
  | .notText => "Input should be a valid string"
  | .unreadableText => "Input should be a valid string, unable to parse raw data as a unicode string"
  | .notObject => "Input should be a valid dictionary"
  | .notInstance title => "Input should be a valid dictionary or instance of " ++ title
  | .withoutFields => "Input should be a valid dictionary or object to extract fields from"
  | .notTuple => "Input should be a valid tuple"
  | .notList => "Input should be a valid list"
  | .notInteger => "Input should be a valid integer"
  | .unreadableInteger => "Input should be a valid integer, unable to parse string as an integer"
  | .oversizedInteger => "Unable to parse input string as an integer, exceeded maximum size"
  | .fractional => "Input should be a valid integer, got a number with a fractional part"
  | .notNumber => "Input should be a valid number"
  | .unreadableNumber => "Input should be a valid number, unable to parse string as a number"
  | .notFinite => "Input should be a finite number"
  | .notBoolean => "Input should be a valid boolean"
  | .unreadableBoolean => "Input should be a valid boolean, unable to interpret input"
  | .notNothing => "Input should be None"
  | .below bound => "Input should be greater than or equal to " ++ bound.text
  | .shortText least => "String should have at least " ++ plural least "character"
  | .shortList least actual =>
    "List should have at least " ++ plural least "item" ++ " after validation, not " ++ toString actual
  | .shortObject least actual =>
    "Dictionary should have at least " ++ plural least "item" ++ " after validation, not " ++
      toString actual
  | .shortValue least actual =>
    "Value should have at least " ++ plural least "item" ++ " after validation, not " ++ toString actual

/-- What may be asked of a value beyond its kind. -/
inductive Bound where
  | atLeast
  | minLength
deriving DecidableEq, Repr

def Bound.name : Bound → String
  | .atLeast => "ge"
  | .minLength => "min_length"

/-- A complaint about the part of a value that `location` leads to, and that part itself. -/
structure Problem where
  location : List String
  complaint : Complaint
  input : Value

namespace Problem

/-- Where the problem is, and what it is. A problem with the whole is one with the arguments. -/
def line (p : Problem) : String :=
  let place := ".".intercalate p.location
  (if place.isEmpty then "arguments" else place) ++ ": " ++ p.complaint.message

end Problem

/-- Problems in a row. There is at least one of them. -/
structure Problems where
  first : Problem
  more : List Problem := []

namespace Problems

def list (ps : Problems) : List Problem := ps.first :: ps.more

instance : Append Problems := ⟨fun ps qs => ⟨ps.first, ps.more ++ qs.list⟩⟩

end Problems

/-- All problems of an object, in the order of its fields. -/
structure Rejection where
  title : String
  found : Problems

namespace Rejection

def problems (r : Rejection) : List Problem := r.found.list

def message (r : Rejection) : String := "; ".intercalate (r.problems.map Problem.line)

/-- How many problems there are, and with what. -/
def headline (r : Rejection) : String :=
  plural r.problems.length "validation error" ++ " for " ++ r.title

end Rejection

end Schema

end CodeAtlas
