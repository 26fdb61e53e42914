import CodeAtlas.Schema.Coerce

/-! Validating an object: every field is fitted to its kind, fields that are not asked for are left
    out, and each field that does not fit is reported once. -/

namespace CodeAtlas.Schema

/-- The items that are no texts, with their places. -/
def textProblems (name : String) : Nat → List Value → List Problem
  | _, [] => []
  | i, .text _ :: rest => textProblems name (i + 1) rest
  | i, v :: rest => ⟨[name, toString i], .notText, v⟩ :: textProblems name (i + 1) rest

/-- A value fitted to a kind, whatever bounds the field sets. -/
def fit (name : String) (kind : Kind) (v : Value) : Except Problems Value :=
  let alone := fun (c : Complaint) => Problems.mk ⟨[name], c, v⟩ []
  let integerOf := fun (v : Value) => ((integer v).map Value.int).mapError alone
  let textOf := fun (v : Value) => match v with
    | .text s => Except.ok (Value.text s)
    | _ => .error (alone .notText)
  match kind with
  | .text => textOf v
  | .integer => integerOf v
  | .number => ((number v).map Value.real).mapError alone
  | .boolean => ((boolean v).map Value.bool).mapError alone
  | .list => match v with
    | .list items => .ok (.list items)
    | _ => .error (alone .notList)
  | .object => match v with
    | .object fields => .ok (.object fields)
    | _ => .error (alone .notObject)
  | .anything => .ok v
  | .nothing => match v with
    | .null => .ok .null
    | _ => .error (alone .notNothing)
  | .optionalText => match v with
    | .null => .ok .null
    | _ => textOf v
  | .optionalInteger => match v with
    | .null => .ok .null
    | _ => integerOf v
  | .texts => match v with
    | .list items => match textProblems name 0 items with
      | [] => .ok (.list items)
      | first :: more => .error ⟨first, more⟩
    | _ => .error (alone .notTuple)

/-! ### Bounds -/

/-- What comes of asking a bound of a value: the value keeps it, it lacks something, or there is no sense
    in asking. -/
inductive Verdict where
  | kept
  | lacking (complaint : Complaint)
  | senseless (bound : Bound)

/-- An integer reaches a threshold. What is no number is not reached. -/
def reachedByInt (n : Int) : Threshold → Bool
  | .whole bound => bound ≤ n
  | .real x => match Decimal.whole? x.ceil with
    | some bound => bound ≤ n
    | none => x < 0.0

/-- A double reaches a threshold, and is no rounded one. -/
def reachedByReal (x : Float) : Threshold → Bool
  | .whole bound => match Decimal.whole? x.floor with
    | some n => bound ≤ n
    | none => 0.0 < x
  | .real bound => bound ≤ x

/-- The threshold of a field for numbers is a double. -/
def thresholdOf (bound : Threshold) (kind : Kind) : Threshold :=
  match kind, bound with
  | .number, .whole n => .real (realOfInt n)
  | _, bound => bound

/-- In a field for numbers, what is no number lacks nothing. -/
def judgeAtLeast (bound : Threshold) (kind : Kind) (v : Value) : Verdict :=
  let bound := thresholdOf bound kind
  let verdict := fun (reached : Bool) => if reached then Verdict.kept else .lacking (.below bound)
  match v with
  | .int n => verdict (reachedByInt n bound)
  | .bool b => verdict (reachedByInt (if b then 1 else 0) bound)
  | .real x => verdict (reachedByReal x bound || (x.isNaN && kind = .number))
  | _ => .senseless .atLeast

def judgeMinLength (least : Nat) (kind : Kind) : Value → Verdict
  | .text s =>
    if least ≤ s.length then .kept
    else .lacking (if kind = .anything then .shortValue least s.length else .shortText least)
  | .list items =>
    if least ≤ items.length then .kept
    else .lacking (if kind = .anything then .shortValue least items.length else .shortList least items.length)
  | .object fields =>
    if least ≤ fields.length then .kept
    else .lacking
      (if kind = .anything then .shortValue least fields.length else .shortObject least fields.length)
  | _ => .senseless .minLength

/-- A field that may be left empty asks nothing of an empty value. -/
def asksNothing (kind : Kind) : Value → Bool
  | .null => kind = .optionalText || kind = .optionalInteger
  | _ => false

/-- What comes of asking the bounds of a field of a fitted value, the lower one first. -/
def judge (f : Field) (v : Value) : Verdict :=
  if asksNothing f.kind v then .kept
  else
    let lower := (f.atLeast.map fun bound => judgeAtLeast bound f.kind v).getD .kept
    match lower with
    | .kept => (f.minLength.map fun least => judgeMinLength least f.kind v).getD .kept
    | verdict => verdict

/-! ### Objects -/

/-- The value of a field of the object: fitted and within bounds if it is given, else the default. -/
def field (f : Field) (given : Value.Fields) (whole : Value) : Except Problems Value :=
  match Value.Fields.get? given f.name with
  | none => match f.default with
    | some v => .ok v
    | none => .error { first := ⟨[f.name], .missing, whole⟩ }
  | some v => match fit f.name f.kind v with
    | .error problems => .error problems
    | .ok fitted => match judge f fitted with
      | .lacking complaint => .error { first := ⟨[f.name], complaint, v⟩ }
      | _ => .ok fitted

/-- All fields in order, or all problems in order. -/
def fieldValues (given : Value.Fields) (whole : Value) : List Field → Except Problems Value.Fields
  | [] => .ok []
  | f :: rest => match field f given whole, fieldValues given whole rest with
    | .ok v, .ok vs => .ok ((f.name, v) :: vs)
    | .ok _, .error problems => .error problems
    | .error problems, .ok _ => .error problems
    | .error problems, .error more => .error (problems ++ more)

/-- A bound that there is no sense in asking of the value given for a field, and that value. -/
def senseless? (given : Value.Fields) (f : Field) : Option (Bound × Value) :=
  match Value.Fields.get? given f.name with
  | none => none
  | some v => match fit f.name f.kind v with
    | .error _ => none
    | .ok fitted => match judge f fitted with
      | .senseless bound => some (bound, fitted)
      | _ => none

/-- The first bound of the schema that there is no sense in asking of what is given. -/
def senselessBound? (s : Schema) (given : Value.Fields) : Option (Bound × Value) :=
  s.fields.findSome? (senseless? given)

/-- The fields of an object that fits the schema. -/
def validateFields (s : Schema) (given : Value.Fields) : Except Rejection Value.Fields :=
  (fieldValues given (.object given) s.fields).mapError fun problems => ⟨s.title, problems⟩

/-- The fields of a value that fits the schema. -/
def validate (s : Schema) (v : Value) : Except Rejection Value.Fields :=
  match v with
  | .object given => s.validateFields given
  | _ => .error ⟨s.title, { first := ⟨[], .notInstance s.title, v⟩ }⟩

end CodeAtlas.Schema
