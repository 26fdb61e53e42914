import CodeAtlas.Failure
import CodeAtlas.Schema.Coerce
import CodeAtlas.Search.Ranking

/-! Scores by weights that need not be integers. What is no number does not add up, and of two numbers of
    different kinds the sum is a double. -/

namespace CodeAtlas.Search

/-- The sum of two values, of which the first is a number. -/
def sumOf (a b : Value) : Except Failure Value :=
  match a, b with
  | .int m, .int n => .ok (.int (m + n))
  | .int m, .bool b => .ok (.int (m + if b then 1 else 0))
  | .int m, .real y => .ok (.real (Schema.realOfInt m + y))
  | .real x, .int n => .ok (.real (x + Schema.realOfInt n))
  | .real x, .bool b => .ok (.real (x + if b then 1.0 else 0.0))
  | .real x, .real y => .ok (.real (x + y))
  | _, _ => .error (.noSum a.typeName b.typeName)

/-- The weight that is given for an award, or the usual one. -/
def weightOf (given : Value) (a : Award) : Value := (given.get? a.name).getD (.int (({} : Weights).of a))

/-- The points of a record, added up in the order of the terms. -/
def points (given : Value) (r : Record) (terms : List String) : Except Failure Value :=
  (awards r terms).foldlM (fun sum a => sumOf sum (weightOf given a)) (.int 0)

/-- The terms of a value that has items, all of which have to be texts. -/
def termsOf (v : Value) : Except Failure (List String) :=
  match v.items? with
  | none => .error (.arguments (.noItems v.typeName))
  | some items => items.mapM fun item => match item with
    | .text s => .ok s
    | v => .error (.noTerm v.typeName)

/-- What points count as in a comparison. -/
def numberOf : Value → Float
  | .real x => x
  | .int n => Schema.realOfInt n
  | _ => 0.0

/-- Of copies with the same id the first one. -/
def firstCopies (seen : List (Option String)) : List (Scored × Value) → List (Scored × Value)
  | [] => []
  | s :: rest =>
    if seen.contains s.1.id then firstCopies seen rest else s :: firstCopies (s.1.id :: seen) rest

/-- Retrieved copies in the order of falling points, each record once. -/
def rankByPoints (scored : List (Scored × Value)) : List (Scored × Value) :=
  let before := fun (a b : Scored × Value) => match a.2, b.2 with
    | .int m, .int n => n ≤ m
    | _, _ => numberOf b.2 ≤ numberOf a.2
  firstCopies [] (scored.mergeSort before)

end CodeAtlas.Search
