import CodeAtlas.Schema.Validate
import CodeAtlas.Service.Address
import CodeAtlas.Service.Refusal
import CodeAtlas.Text.Wide
import CodeAtlas.Value.Halves

/-! Requests, and what is read from them: the fields of a body, and the limit of a listing. -/

namespace CodeAtlas.Service

/-- A request; one without a body has the empty text there. -/
structure Request where
  method : String
  address : Address
  body : String := ""
deriving DecidableEq, Repr

/-! ### Bodies -/

/-- The mark that may stand at the start of a text for the order of its octets. -/
def byteOrderMark : Char := '\uFEFF'

def withoutMark (cs : List Char) : List Char :=
  match cs with
  | c :: rest => if c = byteOrderMark then rest else cs
  | [] => []

/-- The characters of a body. Zeros among its first octets show that its units are wide. -/
def bodyChars? (body : String) : Option (List Char) :=
  let bytes := Text.Utf8.encode body.toList
  match bytes with
  | a :: b :: c :: d :: _ =>
    if a = 0 then
      if b = 0 then Text.Wide.decodeQuads? .greatestFirst bytes else Text.Wide.decodePairs? .greatestFirst bytes
    else if b = 0 then
      if c = 0 && d = 0 then Text.Wide.decodeQuads? .leastFirst bytes
      else Text.Wide.decodePairs? .leastFirst bytes
    else some (withoutMark body.toList)
  | [a, b] =>
    if a = 0 then Text.Wide.decodePairs? .greatestFirst bytes
    else if b = 0 then Text.Wide.decodePairs? .leastFirst bytes
    else some (withoutMark body.toList)
  | _ => some (withoutMark body.toList)

/-- The body brings halves of pairs: by their codes, or among its wide units. -/
def bringsHalves (body : String) : Bool :=
  match bodyChars? body with
  | none => false
  | some cs => Value.writesHalf cs || (Text.Surrogate.isIn cs && !Text.Surrogate.isIn body.toList)

/-- How deep lists and objects may stand within each other. -/
def depthLimit : Nat := 950

/-- The value that a body holds. A number that is too long to be read makes it unreadable, and so do too
    many lists within each other. -/
def bodyValue (body : String) : Except Refusal Value :=
  match bodyChars? body with
  | none => .error .unreadableBody
  | some cs => match Value.readWithin depthLimit cs with
    | .ok v => .ok v
    | .error fault => match fault.complaint with
      | .tooManyDigits _ => .error .unreadableBody
      | .tooDeep => .error .unreadableBody
      | _ => .error (.malformedBody fault)

/-- The problem of a body as a whole. -/
def wholeProblem (complaint : Schema.Complaint) (input : Value) : Refusal :=
  .invalid .body [⟨[], complaint, input⟩]

/-- The fields of a body that fits the schema. -/
def bodyFields (schema : Schema) (body : String) : Except Refusal Value.Fields :=
  if body.isEmpty then .error (wholeProblem .missing .null)
  else match bodyValue body with
    | .error refusal => .error refusal
    | .ok (.object given) =>
      (schema.validateFields given).mapError fun rejection => .invalid .body rejection.problems
    | .ok v => .error (wholeProblem .withoutFields v)

/-! ### Limits -/

/-- The limit of a listing, unless another one is asked for. -/
def defaultLimit : Int := 20

/-- The limit among the parameters. -/
def limitOf (a : Address) : Except Refusal Int :=
  match a.parameter? "limit" with
  | none => .ok defaultLimit
  | some s => (Schema.integerOfText s).mapError fun complaint =>
    .invalid .parameters [⟨["limit"], complaint, .text s⟩]

end CodeAtlas.Service
