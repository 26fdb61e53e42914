import CodeAtlas.Decimal.Double
import CodeAtlas.Failure
import CodeAtlas.Text.Blank
import CodeAtlas.Tool.Dispatch
import CodeAtlas.Value.Printer

/-! What a conversation consists of, and what a chat model may answer. -/

namespace CodeAtlas.Conversation

/-- A request for a tool in an answer of the usual form. -/
structure ToolRequest where
  name : String
  arguments : Value.Fields
  id : Option String

/-- An answer of a chat model: one of the usual form, an object that has only some of the usual
    attributes with any values, or a bare value. -/
inductive Response where
  | message (content : Value) (requests : List ToolRequest)
  | object (attributes : Value.Fields)
  | bare (v : Value)

inductive Message where
  | system (content : String)
  | human (content : String)
  | model (response : Response)
  | tool (content : String) (id : String) (name : String)

/-! ### The text of an answer -/

/-- The part of a list of contents that is text: texts themselves, and what an object has for one. -/
def partText? : Value → Option String
  | .text s => some s
  | .object fields => (Value.Fields.get? fields "text").map Value.display
  | _ => none

/-- The text of a content: the parts of a list are joined by spaces and trimmed, and what counts as
    empty has no text. -/
def contentText : Value → String
  | .list items => Text.trim (" ".intercalate (items.filterMap partText?))
  | v => if v.isEmptyLike then "" else v.display

/-- An object with its attributes, as it is shown. -/
def shownObject (attributes : Value.Fields) : String :=
  "namespace(" ++ ", ".intercalate (attributes.map fun a => a.1 ++ "=" ++ a.2.shown) ++ ")"

namespace Response

/-- An object without a content is its own text. -/
def text : Response → String
  | .message content _ => contentText content
  | .object attributes => match Value.Fields.get? attributes "content" with
    | some content => contentText content
    | none => shownObject attributes
  | .bare v => contentText v

end Response

/-! ### The requests of an answer -/

/-- A name and a value from a pair of them. -/
def pairOf (index : Nat) (item : Value) : Except ArgumentFault (Value × Value) :=
  match item.items? with
  | none => .error (.itemWithoutItems index)
  | some [.list _, _] => .error (.unusableName "list")
  | some [.object _, _] => .error (.unusableName "dict")
  | some [name, v] => .ok (name, v)
  | some items => .error (.itemLength index items.length)

def pairsFrom (index : Nat) : List Value → Except ArgumentFault (List (Value × Value))
  | [] => .ok []
  | item :: rest => match pairOf index item with
    | .error f => .error f
    | .ok pair => (pairsFrom (index + 1) rest).map (pair :: ·)

/-- The integer that a number or a truth value is, if it is one. -/
def wholeNumber? : Value → Option Int
  | .bool b => some (if b then 1 else 0)
  | .int n => some n
  | .real x => Decimal.whole? x
  | _ => none

/-- Two values are one and the same name: numbers by what they stand for, anything else by what it is. -/
def isSameName (a b : Value) : Bool :=
  match wholeNumber? a, wholeNumber? b with
  | some m, some n => m == n
  | _, _ => match a, b with
    | .real x, .real y => x == y
    | .text s, .text t => s == t
    | .null, .null => true
    | _, _ => false

/-- Of pairs with the same name the first gives the name and the place, and the last the value. -/
def mergePair (pairs : List (Value × Value)) (p : Value × Value) : List (Value × Value) :=
  if pairs.any fun old => isSameName old.1 p.1 then
    pairs.map fun old => if isSameName old.1 p.1 then (old.1, p.2) else old
  else pairs ++ [p]

/-- Arguments as pairs of a name, which need not be a text yet, and a value. -/
def argumentPairs (v : Value) : Except ArgumentFault (List (Value × Value)) :=
  if v.isEmptyLike then .ok []
  else match v with
    | .object fields => .ok (fields.map fun f => (.text f.1, f.2))
    | _ => match v.items? with
      | none => .error (.noItems v.typeName)
      | some items => (pairsFrom 0 items).map fun pairs => pairs.foldl mergePair []

/-- The arguments under names that are texts; any other name is a problem. -/
def namedArguments (pairs : List (Value × Value)) : Except Schema.Rejection Value.Fields :=
  let problems : List Schema.Problem := pairs.filterMap fun p => match p.1 with
    | .text _ => none
    | .bool b => some ⟨["arguments", if b then "1" else "0", "[key]"], .notText, p.1⟩
    | name => some ⟨["arguments", name.shown, "[key]"], .notText, name⟩
  match problems with
  | [] => .ok (Value.Fields.ofPairs (pairs.filterMap fun p => match p.1 with
    | .text name => some (name, p.2)
    | _ => none))
  | first :: more => .error ⟨Tool.Call.schema.title, ⟨first, more⟩⟩

/-- A tool call ready to be dispatched, and the id that its answer goes under. -/
structure Request where
  call : Tool.Call
  id : String

/-- A request of any shape. A missing or empty id is replaced by the name. -/
def requestOf (v : Value) : Except Failure Request :=
  match v with
  | .object fields =>
    let name := ((Value.Fields.get? fields "name").map Value.display).getD ""
    match argumentPairs ((Value.Fields.get? fields "args").getD .null) with
    | .error f => .error (.arguments f)
    | .ok pairs => match namedArguments pairs with
      | .error rejection => .error (.invalid rejection)
      | .ok arguments =>
        let id := (Value.Fields.get? fields "id").getD .null
        .ok ⟨⟨name, arguments⟩, if id.isEmptyLike then name else id.display⟩
  | v => .error (.arguments (.noFields v.typeName))

/-- A request of the usual form. -/
def ToolRequest.request (r : ToolRequest) : Request where
  call := ⟨r.name, r.arguments⟩
  id := match r.id with
    | none => r.name
    | some id => if id.isEmpty then r.name else id

/-- The requests of an answer, in order; one that cannot be read shows only when its turn comes. -/
def Response.requests : Response → Except Failure (List (Except Failure Request))
  | .message _ requests => .ok (requests.map fun r => .ok r.request)
  | .object attributes =>
    let v := (Value.Fields.get? attributes "tool_calls").getD .null
    if v.isEmptyLike then .ok []
    else match v.items? with
      | none => .error (.arguments (.noItems v.typeName))
      | some items => .ok (items.map requestOf)
  | .bare _ => .ok []

end CodeAtlas.Conversation
