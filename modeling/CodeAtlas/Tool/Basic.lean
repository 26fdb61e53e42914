import CodeAtlas.Failure
import CodeAtlas.Schema.Validate

/-! Tools: named operations with one shape of arguments, run on behalf of a chat model. -/

namespace CodeAtlas

/-- A tool working on states of type `σ`. Its handler is only given arguments that fit the schema. -/
structure Tool (σ : Type) where
  name : String
  description : String
  arguments : Schema
  handler : Value.Fields → σ → Except Failure String × σ

namespace Tool

/-- The name under which a kind of value is advertised. Kinds that allow more than one type of value,
    and the empty one, go as texts. -/
def advertisedType : Kind → String
  | .text => "string"
  | .integer => "integer"
  | .number => "number"
  | .boolean => "boolean"
  | .list => "array"
  | .texts => "array"
  | .object => "object"
  | .anything => "string"
  | .nothing => "string"
  | .optionalText => "string"
  | .optionalInteger => "string"

def advertisedField (f : Field) : String × Value :=
  (f.name, .object (("type", .text (advertisedType f.kind)) ::
    match f.description with
    | none => []
    | some d => [("description", .text d)]))

/-- The names of the fields that have to be given, in order. -/
def requiredNames (s : Schema) : List String := (s.fields.filter Field.required).map (·.name)

/-- What a tool says of itself has to be text. -/
def headSchema : Schema where
  title := "ToolSpec"
  fields := [{ name := "name", kind := .text }, { name := "description", kind := .text }]

variable {σ : Type}

/-- The declaration of a tool to a chat model. -/
def declaration (t : Tool σ) : Value :=
  .object [("type", .text "function"), ("function", .object [
    ("name", .text t.name),
    ("description", .text t.description),
    ("parameters", .object [
      ("type", .text "object"),
      ("properties", .object (t.arguments.fields.map advertisedField)),
      ("required", .list ((requiredNames t.arguments).map .text))])])]

/-- Checks the arguments, then runs the handler. A bound that makes no sense is a failure of its own,
    whatever else is wrong. -/
def invoke (t : Tool σ) (arguments : Value.Fields) (s : σ) : Except Failure String × σ :=
  match t.arguments.senselessBound? arguments with
  | some (bound, v) => (.error (.senseless bound v), s)
  | none => match t.arguments.validateFields arguments with
    | .error rejection => (.error (.invalid rejection), s)
    | .ok fitted => t.handler fitted s

end Tool

/-- What is kept of a tool call that succeeded: the arguments as they were given and the start of the
    output. -/
structure Trace where
  name : String
  input : Value.Fields
  preview : String

/-- A preview has this many characters. -/
def previewLength : Nat := 320

end CodeAtlas
