import CodeAtlas.Schema.Basic
import CodeAtlas.Value.Reader

/-! Why a request is not answered as asked, with the status and the detail that tell so. -/

namespace CodeAtlas.Service

/-- Where the input of a request is: in its body, or among its parameters. -/
inductive Source where
  | body
  | parameters
deriving DecidableEq, Repr

def Source.name : Source → String
  | .body => "body"
  | .parameters => "query"

inductive Refusal where
  | notFound
  | wrongMethod
  | unknownTrace (message : String)
  | unreadableBody
  | malformedBody (fault : Value.Malformed)
  | invalid (source : Source) (problems : List Schema.Problem)
  | storeFailed (message : String)
  | noModel
  | runFailed (message : String)

/-! ### Problems -/

/-- The short name of a complaint. -/
def complaintCode : Schema.Complaint → String
  | .missing => "missing"
  | .notText => "string_type"
  | .unreadableText => "string_unicode"
  | .notObject => "dict_type"
  | .notInstance _ => "model_type"
  | .withoutFields => "model_attributes_type"
  | .notTuple => "tuple_type"
  | .notList => "list_type"
  | .notInteger => "int_type"
  | .unreadableInteger => "int_parsing"
  | .oversizedInteger => "int_parsing_size"
  | .fractional => "int_from_float"
  | .notNumber => "float_type"
  | .unreadableNumber => "float_parsing"
  | .notFinite => "finite_number"
  | .notBoolean => "bool_type"
  | .unreadableBoolean => "bool_parsing"
  | .notNothing => "none_required"
  | .below _ => "greater_than_equal"
  | .shortText _ => "string_too_short"
  | .shortList _ _ => "too_short"
  | .shortObject _ _ => "too_short"
  | .shortValue _ _ => "too_short"

/-- The figures in a complaint. -/
def complaintFigures : Schema.Complaint → Value.Fields
  | .notInstance title => [("class_name", .text title)]
  | .below (.whole n) => [("ge", .int n)]
  | .below (.real x) => [("ge", .real x)]
  | .shortText least => [("min_length", .int least)]
  | .shortList least actual =>
    [("field_type", .text "List"), ("min_length", .int least), ("actual_length", .int actual)]
  | .shortObject least actual =>
    [("field_type", .text "Dictionary"), ("min_length", .int least), ("actual_length", .int actual)]
  | .shortValue least actual =>
    [("field_type", .text "Value"), ("min_length", .int least), ("actual_length", .int actual)]
  | _ => []

/-- An object of figures, left out when there are none. -/
def contextFields (figures : Value.Fields) : Value.Fields :=
  if figures.isEmpty then [] else [("ctx", .object figures)]

def problemValue (source : Source) (p : Schema.Problem) : Value :=
  .object ([
    ("type", .text (complaintCode p.complaint)),
    ("loc", .list (.text source.name :: p.location.map .text)),
    ("msg", .text p.complaint.message),
    ("input", p.input)] ++ contextFields (complaintFigures p.complaint))

/-- A body that is no value at all: where that shows, and what is wrong there. -/
def malformedValue (fault : Value.Malformed) : Value :=
  .object [
    ("type", .text "json_invalid"),
    ("loc", .list [.text Source.body.name, .int fault.position]),
    ("msg", .text "JSON decode error"),
    ("input", .object []),
    ("ctx", .object [("error", .text fault.complaint.message)])]

namespace Refusal

def status : Refusal → Nat
  | notFound => 404
  | wrongMethod => 405
  | unknownTrace _ => 404
  | unreadableBody => 400
  | malformedBody _ => 422
  | invalid _ _ => 422
  | storeFailed _ => 503
  | noModel => 503
  | runFailed _ => 500

def detail : Refusal → Value
  | notFound => .text "Not Found"
  | wrongMethod => .text "Method Not Allowed"
  | unknownTrace message => .text message
  | unreadableBody => .text "There was an error parsing the body"
  | malformedBody fault => .list [malformedValue fault]
  | invalid source problems => .list (problems.map (problemValue source))
  | storeFailed message => .text message
  | noModel => .text "No chat model configured"
  | runFailed message => .text message

end Refusal

end CodeAtlas.Service
