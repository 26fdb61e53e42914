import CodeAtlas.Text.Blank

/-! The endpoints of the service, and the paths and methods by which they are reached. -/

namespace CodeAtlas.Service

inductive Endpoint where
  | health
  | tools
  | search
  | dispatch
  | query
  | traces
  | trace (id : String)
  | metrics
deriving DecidableEq, Repr

namespace Endpoint

/-- The one method that an endpoint answers to. -/
def method : Endpoint → String
  | search => "POST"
  | dispatch => "POST"
  | query => "POST"
  | _ => "GET"

/-- The endpoints with a path of their own. -/
def table : List (String × Endpoint) := [
  ("/health", health), ("/tools", tools), ("/search", search), ("/tools/dispatch", dispatch),
  ("/query", query), ("/traces", traces), ("/metrics", metrics)]

/-- What stands before the id of a trace. -/
def traceRoot : String := "/traces/"

/-- The id at the end of a trace's path: one segment, and not an empty one. -/
def traceId? (path : List Char) : Option String :=
  if traceRoot.toList.isPrefixOf path then
    let id := path.drop traceRoot.toList.length
    if id.isEmpty || id.contains '/' then none else some (String.ofList id)
  else none

/-- One line end at the end of a path does not matter. -/
def withoutLineEnd (path : List Char) : List Char :=
  if path.getLast? = some '\n' then path.dropLast else path

/-- The endpoint at a path. -/
def ofPath? (path : List Char) : Option Endpoint :=
  match table.find? fun e => e.1.toList == withoutLineEnd path with
  | some (_, e) => some e
  | none => (traceId? path).map trace

end Endpoint

/-- Where a request leads. -/
inductive Route where
  | endpoint (e : Endpoint)
  | wrongMethod
  /-- There is an endpoint at the path without the slashes at its end. -/
  | elsewhere
  | nowhere
deriving DecidableEq, Repr

namespace Route

def withoutSlashes (path : List Char) : List Char := (path.reverse.dropWhile (· == '/')).reverse

def ofPath (method : String) (path : List Char) : Route :=
  match Endpoint.ofPath? path with
  | some e => if e.method = method then .endpoint e else .wrongMethod
  | none =>
    if path.getLast? = some '/' && (Endpoint.ofPath? (withoutSlashes path)).isSome then .elsewhere
    else .nowhere

end Route

end CodeAtlas.Service
