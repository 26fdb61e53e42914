import CodeAtlas.Conversation.Message
import CodeAtlas.Schema.Validate

/-! Answers of the usual form, read from objects: a content that is a text or a list of texts and
    objects, and a list of requests for tools. -/

namespace CodeAtlas.Conversation

/-- A request for a tool. -/
def ToolRequest.schema : Schema where
  title := "AIMessage"
  fields := [
    { name := "name", kind := .text },
    { name := "args", kind := .object },
    { name := "id", kind := .optionalText }]

def ToolRequest.ofFields (fields : Value.Fields) : ToolRequest where
  name := match fields.get? "name" with
    | some (.text name) => name
    | _ => ""
  arguments := match fields.get? "args" with
    | some (.object arguments) => arguments
    | _ => []
  id := match fields.get? "id" with
    | some (.text id) => some id
    | _ => none

/-- What is wrong with the parts of a content, counted from `i` on. -/
def partProblems (place : List String) (i : Nat) : List Value → List Schema.Problem
  | [] => []
  | v :: vs =>
    let part := place ++ [toString i]
    (match v with
      | .text _ => []
      | .object _ => []
      | _ => [⟨part ++ ["str"], .notText, v⟩, ⟨part ++ ["dict[any,any]"], .notObject, v⟩]) ++
      partProblems place (i + 1) vs

/-- What is wrong with a content: it has to be a text, or a list of good parts. -/
def contentProblems (v : Value) : List Schema.Problem :=
  let place := ["content", "list[union[str,dict[any,any]]]"]
  let asList := match v with
    | .list vs => partProblems place 0 vs
    | _ => [⟨place, .notList, v⟩]
  match v with
  | .text _ => []
  | v => if asList.isEmpty then [] else ⟨["content", "str"], .notText, v⟩ :: asList

/-- What is wrong with requests, counted from `i` on. -/
def requestProblems (i : Nat) : List Value → List Schema.Problem
  | [] => []
  | v :: vs =>
    (match ToolRequest.schema.validate v with
      | .ok _ => []
      | .error r => r.problems.map fun p => { p with location := "tool_calls" :: toString i :: p.location }) ++
      requestProblems (i + 1) vs

/-- What a request has to have, and what it may have besides. -/
def requestParts : List String := ["name", "args", "id"]

def sideParts : List String := ["type", "extras"]

/-- A request has its parts, and no part that is not known. -/
def partsFault? (fields : Value.Fields) : Option ArgumentFault :=
  let names := (fields.map (·.1)).filter fun name => !sideParts.contains name
  match names.find? fun name => !requestParts.contains name with
  | some name => some (.unknownPart name)
  | none => match requestParts.filter fun part => !names.contains part with
    | [] => none
    | missing => some (.missingParts missing)

/-- The first thing that makes an item no request at all. -/
def requestFault? : List Value → Option ArgumentFault
  | [] => none
  | .object fields :: rest => (partsFault? fields).or (requestFault? rest)
  | v :: _ => some (.noItemTable v.typeName)

/-- The requests of an answer and what is wrong with them. A request has to be an object of the parts of
    one, or nothing can be said of it. -/
def requestsOf (v : Value) : Except ArgumentFault (List Value × List Schema.Problem) :=
  match v with
  | .list vs => match requestFault? vs with
    | some fault => .error fault
    | none => .ok (vs, requestProblems 0 vs)
  | v =>
    if v.isEmptyLike then .ok ([], [⟨["tool_calls"], .notList, v⟩])
    else match v.items? with
      | some (item :: _) => .error (.noItemTable item.typeName)
      | _ => .error (.noItems v.typeName)

/-- The answer that an object is. -/
def Response.ofFields (fields : Value.Fields) : Except Failure Response :=
  let content := (fields.get? "content").getD (.text "")
  match requestsOf ((fields.get? "tool_calls").getD (.list [])) with
  | .error fault => .error (.arguments fault)
  | .ok (requests, problems) => match contentProblems content ++ problems with
    | [] => .ok (.message content (requests.map fun r => match r with
      | .object fields => ToolRequest.ofFields fields
      | _ => ToolRequest.ofFields []))
    | first :: more => .error (.invalid ⟨ToolRequest.schema.title, ⟨first, more⟩⟩)

end CodeAtlas.Conversation
