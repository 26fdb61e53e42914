import CodeAtlas.Journal
import CodeAtlas.Tool.Registry

/-! Dispatching tool calls. Every call ends in an outcome, and every outcome has a text: in a
    conversation nothing can be raised. -/

namespace CodeAtlas.Tool

/-- A request for a tool, as a model makes it. -/
structure Call where
  name : String
  arguments : Value.Fields

namespace Call

/-- The shape of a request: a name, and an object of arguments that may be left out. -/
def schema : Schema where
  title := "ToolCallPayload"
  fields := [
    { name := "name", kind := .text },
    { name := "arguments", kind := .object, default := some (.object []) }]

/-- The call of fields that fit the schema. -/
def ofFields (fields : Value.Fields) : Call :=
  match fields with
  | [(_, .text name), (_, .object arguments)] => ⟨name, arguments⟩
  | _ => ⟨"", []⟩

def ofValue (v : Value) : Except Schema.Rejection Call := (schema.validate v).map ofFields

end Call

/-- How a tool call ended. -/
inductive Outcome where
  | success (tool output : String)
  | notFound (tool : String)
  | invalid (tool : String) (rejection : Schema.Rejection)
  | failed (tool : String) (failure : Failure)

namespace Outcome

def tool : Outcome → String
  | .success tool _ => tool
  | .notFound tool => tool
  | .invalid tool _ => tool
  | .failed tool _ => tool

def isSuccess : Outcome → Bool
  | .success _ _ => true
  | _ => false

/-- What is told of an outcome that is no success. -/
def message : Outcome → String
  | .success _ _ => ""
  | .notFound tool => "Tool '" ++ tool ++ "' not found"
  | .invalid _ rejection => rejection.message
  | .failed _ failure => failure.text

/-- The mark in front of a message. -/
def mark : Outcome → String
  | .success _ _ => ""
  | .notFound _ => "tool_not_found: "
  | _ => "tool_error: "

/-- The text that the conversation goes on with. -/
def render : Outcome → String
  | .success _ output => output
  | o => o.mark ++ o.message

/-- What is noted down of an outcome. -/
def notes (source : String) : Outcome → List Note
  | .success _ _ => []
  | .notFound tool => [⟨.warning, source, "Tool not found: " ++ tool⟩]
  | .invalid tool rejection =>
    [⟨.warning, source, "Invalid arguments for " ++ tool ++ ": " ++ rejection.headline⟩]
  | .failed tool _ => [⟨.error, source, "Tool " ++ tool ++ " failed"⟩]

end Outcome

/-- The part of the program that dispatches, when it works on its own. -/
def dispatchSource : String := "repomap.agent.dispatcher"

/-- The sort of outcome that a failure makes. Arguments that the handler itself finds unfit count as
    invalid too. -/
def failureOutcome (tool : String) : Failure → Outcome
  | .invalid rejection => .invalid tool rejection
  | failure => .failed tool failure

namespace Registry

variable {σ τ : Type}

/-- Runs a call to its outcome. -/
def run (r : Registry σ) (observe : Observer τ) (call : Call) (s : σ) (t : τ) : Outcome × σ × τ :=
  match r.get? call.name with
  | none => (.notFound call.name, s, t)
  | some _ =>
    match r.execute observe call.name call.arguments s t with
    | (.ok output, s, t) => (.success call.name output, s, t)
    | (.error failure, s, t) => (failureOutcome call.name failure, s, t)

/-- Runs a call and notes down how it ended. -/
def runNoted [Journal σ] (r : Registry σ) (source : String) (observe : Observer τ) (call : Call)
    (s : σ) (t : τ) : Outcome × σ × τ :=
  let (outcome, s, t) := r.run observe call s t
  (outcome, Journal.add (outcome.notes source) s, t)

/-- The outcome of a request that need not have the shape of one, as text. -/
def dispatch [Journal σ] (r : Registry σ) (source : String) (observe : Observer τ) (request : Value)
    (s : σ) (t : τ) : String × σ × τ :=
  match Call.ofValue request with
  | .error rejection => ((Outcome.invalid "" rejection).render, s, t)
  | .ok call =>
    let (outcome, s, t) := r.runNoted source observe call s t
    (outcome.render, s, t)

end Registry

end CodeAtlas.Tool
