import CodeAtlas.Conversation.Message
import CodeAtlas.RunLog

/-! A conversation with a model that may ask for tools. The model is asked again and again until it
    asks for no tool; every tool it asks for is run in order, and its outcome joins the conversation
    as text. -/

namespace CodeAtlas.Conversation

/-- Stated on its own, so that the usual configuration is the same term wherever it is written. -/
theorem one_le_usualIterations : 1 ≤ 8 := by decide

/-- How often the model is asked at most, and what it is told first. -/
structure Config where
  maxIterations : Nat := 8
  systemPrompt : String := "You are a helpful assistant that can use tools to help the user."
  one_le_maxIterations : 1 ≤ maxIterations := by first | exact CodeAtlas.Conversation.one_le_usualIterations | decide

/-- How far a run has come: the conversation, what the model was given each time it was asked, the
    successful tool calls, and the text of the last answer. -/
structure Progress where
  messages : List Message
  prompts : List (List Message) := []
  traces : List Trace := []
  answer : String := ""

namespace Progress

/-- How often the model was asked. -/
def iterations (p : Progress) : Nat := p.prompts.length

end Progress

/-- The part of the program that the notes of a conversation belong to. -/
def source : String := "repomap.agent.loop"

def info (text : String) : Note := ⟨.info, source, text⟩

/-- A model answers a conversation, and may fail. -/
abbrev Model (σ : Type) := List Message → σ → Except Failure Response × σ

variable {σ : Type} [Journal σ]

/-- Runs one request, and adds the outcome's text to the conversation. -/
def answerRequest (registry : Tool.Registry σ) (r : Request) (p : Progress) (s : σ) : Progress × σ :=
  let (outcome, s, traces) := registry.runNoted source Tool.Observer.collecting r.call s p.traces
  let text := outcome.render
  let s := Journal.add [info ("Tool " ++ r.call.name ++ " -> " ++ Text.takeChars 100 text)] s
  ({ p with messages := p.messages ++ [.tool text r.id r.call.name], traces }, s)

/-- Runs requests in order, up to the first one that cannot be read. -/
def answerRequests (registry : Tool.Registry σ) :
    List (Except Failure Request) → Progress → σ → Except Failure Unit × Progress × σ
  | [], p, s => (.ok (), p, s)
  | .error f :: _, p, s => (.error f, p, s)
  | .ok r :: rest, p, s =>
    let (p, s) := answerRequest registry r p s
    answerRequests registry rest p s

/-- Asks the model once: the answer, noted down if it has a text. -/
def ask (model : Model σ) (p : Progress) (s : σ) : Except Failure Response × Progress × σ :=
  let p := { p with prompts := p.prompts ++ [p.messages] }
  match model p.messages s with
  | (.error f, s) => (.error f, p, s)
  | (.ok response, s) =>
    let answer := response.text
    let s := if answer.isEmpty then s
      else Journal.add [info ("Assistant content: " ++ Text.takeChars 200 answer)] s
    (.ok response, { p with answer }, s)

/-- Asks the model at most as often as the first argument says. -/
def converse (registry : Tool.Registry σ) (model : Model σ) :
    Nat → Progress → σ → Except Failure Unit × Progress × σ
  | 0, p, s =>
    (.ok (), p, Journal.add [⟨.warning, source,
      "Stopped after " ++ toString p.iterations ++ " iterations without a final answer"⟩] s)
  | left + 1, p, s =>
    match ask model p s with
    | (.error f, p, s) => (.error f, p, s)
    | (.ok response, p, s) =>
      match response.requests with
      | .error f => (.error f, p, s)
      | .ok [] => (.ok (), p, s)
      | .ok requests =>
        match answerRequests registry requests { p with messages := p.messages ++ [.model response] } s with
        | (.error f, p, s) => (.error f, p, s)
        | (.ok (), p, s) => converse registry model left p s

/-- The conversation about a question, with what was said before it. -/
def run (c : Config) (registry : Tool.Registry σ) (model : Model σ) (history : List Message)
    (question : String) (s : σ) : Except Failure Unit × Progress × σ :=
  let s := Journal.add
    [info ("Loaded " ++ toString registry.names.length ++ " tools"), info ("Query: " ++ question)] s
  converse registry model c.maxIterations
    { messages := .system c.systemPrompt :: history ++ [.human question] } s

/-- What is kept of a finished run. -/
def report {α : Type} (question : String) (p : Progress) (latency : α) : RunReport α where
  question := question
  answer := p.answer
  traces := p.traces
  iterations := p.iterations
  latency := latency

/-- A log without room fails a run at its very end. -/
def logFailure : Failure → Failure
  | .exhausted => .raised .runtimeError "coroutine raised StopIteration"
  | f => f

/-- A run that is kept in a log when it finishes, and the id it is kept under. -/
def runLogged {α : Type} (c : Config) (registry : Tool.Registry σ) (model : Model σ)
    (history : List Message) (question : String) (latency : α) (log : RunLog α) (s : σ) :
    Except Failure String × Progress × RunLog α × σ :=
  match run c registry model history question s with
  | (.error f, p, s) => (.error f, p, log, s)
  | (.ok (), p, s) =>
    match log.create (report question p latency) with
    | (.error f, log) => (.error (logFailure f), p, log, s)
    | (.ok record, log) => (.ok record.id, p, log, s)

end CodeAtlas.Conversation
