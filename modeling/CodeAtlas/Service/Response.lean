import CodeAtlas.Conversation.Loop
import CodeAtlas.Search.Ranking
import CodeAtlas.Service.Refusal
import CodeAtlas.Value.Halves

/-! Responses, and how hits, runs and figures are shown in them. -/

namespace CodeAtlas.Service

/-- A response; some have no body. -/
structure Response where
  status : Nat
  body : Option Value

/-- An answer, or why there is none. -/
abbrev Answer := Except Refusal Value

namespace Response

/-- What tells why there is no answer is sent as it is, if it can be sent at all. Where texts may hold
    halves of pairs they stand in the way. -/
def ofRefusal (halves : Bool) (refusal : Refusal) : Except Failure Response :=
  let body := Value.object [("detail", refusal.detail)]
  if !body.isFinite then .error .notFinite
  else match if halves then Text.Surrogate.refusal? body.compact.toList else none with
    | some r => .error (.unencodable r)
    | none => .ok ⟨refusal.status, some body⟩

/-- An answer is sent without its infinite numbers. -/
def ofAnswer (halves : Bool) : Answer → Except Failure Response
  | .ok v => match if halves then v.refusal? else none with
    | some r => .error (.unsendable r)
    | none => .ok ⟨200, some v.withoutInfinite⟩
  | .error refusal => ofRefusal halves refusal

/-- Who asks for the head of a response alone gets no body. -/
def forMethod (method : String) (r : Response) : Response :=
  if method = "HEAD" then { r with body := none } else r

end Response

/-! ### What is shown -/

def optionalText (s : Option String) : Value := (s.map Value.text).getD .null

def hitValue (h : Search.Scored) : Value := .object [
  ("id", optionalText h.id), ("score", .int h.score), ("keywords", optionalText h.record.keywords),
  ("description", optionalText h.record.description), ("content", optionalText h.record.content)]

def itemsValue (items : List Value) : Value := .object [("items", .list items)]

def traceValue (t : Trace) : Value := .object [
  ("name", .text t.name), ("input_payload", .object t.input), ("output_preview", .text t.preview)]

/-- Durations of type `α`: their average, and how they are shown, which nothing stands in the way of. -/
structure Timing (α : Type) where
  mean : List α → α
  shown : α → Value
  refusal?_shown : ∀ x, (shown x).refusal? = none := by intro _; rfl

/-- Durations in milliseconds. -/
def Timing.milliseconds : Timing Float where
  mean := RunLog.floatMean
  shown := .real

variable {α : Type}

def runValue (t : Timing α) (r : RunRecord α) : Value := .object [
  ("trace_id", .text r.id), ("question", .text r.question), ("answer", .text r.answer),
  ("tool_traces", .list (r.traces.map traceValue)), ("iterations", .int r.iterations),
  ("input_tokens", .int r.inputTokens), ("output_tokens", .int r.outputTokens),
  ("latency_ms", t.shown r.latency)]

def figuresValue (t : Timing α) (s : RunLog.Summary α) : Value := .object [
  ("total_runs", .int s.totalRuns), ("avg_latency_ms", t.shown s.average),
  ("p95_latency_ms", t.shown s.percentile95), ("total_tool_calls", .int s.totalToolCalls),
  ("total_input_tokens", .int s.totalInputTokens), ("total_output_tokens", .int s.totalOutputTokens)]

/-- The answer to a question, with what it took to find it. -/
def answerValue (t : Timing α) (id : String) (p : Conversation.Progress) (latency : α) : Value := .object [
  ("answer", .text p.answer), ("trace_id", .text id), ("iterations", .int p.iterations),
  ("latency_ms", t.shown latency), ("tools_used", .list (p.traces.map fun t => .text t.name))]

end CodeAtlas.Service
