import CodeAtlas.Options
import CodeAtlas.Service.Endpoint
import CodeAtlas.Service.Request
import CodeAtlas.Service.Response
import CodeAtlas.Session

/-! The service: searching, running tools, asking the model, and looking at the runs so far. What it
    keeps between requests is the session it works in and the log of its runs. -/

namespace CodeAtlas.Service

/-- What the service works with. Without a model no question is answered. -/
structure App (μ α : Type) where
  timing : Timing α
  search : String → Session μ → Except Failure (List Search.Scored) × Session μ
  tools : Tool.Registry (Session μ)
  chat : Option (Conversation.Model (Session μ))

structure State (μ α : Type) where
  session : Session μ
  log : RunLog α := {}

variable {μ α : Type}

/-! ### The endpoints -/

namespace App

def searchSchema : Schema where
  title := "SearchRequest"
  fields := [{ name := "query", kind := .text }]

def querySchema : Schema where
  title := "QueryRequest"
  fields := [{ name := "question", kind := .text, minLength := some 1 }]

def health (a : App μ α) : Value := .object [
  ("status", .text "ok"), ("llm_configured", .bool a.chat.isSome),
  ("tools", .list (a.tools.names.map .text))]

/-- A store that fails is out of service; any other failure is nobody's answer. -/
def searchAnswer (a : App μ α) (body : String) (s : State μ α) : Except Failure Answer × State μ α :=
  match bodyFields searchSchema body with
  | .error refusal => (.ok (.error refusal), s)
  | .ok fields =>
    let (hits, session) := a.search (fieldText fields "query") s.session
    let s := { s with session }
    match hits with
    | .ok hits => (.ok (.ok (itemsValue (hits.map hitValue))), s)
    | .error (.store fault) => (.ok (.error (.storeFailed fault.message)), s)
    | .error f => (.error f, s)

/-- Every call that has the shape of one is answered, whatever becomes of it. -/
def dispatchAnswer (a : App μ α) (body : String) (s : State μ α) : Answer × State μ α :=
  match bodyFields Tool.Call.schema body with
  | .error refusal => (.error refusal, s)
  | .ok fields =>
    let call := Tool.Call.ofFields fields
    let (outcome, session, ()) := a.tools.runNoted Tool.dispatchSource Tool.Observer.none call s.session ()
    (.ok (.object [("ok", .bool outcome.isSuccess), ("output", .text outcome.render)]), { s with session })

/-- The question among the fields of a body. A question with a half of a pair is no question, since its
    length is not known. -/
def wholeQuestion (halves : Bool) (fields : Value.Fields) : Except Refusal String :=
  let question := fieldText fields "question"
  if halves && Text.Surrogate.isIn question.toList then
    .error (.invalid .body [⟨["question"], .unreadableText, .text question⟩])
  else .ok question

/-- A question is put to the model. Only a run that comes to an answer is kept. -/
def queryAnswer (a : App μ α) (latency : α) (body : String) (s : State μ α) : Answer × State μ α :=
  match (bodyFields querySchema body).bind (wholeQuestion s.session.workspace.halves) with
  | .error refusal => (.error refusal, s)
  | .ok question =>
    match a.chat with
    | none => (.error .noModel, s)
    | some chat =>
      match Conversation.runLogged {} a.tools chat [] question latency s.log s.session with
      | (.error f, _, log, session) => (.error (.runFailed f.message), { session, log })
      | (.ok id, p, log, session) => (.ok (answerValue a.timing id p latency), { session, log })

def tracesAnswer (a : App μ α) (address : Address) (s : State μ α) : Answer :=
  (limitOf address).map fun limit => itemsValue ((s.log.recent limit).map (runValue a.timing))

def traceAnswer (a : App μ α) (id : String) (s : State μ α) : Answer :=
  match s.log.get id with
  | .ok run => .ok (runValue a.timing run)
  | .error f => .error (.unknownTrace f.message)

variable [LE α] [DecidableLE α] [Zero α]

def metrics (a : App μ α) (s : State μ α) : Value := figuresValue a.timing (s.log.summary a.timing.mean)

/-- The answer of an endpoint. A question takes as long as `latency` says. -/
def answer (a : App μ α) (latency : α) (e : Endpoint) (r : Request) (s : State μ α) :
    Except Failure Answer × State μ α :=
  match e with
  | .health => (.ok (.ok a.health), s)
  | .tools => (.ok (.ok (itemsValue a.tools.declarations)), s)
  | .search => a.searchAnswer r.body s
  | .dispatch =>
    let (answer, s) := a.dispatchAnswer r.body s
    (.ok answer, s)
  | .query =>
    let (answer, s) := a.queryAnswer latency r.body s
    (.ok answer, s)
  | .traces => (.ok (a.tracesAnswer r.address s), s)
  | .trace id => (.ok (a.traceAnswer id s), s)
  | .metrics => (.ok (.ok (a.metrics s)), s)

/-! ### Requests -/

/-- Responds to a request. A failure that no endpoint has an answer for is left to the caller, and so is an answer that
    cannot be sent; what the endpoint has done by then stands. -/
def respond (a : App μ α) (latency : α) (r : Request) (s : State μ α) : Except Failure Response × State μ α :=
  let s := { s with session.workspace.halves := s.session.workspace.halves || bringsHalves r.body }
  let (response, s) : Except Failure Response × State μ α :=
    match Route.ofPath r.method r.address.path.toList with
    | .endpoint e =>
      let (answer, s) := a.answer latency e r s
      (answer.bind (Response.ofAnswer s.session.workspace.halves), s)
    | .wrongMethod => (Response.ofAnswer s.session.workspace.halves (.error .wrongMethod), s)
    | .elsewhere => (.ok ⟨307, none⟩, s)
    | .nowhere => (Response.ofAnswer s.session.workspace.halves (.error .notFound), s)
  (response.map (Response.forMethod r.method), s)

end App

/-! ### The service over a workspace -/

namespace App

/-- The service over the workspace, whose lookups are answered by `answer`. -/
def ofWorkspace (answer : Workspace → String → Int → Except Failure (List Record))
    (models : Option (Models μ)) (timing : Timing α) : App μ α where
  timing := timing
  search query := Session.inWorkspace (Workspace.hitsBy answer {} query)
  tools := Session.registry (Workspace.toolsBy answer {})
  chat := models.map Session.chat

/-- The service opens with its store made ready, if that is a database, and with no run to look at. -/
def start (session : Session μ) : Except Failure (State μ α) :=
  match session.workspace.store with
  | .memory _ => .ok { session }
  | .database _ =>
    let (done, session) := session.inWorkspace Workspace.prepareStore
    done.map fun _ => { session }

end App

end CodeAtlas.Service
