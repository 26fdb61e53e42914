import CodeAtlas.Proofs.RunLog.Kept
import CodeAtlas.Proofs.Service.Shown
import CodeAtlas.Service.App

/-! What the service tells of the runs so far. Every question that the model comes to an end with is kept as a run, also
    where the answer to it cannot be sent; so the traces and the figures are those of the newest runs. -/

namespace CodeAtlas.Service

variable {μ α : Type}

/-! ### Turns -/

/-- A request that comes to the service in some state, and how long it takes to answer it. -/
structure Turn (μ α : Type) where
  latency : α
  request : Request
  before : State μ α

namespace Turn

variable (a : App μ α) (t : Turn μ α)

/-- Texts may hold halves of pairs. -/
def halves : Bool := t.before.session.workspace.halves || bringsHalves t.request.body

/-- The session that the request is answered in. -/
def session : Session μ := { t.before.session with workspace.halves := t.halves }

def route : Route := Route.ofPath t.request.method t.request.address.path.toList

/-- The question of a request that brings one. -/
def question? : Option String :=
  if t.route = .endpoint .query then
    ((bodyFields App.querySchema t.request.body).bind (App.wholeQuestion t.halves)).toOption
  else none

/-- The run that the request leads to, if there is a model that comes to an end with its question. -/
def run? : Option (RunRecord α) := do
  let question ← t.question?
  let chat ← a.chat
  match Conversation.run {} a.tools chat [] question t.session with
  | (.error _, _, _) => none
  | (.ok (), p, _) => some {
      id := "trace-" ++ toString (t.before.log.created + 1)
      question := question
      answer := p.answer
      traces := p.traces
      iterations := p.iterations
      inputTokens := Text.tokenCount question
      outputTokens := Text.tokenCount p.answer
      latency := t.latency }

variable [LE α] [DecidableLE α] [Zero α]

def response : Except Failure Response := (a.respond t.latency t.request t.before).1

def after : State μ α := (a.respond t.latency t.request t.before).2

/-- None of the texts keeps the response from being sent: a half of a pair is in none of them, as far as texts may hold
    any by then. -/
def CanSend (texts : String → Prop) : Prop :=
  (t.after a).session.workspace.halves = true → ∀ s, texts s → Text.ArePlain s.toList

/-- What becomes of a question: it is answered with its run, or the run cannot be sent, or there is none. -/
inductive Answers : Except Failure Response → Prop
  | sent {run : RunRecord α} {body : Value} : t.run? a = some run → t.question? = some run.question →
    t.CanSend a (AnswerText run) → Tells run body → Answers (.ok ⟨200, some body⟩)
  | unsendable {run : RunRecord α} {refusal : Text.Surrogate.Refusal} : t.run? a = some run →
    t.question? = some run.question → ¬t.CanSend a (AnswerText run) → Answers (.error (.unsendable refusal))
  | refused {response : Except Failure Response} : t.run? a = none → (∀ body, response ≠ .ok ⟨200, body⟩) →
    Answers response

/-- What becomes of a request for a run that is kept: it is shown, or it cannot be sent. -/
inductive ShowsRun (run : RunRecord α) : Except Failure Response → Prop
  | sent {body : Value} : t.CanSend a (ShownText run) → Shows run body → ShowsRun run (.ok ⟨200, some body⟩)
  | unsendable {refusal : Text.Surrogate.Refusal} : ¬t.CanSend a (ShownText run) →
    ShowsRun run (.error (.unsendable refusal))

end Turn

/-! ### One question -/

namespace Turn

variable {a : App μ α} {t : Turn μ α} {run : RunRecord α} {all : List (RunRecord α)}

/-- The state in which an endpoint is asked. -/
def opened (t : Turn μ α) : State μ α := { t.before with session := t.session }

theorem question?_of_query (h : t.route = .endpoint .query) : t.question? =
    ((bodyFields App.querySchema t.request.body).bind (App.wholeQuestion t.halves)).toOption := if_pos h

/-- A run is about the question that its request has brought. -/
theorem question?_of_run? (h : t.run? a = some run) : t.question? = some run.question := by
  unfold run? at h
  cases hquestion : t.question? with
  | none => simp [hquestion] at h
  | some question =>
    cases hchat : a.chat with
    | none => simp [hquestion, hchat] at h
    | some chat =>
      rcases hdone : Conversation.run {} a.tools chat [] question t.session with ⟨f | ⟨⟩, p, session⟩
      · simp [hquestion, hchat, hdone] at h
      · simp only [hquestion, hchat, hdone, Option.bind_eq_bind, Option.bind_some, Option.some.injEq] at h
        rw [← h]

/-- A question is refused without a run and leaves the log as it is, or it has a run, which is handed to the log. -/
theorem queryAnswer_cases (h : t.route = .endpoint .query) :
    (t.run? a = none ∧ ∃ refusal session,
      a.queryAnswer t.latency t.request.body t.opened = (.error refusal, { session, log := t.before.log })) ∨
    ∃ question p session,
      t.run? a = some (RunLog.record (t.before.log.created + 1) (Conversation.report question p t.latency)) ∧
      a.queryAnswer t.latency t.request.body t.opened =
        match t.before.log.create (Conversation.report question p t.latency) with
        | (.error f, log) => (.error (.runFailed (Conversation.logFailure f).message), { session, log })
        | (.ok kept, log) => (.ok (answerValue a.timing kept.id p t.latency), { session, log }) := by
  have hsession : t.opened.session = t.session := rfl
  have hlog : t.opened.log = t.before.log := rfl
  unfold run? App.queryAnswer Conversation.runLogged
  rw [question?_of_query h, hsession, hlog, show t.session.workspace.halves = t.halves from rfl]
  cases (bodyFields App.querySchema t.request.body).bind (App.wholeQuestion t.halves) with
  | error refusal => exact Or.inl ⟨rfl, refusal, t.session, rfl⟩
  | ok question =>
    cases a.chat with
    | none => exact Or.inl ⟨rfl, .noModel, t.session, rfl⟩
    | some chat =>
      dsimp only
      rcases hdone : Conversation.run {} a.tools chat [] question t.session with ⟨f | ⟨⟩, p, session⟩
      · refine Or.inl ⟨?_, .runFailed f.message, session, rfl⟩
        simp [Except.toOption, hdone]
      · refine Or.inr ⟨question, p, session, ?_, ?_⟩
        · simp only [Except.toOption, hdone, Option.bind_eq_bind, Option.bind_some]
          rfl
        · rcases hmade : t.before.log.create (Conversation.report question p t.latency) with ⟨f | kept, log⟩ <;>
            simp only [hmade]

/-- A question without a run is refused, and leaves the log as it is. -/
theorem queryAnswer_of_run?_none (h : t.route = .endpoint .query) (hrun : t.run? a = none) :
    (∃ refusal, (a.queryAnswer t.latency t.request.body t.opened).1 = .error refusal) ∧
      (a.queryAnswer t.latency t.request.body t.opened).2.log = t.before.log := by
  obtain ⟨-, refusal, session, hanswer⟩ | ⟨question, p, session, hsome, -⟩ := queryAnswer_cases (a := a) h
  · rw [hanswer]
    exact ⟨⟨refusal, rfl⟩, rfl⟩
  · rw [hrun] at hsome
    cases hsome

/-- A question with a run is answered by it, and the run is kept. -/
theorem queryAnswer_of_run? (h : t.route = .endpoint .query) (hrun : t.run? a = some run)
    (hkeeps : t.before.log.Keeps all) :
    (a.queryAnswer t.latency t.request.body t.opened).1 = .ok (answerOf a.timing run) ∧
      (a.queryAnswer t.latency t.request.body t.opened).2.log.Keeps (all ++ [run]) ∧
      (a.queryAnswer t.latency t.request.body t.opened).2.log.limit = t.before.log.limit := by
  obtain ⟨hnone, -⟩ | ⟨question, p, session, hsome, hanswer⟩ := queryAnswer_cases (a := a) h
  · rw [hrun] at hnone
    cases hnone
  obtain rfl := Option.some.inj (hrun.symm.trans hsome)
  obtain ⟨hcreate, hkept⟩ := hkeeps.create (Conversation.report question p t.latency)
  have hlimit := RunLog.limit_create t.before.log (Conversation.report question p t.latency)
  rw [hanswer, hkeeps.created]
  rcases hmade : t.before.log.create (Conversation.report question p t.latency) with ⟨made, log⟩
  rw [hmade] at hcreate hkept hlimit
  obtain rfl : made = _ := hcreate
  exact ⟨congrArg Except.ok (answerValue_eq a.timing _ question p t.latency), hkept, hlimit⟩

end Turn

/-! ### One turn -/

namespace Turn

variable [LE α] [DecidableLE α] [Zero α] {a : App μ α} {t : Turn μ α} {run : RunRecord α} {all : List (RunRecord α)}
  {e : Endpoint}

theorem after_endpoint (h : t.route = .endpoint e) : t.after a = (a.answer t.latency e t.request t.opened).2 := by
  unfold after App.respond
  rw [show Route.ofPath t.request.method t.request.address.path.toList = .endpoint e from h]
  rfl

/-- An endpoint's answer is sent whole: no endpoint answers to who asks for the head alone. -/
theorem response_endpoint (h : t.route = .endpoint e) : t.response a =
    (a.answer t.latency e t.request t.opened).1.bind (Response.ofAnswer (t.after a).session.workspace.halves) := by
  have hmethod : t.request.method ≠ "HEAD" := by
    rw [← Route.method_of_ofPath h]
    exact e.method_ne_head
  rw [after_endpoint h]
  unfold response App.respond
  rw [show Route.ofPath t.request.method t.request.address.path.toList = .endpoint e from h]
  change Except.map _ ((a.answer t.latency e t.request t.opened).1.bind
    (Response.ofAnswer (a.answer t.latency e t.request t.opened).2.session.workspace.halves)) = _
  cases (a.answer t.latency e t.request t.opened).1.bind
    (Response.ofAnswer (a.answer t.latency e t.request t.opened).2.session.workspace.halves) with
  | error f => rfl
  | ok r => exact congrArg Except.ok (Response.forMethod_of_ne hmethod r)

/-- The log is left alone by every request that leads to no run, whatever becomes of it. -/
theorem log_after_of_run?_none (h : t.run? a = none) : (t.after a).log = t.before.log := by
  rcases hroute : t.route with e | _ | _ | _
  · rw [after_endpoint hroute]
    cases e with
    | query => exact (queryAnswer_of_run?_none hroute h).2
    | search =>
      simp only [App.answer, App.searchAnswer]
      repeat' split
      all_goals rfl
    | dispatch =>
      simp only [App.answer, App.dispatchAnswer]
      split <;> rfl
    | _ => rfl
  all_goals
    unfold after App.respond
    rw [show Route.ofPath t.request.method t.request.address.path.toList = _ from hroute]

omit [LE α] [DecidableLE α] [Zero α] in
theorem route_of_run? (h : t.run? a = some run) : t.route = .endpoint .query := by
  by_contra hroute
  simp [run?, question?, hroute] at h

/-- A question without a run is not answered. -/
theorem response_of_run?_none (hroute : t.route = .endpoint .query) (h : t.run? a = none) (body : Option Value) :
    t.response a ≠ .ok ⟨200, body⟩ := by
  obtain ⟨refusal, hrefusal⟩ := (queryAnswer_of_run?_none hroute h).1
  rw [response_endpoint hroute]
  simp only [App.answer, hrefusal]
  exact fun hsent => Response.status_ofRefusal hsent rfl

/-- A value is sent unless one of its texts keeps it from being sent. -/
theorem ofAnswer_cases {v : Value} {texts : String → Prop} (hplain : v.ArePlain ↔ ∀ s, texts s → Text.ArePlain s.toList) :
    (t.CanSend a texts ∧ Response.ofAnswer (t.after a).session.workspace.halves (.ok v) =
      .ok ⟨200, some v.withoutInfinite⟩) ∨
    (¬t.CanSend a texts ∧ ∃ refusal, Response.ofAnswer (t.after a).session.workspace.halves (.ok v) =
      .error (.unsendable refusal)) := by
  unfold CanSend
  rw [← hplain]
  by_cases hsend : (t.after a).session.workspace.halves = true → v.ArePlain
  · exact Or.inl ⟨hsend, Response.ofAnswer_value hsend⟩
  · exact Or.inr ⟨hsend, Response.ofAnswer_unsendable hsend⟩

/-- A request with a run is answered by it, if the answer can be sent. -/
theorem answers_of_run? (h : t.run? a = some run) (hkeeps : t.before.log.Keeps all) : t.Answers a (t.response a) := by
  have hroute := route_of_run? h
  have hanswer : t.response a = Response.ofAnswer (t.after a).session.workspace.halves (.ok (answerOf a.timing run)) := by
    rw [response_endpoint hroute]
    simp only [App.answer, (queryAnswer_of_run? hroute h hkeeps).1]
    rfl
  obtain ⟨hsend, hsent⟩ | ⟨hsend, refusal, hrefusal⟩ := ofAnswer_cases (a := a) (t := t)
    (arePlain_answerOf_iff a.timing run)
  · rw [hanswer, hsent]
    exact .sent h (question?_of_run? h) hsend (tells_answerOf a.timing run)
  · rw [hanswer, hrefusal]
    exact .unsendable h (question?_of_run? h) hsend

/-- An answer that cannot be sent is nobody's answer. -/
theorem response_of_not_canSend (h : t.run? a = some run) (hkeeps : t.before.log.Keeps all)
    (hsend : ¬t.CanSend a (AnswerText run)) (body : Option Value) : t.response a ≠ .ok ⟨200, body⟩ := by
  intro hsent
  have hanswers := answers_of_run? h hkeeps
  rw [hsent] at hanswers
  cases hanswers with
  | sent hsame _ hcan =>
    obtain rfl := Option.some.inj (h.symm.trans hsame)
    exact hsend hcan
  | refused hnone => cases h.symm.trans hnone

theorem answers_of_query (hroute : t.route = .endpoint .query) (hkeeps : t.before.log.Keeps all) :
    t.Answers a (t.response a) := by
  cases h : t.run? a with
  | none => exact .refused h (response_of_run?_none hroute h)
  | some run => exact answers_of_run? h hkeeps

theorem keeps_after_of_run? (h : t.run? a = some run) (hkeeps : t.before.log.Keeps all) :
    (t.after a).log.Keeps (all ++ [run]) ∧ (t.after a).log.limit = t.before.log.limit := by
  have hroute := route_of_run? h
  rw [after_endpoint hroute]
  exact (queryAnswer_of_run? hroute h hkeeps).2

/-- One turn adds its run, if there is one, to what the log keeps. -/
theorem keeps_after (a : App μ α) (hkeeps : t.before.log.Keeps all) :
    (t.after a).log.Keeps (all ++ (t.run? a).toList) ∧ (t.after a).log.limit = t.before.log.limit := by
  cases h : t.run? a with
  | none =>
    rw [log_after_of_run?_none h, Option.toList_none, List.append_nil]
    exact ⟨hkeeps, rfl⟩
  | some run => exact keeps_after_of_run? h hkeeps

/-- A turn adds its run to what is kept, and changes nothing else about it. -/
theorem runs_after (a : App μ α) (hkeeps : t.before.log.Keeps all) :
    (t.after a).log.runs = RunLog.evict t.before.log.limit (t.before.log.runs ++ (t.run? a).toList) := by
  obtain ⟨hafter, hlimit⟩ := t.keeps_after a hkeeps
  rw [hafter.runs, hlimit, hkeeps.runs, RunLog.evict_evict_append]

/-! ### Looking at the runs -/

/-- A run that is kept is shown under its id, if it can be sent. -/
theorem showsRun_of_mem (hroute : t.route = .endpoint (.trace run.id)) (hkeeps : t.before.log.Keeps all)
    (hrun : run ∈ t.before.log.runs) : t.ShowsRun a run (t.response a) := by
  have hanswer : t.response a = Response.ofAnswer (t.after a).session.workspace.halves (.ok (runValue a.timing run)) := by
    rw [response_endpoint hroute]
    simp only [App.answer, App.traceAnswer]
    rw [show t.opened.log = t.before.log from rfl, hkeeps.get_of_mem hrun]
    rfl
  obtain ⟨hsend, hsent⟩ | ⟨hsend, refusal, hrefusal⟩ := ofAnswer_cases (a := a) (t := t)
    (arePlain_runValue_iff a.timing run)
  · rw [hanswer, hsent]
    exact .sent hsend (shows_runValue a.timing run)
  · rw [hanswer, hrefusal]
    exact .unsendable hsend

theorem ShowsRun.exists_body {response : Except Failure Response} (h : t.ShowsRun a run response)
    (hsend : t.CanSend a (ShownText run)) : ∃ body, response = .ok ⟨200, some body⟩ ∧ Shows run body := by
  cases h with
  | sent _ hshows => exact ⟨_, rfl, hshows⟩
  | unsendable hnot => exact absurd hsend hnot

/-- Where no run is kept under the id, there is nothing. -/
theorem response_unknown_trace {id : String} (hroute : t.route = .endpoint (.trace id))
    (hrun : ∀ run ∈ t.before.log.runs, run.id ≠ id) :
    t.response a = .ok ⟨404, some (.object [("detail", .text (Text.quoted ("Trace not found: " ++ id)))])⟩ := by
  rw [response_endpoint hroute]
  simp only [App.answer, App.traceAnswer]
  rw [show t.opened.log = t.before.log from rfl, RunLog.get_of_not_mem hrun]
  have hdetail : (Refusal.unknownTrace (Failure.unknownTrace id).message).detail =
      .text (Text.quoted ("Trace not found: " ++ id)) := rfl
  exact Response.ofRefusal_text hdetail (Text.arePlain_quoted _)

/-- The figures are always there, and count what is kept. -/
theorem response_metrics (hroute : t.route = .endpoint .metrics) : ∃ figures, t.response a = .ok ⟨200, some figures⟩ ∧
    figures.get? "total_runs" = some (.int t.before.log.runs.length) ∧
    figures.get? "total_tool_calls" =
      some (.int ((t.before.log.runs.map fun run => run.traces.length).sum : Nat)) := by
  refine ⟨(figuresValue a.timing (t.before.log.summary a.timing.mean)).withoutInfinite, ?_, rfl, rfl⟩
  rw [response_endpoint hroute]
  refine Response.ofAnswer_value fun _ => (Value.arePlain_object ["total_runs", "avg_latency_ms", "p95_latency_ms",
    "total_tool_calls", "total_input_tokens", "total_output_tokens"] rfl (by decide)).mpr ?_
  simp only [List.forall_mem_cons, List.not_mem_nil, false_imp_iff, implies_true, and_true, arePlain_int, arePlain_shown]

end Turn

/-! ### Histories -/

namespace App

variable [LE α] [DecidableLE α] [Zero α]

/-- The turns of requests that come one after the other. -/
def turns (a : App μ α) : List (α × Request) → State μ α → List (Turn μ α)
  | [], _ => []
  | (latency, r) :: rest, s =>
    let t : Turn μ α := ⟨latency, r, s⟩
    t :: a.turns rest (t.after a)

/-- The state that requests leave, one after the other. -/
def serve (a : App μ α) : List (α × Request) → State μ α → State μ α
  | [], s => s
  | (latency, r) :: rest, s => a.serve rest (Turn.after a ⟨latency, r, s⟩)

/-- The runs of the requests, in order. -/
def runs (a : App μ α) (requests : List (α × Request)) (s : State μ α) : List (RunRecord α) :=
  (a.turns requests s).filterMap (Turn.run? a)

variable {a : App μ α} {s : State μ α} {all : List (RunRecord α)}

omit [LE α] [DecidableLE α] [Zero α] in
theorem keeps_initial (session : Session μ) : ({ session } : State μ α).log.Keeps [] := RunLog.keeps_new (by decide)

/-- The log keeps the newest of all runs there have been. -/
theorem keeps_serve (a : App μ α) : ∀ (requests : List (α × Request)) {s : State μ α} {all : List (RunRecord α)},
    s.log.Keeps all → (a.serve requests s).log.Keeps (all ++ a.runs requests s) ∧
      (a.serve requests s).log.limit = s.log.limit
  | [], s, all, h => by
    rw [show a.runs [] s = [] from rfl, List.append_nil]
    exact ⟨h, rfl⟩
  | (latency, r) :: rest, s, all, h => by
    let t : Turn μ α := ⟨latency, r, s⟩
    obtain ⟨hstep, hlimit⟩ := t.keeps_after a h
    obtain ⟨hrest, hsame⟩ := a.keeps_serve rest hstep
    have hruns : a.runs ((latency, r) :: rest) s = (t.run? a).toList ++ a.runs rest (t.after a) := by
      rw [runs, turns, List.filterMap_cons]
      cases t.run? a <;> rfl
    rw [hruns, ← List.append_assoc]
    exact ⟨hrest, hsame.trans hlimit⟩

/-- Before every turn of a history the log keeps the newest of some runs. -/
theorem exists_keeps_of_mem_turns : ∀ (requests : List (α × Request)) {s : State μ α} {all : List (RunRecord α)},
    s.log.Keeps all → ∀ t ∈ a.turns requests s, ∃ earlier, t.before.log.Keeps earlier ∧ t.before.log.limit = s.log.limit
  | [], _, _, _, _, ht => by cases ht
  | (latency, r) :: rest, s, all, h, t, ht => by
    rcases List.mem_cons.mp ht with rfl | ht
    · exact ⟨all, h, rfl⟩
    · obtain ⟨hstep, hlimit⟩ := Turn.keeps_after (t := ⟨latency, r, s⟩) a h
      obtain ⟨earlier, hearlier, hsame⟩ := exists_keeps_of_mem_turns rest hstep t ht
      exact ⟨earlier, hearlier, hsame.trans hlimit⟩

/-- After any history the traces and the figures are those of the newest thousand runs. A question that the model comes to
    an end with is kept as a run, and it is answered with it unless a half of a pair keeps the answer from being sent; no
    other request changes what is kept. Each of the newest runs is shown under its id, again unless a half is in the way,
    and nothing is shown under any other id. -/
theorem shows_newest_runs (a : App μ α) (session : Session μ) (requests : List (α × Request)) :
    let kept := RunLog.evict 1000 (a.runs requests { session })
    (∀ t ∈ a.turns requests { session },
      (t.route = .endpoint .query → t.Answers a (t.response a)) ∧
      (t.run? a = none → (t.after a).log = t.before.log) ∧
      ∀ run, t.run? a = some run → t.route = .endpoint .query ∧
        (t.after a).log.runs = RunLog.evict 1000 (t.before.log.runs ++ [run])) ∧
    ((a.runs requests { session }).map RunRecord.id).Nodup ∧
    ∀ (latency : α) (r : Request), r.method = "GET" →
      let t : Turn μ α := ⟨latency, r, a.serve requests { session }⟩
      (∀ id, id ≠ "" → '/' ∉ id.toList → r.address.path = "/traces/" ++ id →
        (∀ run ∈ kept, run.id = id → t.ShowsRun a run (t.response a)) ∧
        ((∀ run ∈ kept, run.id ≠ id) → t.response a =
          .ok ⟨404, some (.object [("detail", .text (Text.quoted ("Trace not found: " ++ id)))])⟩)) ∧
      (r.address.path = "/metrics" → ∃ figures, t.response a = .ok ⟨200, some figures⟩ ∧
        figures.get? "total_runs" = some (.int kept.length) ∧
        figures.get? "total_tool_calls" = some (.int ((kept.map fun run => run.traces.length).sum : Nat))) := by
  intro kept
  have hnew : ({ session } : State μ α).log.Keeps [] := keeps_initial session
  obtain ⟨hkeeps, hlimit⟩ := a.keeps_serve requests hnew
  rw [List.nil_append] at hkeeps
  have hkept : (a.serve requests { session }).log.runs = kept := by
    rw [hkeeps.runs, hlimit]
  refine ⟨fun t ht => ?_, hkeeps.nodup, ?_⟩
  · obtain ⟨earlier, hearlier, hroom⟩ := exists_keeps_of_mem_turns requests hnew t ht
    refine ⟨fun hroute => Turn.answers_of_query hroute hearlier, Turn.log_after_of_run?_none, fun run hrun => ?_⟩
    refine ⟨Turn.route_of_run? hrun, ?_⟩
    rw [Turn.runs_after a hearlier, hroom, hrun]
    rfl
  · intro latency r hget t
    have hkeeps : t.before.log.Keeps (a.runs requests { session }) := hkeeps
    have hkept : t.before.log.runs = kept := hkept
    refine ⟨fun id hne hsegment hpath => ?_, fun hpath => ?_⟩
    · have hroute : t.route = .endpoint (.trace id) := by
        rw [Turn.route, hget, hpath]
        exact Route.ofPath_trace hne hsegment
      refine ⟨fun run hrun hid => ?_, fun hother => Turn.response_unknown_trace hroute (hkept ▸ hother)⟩
      subst hid
      exact Turn.showsRun_of_mem hroute hkeeps (hkept ▸ hrun)
    · have hroute : t.route = .endpoint .metrics := by
        rw [Turn.route, hget, hpath]
        exact Route.ofPath_metrics
      exact hkept ▸ Turn.response_metrics hroute

/-- A service over an empty workspace, with a model that always says yes. -/
def agreeing : App Unit Nat := ofWorkspace Workspace.answer
  (some {
    chat := fun _ m => (.ok (.message (.text "Yes.") []), m)
    summarize := fun _ m => (.error .exhausted, m) })
  { mean := fun _ => 0, shown := fun n => .int n }

/-- A question, and another one without a word. -/
def twoQuestions : List (Nat × Request) := [
  (3, ⟨"POST", { path := "/query" }, "\x7b\"question\": \"Is it?\"\x7d"⟩),
  (4, ⟨"POST", { path := "/query" }, "\x7b\"question\": \"\"\x7d"⟩)]

/-- The first question is answered and shown; the second one is neither. -/
theorem shows_run_of_agreeing :
    let s := agreeing.serve twoQuestions { session := ⟨{}, ()⟩ }
    let get := fun path => Turn.response agreeing ⟨0, ⟨"GET", { path }, ""⟩, s⟩
    (∃ body, get "/traces/trace-1" = .ok ⟨200, some body⟩ ∧ body.get? "question" = some (.text "Is it?") ∧
      body.get? "answer" = some (.text "Yes.") ∧ body.get? "iterations" = some (.int 1)) ∧
    get "/traces/trace-2" = .ok ⟨404, some (.object [("detail", .text "'Trace not found: trace-2'")])⟩ ∧
    ∃ figures, get "/metrics" = .ok ⟨200, some figures⟩ ∧ figures.get? "total_runs" = some (.int 1) ∧
      figures.get? "total_tool_calls" = some (.int 0) := by
  intro s get
  have hruns : (agreeing.runs twoQuestions { session := ⟨{}, ()⟩ }).map
      (fun run => (run.id, run.question, run.answer, run.iterations, run.traces.length)) =
      [("trace-1", "Is it?", "Yes.", 1, 0)] := by
    decide +kernel
  obtain ⟨run, hrun, htold⟩ := List.map_eq_singleton_iff.mp hruns
  obtain ⟨hid, hquestion, hanswer, hiterations, hcalls⟩ : run.id = "trace-1" ∧ run.question = "Is it?" ∧
      run.answer = "Yes." ∧ run.iterations = 1 ∧ run.traces.length = 0 := by
    simpa only [Prod.mk.injEq] using htold
  obtain ⟨-, -, hprobe⟩ := shows_newest_runs agreeing ⟨{}, ()⟩ twoQuestions
  have hkept : RunLog.evict 1000 [run] = [run] := by simp [RunLog.evict]
  rw [hrun, hkept] at hprobe
  refine ⟨?_, ?_, ?_⟩
  · have hshown := ((hprobe 0 ⟨"GET", { path := "/traces/trace-1" }, ""⟩ rfl).1 "trace-1" (by decide) (by decide)
      (by decide)).1 run (List.mem_singleton_self run) hid
    obtain ⟨body, hbody, hshows⟩ := hshown.exists_body fun hhalves => absurd hhalves (by decide +kernel)
    exact ⟨body, hbody, hquestion ▸ hshows.question, hanswer ▸ hshows.answer, hiterations ▸ hshows.iterations⟩
  · refine ((hprobe 0 ⟨"GET", { path := "/traces/trace-2" }, ""⟩ rfl).1 "trace-2" (by decide) (by decide)
      (by decide)).2 fun other hother => ?_
    obtain rfl : other = run := List.mem_singleton.mp hother
    rw [hid]
    decide
  · obtain ⟨figures, hfigures, htotal, hsum⟩ := (hprobe 0 ⟨"GET", { path := "/metrics" }, ""⟩ rfl).2 rfl
    refine ⟨figures, hfigures, htotal, hsum.trans ?_⟩
    simp [hcalls]

/-- A text that is a half of a pair. -/
def half : String := String.singleton (Text.Surrogate.charOf 0xD800)

/-- A service over an empty workspace, with a model that says no more than a half of a pair. -/
def sayingHalf : App Unit Nat := ofWorkspace Workspace.answer
  (some {
    chat := fun _ m => (.ok (.message (.text half) []), m)
    summarize := fun _ m => (.error .exhausted, m)
    halves := fun _ => true })
  { mean := fun _ => 0, shown := fun n => .int n }

/-- A service over an empty workspace, with a model that asks for a file before it says yes, and brings an infinite number
    with the arguments. -/
def askingInfinite : App Bool Nat := ofWorkspace Workspace.answer
  (some {
    chat := fun _ asked =>
      if asked then (.ok (.message (.text "Yes.") []), true)
      else (.ok (.message (.text "")
        [⟨"file_reader", [("target_file", .text "a"), ("x", .real (Float.ofScientific 1 false 400))], some "1"⟩]), true)
    summarize := fun _ m => (.error .exhausted, m) })
  { mean := fun _ => 0, shown := fun n => .int n }

def oneQuestion : List (Nat × Request) := [(3, ⟨"POST", { path := "/query" }, "\x7b\"question\": \"Is it?\"\x7d"⟩)]

/-- The arguments ask for a file, and bring an infinite number besides. -/
def bringInfinite : Value.Fields → Bool
  | [("target_file", .text "a"), ("x", .real x)] => !x.isFinite
  | _ => false

theorem eq_of_bringInfinite {fields : Value.Fields} (h : bringInfinite fields = true) :
    ∃ x : Float, x.isFinite = false ∧ fields = [("target_file", .text "a"), ("x", .real x)] := by
  unfold bringInfinite at h
  split at h
  · exact ⟨_, by simpa using h, rfl⟩
  · cases h

/-- Nobody gets the half. -/
theorem unanswered_of_sayingHalf (t : Turn Unit Nat) (ht : t ∈ sayingHalf.turns oneQuestion { session := ⟨{}, ()⟩ })
    (body : Option Value) : t.response sayingHalf ≠ .ok ⟨200, body⟩ := by
  have hfirst : t = ⟨3, ⟨"POST", { path := "/query" }, "\x7b\"question\": \"Is it?\"\x7d"⟩, { session := ⟨{}, ()⟩ }⟩ :=
    List.mem_singleton.mp ht
  have hone : (t.run? sayingHalf).map RunRecord.answer = some half := by
    rw [hfirst]
    decide +kernel
  have hhalves : (t.after sayingHalf).session.workspace.halves = true := by
    rw [hfirst]
    decide +kernel
  obtain ⟨run, hrun, hanswer⟩ := Option.map_eq_some_iff.mp hone
  obtain ⟨earlier, hearlier, -⟩ := exists_keeps_of_mem_turns oneQuestion (keeps_initial ⟨{}, ()⟩) t ht
  refine Turn.response_of_not_canSend hrun hearlier (fun hsend => ?_) body
  have hplain := hsend hhalves _ .answer
  rw [hanswer, ← Text.refusal?_eq_none_iff] at hplain
  exact absurd hplain (by decide)

theorem runs_of_askingInfinite : ∃ run t, ∃ x : Float, x.isFinite = false ∧
    askingInfinite.runs oneQuestion { session := ⟨{}, false⟩ } = [run] ∧ run.id = "trace-1" ∧ run.traces = [t] ∧
    t.input = [("target_file", .text "a"), ("x", .real x)] := by
  have hruns : (askingInfinite.runs oneQuestion { session := ⟨{}, false⟩ }).map (fun run =>
      (run.id, run.traces.map fun t => bringInfinite t.input)) = [("trace-1", [true])] := by
    decide +kernel
  obtain ⟨run, hrun, htold⟩ := List.map_eq_singleton_iff.mp hruns
  obtain ⟨hid, htraces⟩ := Prod.mk.inj htold
  obtain ⟨t, ht, hinput⟩ := List.map_eq_singleton_iff.mp htraces
  obtain ⟨x, hx, hinput⟩ := eq_of_bringInfinite hinput
  exact ⟨run, t, x, hx, hrun, hid, ht, hinput⟩

/-- A run whose answer nobody has got is kept and counted all the same; and where a run is shown, an infinite argument of
    its calls is not. -/
theorem exists_runs_told_otherwise :
    (let s := sayingHalf.serve oneQuestion { session := ⟨{}, ()⟩ }
     (∀ t ∈ sayingHalf.turns oneQuestion { session := ⟨{}, ()⟩ }, ∀ body, t.response sayingHalf ≠ .ok ⟨200, body⟩) ∧
     ∃ figures, Turn.response sayingHalf ⟨0, ⟨"GET", { path := "/metrics" }, ""⟩, s⟩ = .ok ⟨200, some figures⟩ ∧
       figures.get? "total_runs" = some (.int 1)) ∧
    let s := askingInfinite.serve oneQuestion { session := ⟨{}, false⟩ }
    ∃ run t, ∃ x : Float, ∃ body shown,
      askingInfinite.runs oneQuestion { session := ⟨{}, false⟩ } = [run] ∧ run.traces = [t] ∧
      t.input = [("target_file", .text "a"), ("x", .real x)] ∧
      Turn.response askingInfinite ⟨0, ⟨"GET", { path := "/traces/trace-1" }, ""⟩, s⟩ = .ok ⟨200, some body⟩ ∧
      body.get? "tool_traces" = some (.list [shown]) ∧
      shown.get? "input_payload" = some (.object [("target_file", .text "a"), ("x", .null)]) := by
  refine ⟨⟨unanswered_of_sayingHalf, ?_⟩, ?_⟩
  · have hone : (sayingHalf.serve oneQuestion { session := ⟨{}, ()⟩ }).log.runs.length = 1 := by decide +kernel
    -- the state is a variable from here on, or it would be computed again and again
    generalize sayingHalf.serve oneQuestion { session := ⟨{}, ()⟩ } = s at hone
    obtain ⟨figures, hfigures, htotal, -⟩ := Turn.response_metrics (a := sayingHalf)
      (t := ⟨0, ⟨"GET", { path := "/metrics" }, ""⟩, s⟩) Route.ofPath_metrics
    rw [hone] at htotal
    exact ⟨figures, hfigures, htotal⟩
  · obtain ⟨run, t, x, hx, hrun, hid, ht, hinput⟩ := runs_of_askingInfinite
    have hhalves : (Turn.after askingInfinite ⟨0, ⟨"GET", { path := "/traces/trace-1" }, ""⟩,
        askingInfinite.serve oneQuestion { session := ⟨{}, false⟩ }⟩).session.workspace.halves = false := by
      decide +kernel
    obtain ⟨hkeeps, hlimit⟩ := askingInfinite.keeps_serve oneQuestion (keeps_initial ⟨{}, false⟩)
    have hkept : RunLog.evict 1000 [run] = [run] := by simp [RunLog.evict]
    have hmem := hkeeps.runs
    rw [hlimit, List.nil_append, hrun, hkept] at hmem
    generalize askingInfinite.serve oneQuestion { session := ⟨{}, false⟩ } = s at hkeeps hmem hhalves
    have hroute : Route.ofPath "GET" "/traces/trace-1".toList = .endpoint (.trace run.id) := by
      rw [hid]
      decide
    have hshown := Turn.showsRun_of_mem (a := askingInfinite) (t := ⟨0, ⟨"GET", { path := "/traces/trace-1" }, ""⟩, s⟩)
      hroute hkeeps (hmem ▸ List.mem_singleton_self run)
    obtain ⟨body, hbody, hshows⟩ := hshown.exists_body fun h => absurd (hhalves.symm.trans h) Bool.false_ne_true
    obtain ⟨shown, hcalls, hcall⟩ := hshows.exists_call ht
    obtain ⟨arguments, harguments, hsent⟩ := hcall.arguments
    rw [hinput, Value.sentAs_iff] at hsent
    refine ⟨run, t, x, body, shown, hrun, ht, hinput, hbody, hcalls, harguments.trans (congrArg some (hsent.trans ?_))⟩
    simp [Value.withoutInfinite, Value.fieldsWithoutInfinite, hx]

end App

end CodeAtlas.Service
