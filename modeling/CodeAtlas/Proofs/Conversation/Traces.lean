import CodeAtlas.Proofs.Conversation.Transcript
import CodeAtlas.Proofs.RunLog.Kept

/-! Which calls of a conversation leave a trace. The observer is told of a call at one point only, behind everything
    that can fail, so that the traces of a run are those of its successful calls, in the order of its replies. What is
    kept of a run in a log are just these traces. -/

namespace CodeAtlas.Conversation

open Tool

/-- A request for a tool, and how its call ended. -/
structure Dispatched where
  request : ToolRequest
  outcome : Outcome

namespace Dispatched

/-- The request with the text that it is answered with. -/
def answered (d : Dispatched) : ToolRequest × String := (d.request, d.outcome.render)

def message (d : Dispatched) : Message := d.request.reply d.outcome.render

/-- A call that succeeds leaves its arguments as they were given, and the start of the text that it is answered
    with. Any other call leaves nothing. -/
def trace? (d : Dispatched) : Option Trace :=
  if d.outcome.isSuccess then
    some ⟨d.request.name, d.request.arguments, String.ofList (d.outcome.render.toList.take 320)⟩
  else none

end Dispatched

/-- An answer of the model, and what became of its requests for tools. -/
structure Round where
  content : Value
  calls : List Dispatched

namespace Round

def exchange (r : Round) : Exchange := ⟨r.content, r.calls.map Dispatched.answered⟩

end Round

section Runs
variable {σ : Type} {registry : Registry σ} {model : Model σ} {s s' : σ} {traces traces' : List Trace}

/-! ### Single calls -/

/-- The traces grow by that of the call, if it leaves one. -/
theorem traces_of_ends {d : Dispatched}
    (h : registry.Ends Observer.collecting d.request.call s traces d.outcome s' traces') :
    traces' = traces ++ d.trace?.toList := by
  obtain ⟨r, outcome⟩ := d
  cases outcome with
  | success tool output =>
    obtain rfl : tool = r.call.name := h.tool
    obtain ⟨-, -, fitted, -, -, hobserve⟩ := (h.success output).mp rfl
    exact (Prod.mk.inj hobserve).2.symm
  | notFound tool =>
    obtain rfl : tool = r.call.name := h.tool
    obtain ⟨-, rfl⟩ := h.untouched (h.notFound.mp rfl)
    exact (List.append_nil _).symm
  | invalid tool rejection | failed tool failure =>
    obtain ⟨_, _, -, hfails, -⟩ := h.told trivial
    -- All that collects traces is content with each of them, so the call has failed before.
    cases hfails with
    | unobserved _ _ hobserve => cases hobserve
    | _ => exact (List.append_nil _).symm

variable [Journal σ]

/-! ### Calls in their order -/

/-- Calls one after the other, each from where the one before has left the tools and the traces. -/
inductive Calls (registry : Registry σ) : σ → List Trace → List Dispatched → σ → List Trace → Prop
  | nil {s : σ} {traces : List Trace} : Calls registry s traces [] s traces
  | cons {s s₁ s₂ : σ} {traces traces₁ traces₂ : List Trace} {d : Dispatched} {rest : List Dispatched} :
    registry.Ends Observer.collecting d.request.call s traces d.outcome s₁ traces₁ →
    Calls registry (noteReply d.request d.outcome.render (Journal.add (d.outcome.notes source) s₁)) traces₁ rest s₂
      traces₂ →
      Calls registry s traces (d :: rest) s₂ traces₂

/-- Rounds one after the other: the model is given all that was said so far, and all calls that its answer asks for
    are made before it is asked again. -/
inductive Rounds (registry : Registry σ) (model : Model σ) :
    List Message → σ → List Trace → List Round → σ → List Trace → Prop
  | nil {messages : List Message} {s : σ} {traces : List Trace} : Rounds registry model messages s traces [] s traces
  | cons {messages : List Message} {s s₁ s₂ s₃ : σ} {traces traces₁ traces₂ : List Trace} {r : Round}
    {answer : String} {rest : List Round} : model messages s = (.ok r.exchange.response, s₁) →
    Says r.content answer → Calls registry (noteAnswer answer s₁) traces r.calls s₂ traces₁ →
    Rounds registry model (messages ++ r.exchange.messages) s₂ traces₁ rest s₃ traces₂ →
      Rounds registry model messages s traces (r :: rest) s₃ traces₂

theorem traces_of_calls {calls : List Dispatched} (h : Calls registry s traces calls s' traces') :
    traces' = traces ++ calls.filterMap Dispatched.trace? := by
  induction h with
  | nil => exact (List.append_nil _).symm
  | @cons s s₁ s₂ traces traces₁ traces₂ d rest hends hrest ih =>
    have hfirst := traces_of_ends hends
    rw [ih, hfirst, List.append_assoc, List.filterMap_cons]
    cases d.trace? <;> rfl

/-- Behind every text that a request is answered with there is an outcome. -/
theorem Replies.exists_calls {replies : List (ToolRequest × String)}
    (h : Replies registry s traces replies s' traces') :
    ∃ calls, Calls registry s traces calls s' traces' ∧ replies = calls.map Dispatched.answered := by
  induction h with
  | nil => exact ⟨[], .nil, rfl⟩
  | @cons s s₁ s₂ traces traces₁ traces₂ r text rest hdispatch hrest ih =>
    obtain ⟨calls, hcalls, rfl⟩ := ih
    rcases hrun : registry.run Observer.collecting r.call s traces with ⟨outcome, s₀, traces₀⟩
    rw [registry.dispatch_value] at hdispatch
    simp only [Registry.runNoted, hrun, Prod.mk.injEq] at hdispatch
    obtain ⟨rfl, rfl, rfl⟩ := hdispatch
    exact ⟨⟨r, outcome⟩ :: calls, .cons (Registry.ends_of_run hrun) hcalls, rfl⟩

/-! ### Whole conversations -/

theorem traces_of_rounds {messages : List Message} {rounds : List Round}
    (h : Rounds registry model messages s traces rounds s' traces') :
    traces' = traces ++ (rounds.flatMap Round.calls).filterMap Dispatched.trace? := by
  induction h with
  | nil => exact (List.append_nil _).symm
  | cons hanswer hsays hcalls hrest ih =>
    rw [ih, traces_of_calls hcalls, List.flatMap_cons, List.filterMap_append, List.append_assoc]

theorem Talk.exists_rounds {messages : List Message} {exchanges : List Exchange}
    (h : Talk registry model messages s traces exchanges s' traces') :
    ∃ rounds, Rounds registry model messages s traces rounds s' traces' ∧ exchanges = rounds.map Round.exchange := by
  induction h with
  | nil => exact ⟨[], .nil, rfl⟩
  | @cons messages s s₁ s₂ s₃ traces traces₁ traces₂ e answer rest hanswer hsays hreplies hrest ih =>
    obtain ⟨rounds, hrounds, rfl⟩ := ih
    obtain ⟨calls, hcalls, hcalled⟩ := hreplies.exists_calls
    obtain ⟨content, replies⟩ := e
    obtain rfl : replies = calls.map Dispatched.answered := hcalled
    exact ⟨⟨content, calls⟩ :: rounds, .cons hanswer hsays hcalls hrounds, rfl⟩

/-- The message answers a request for a tool. -/
def Message.isReply : Message → Bool
  | .tool _ _ _ => true
  | _ => false

def Exchange.answers (e : Exchange) : List Message := e.replies.map fun reply => reply.1.reply reply.2

theorem filter_messages (e : Exchange) : e.messages.filter Message.isReply = e.answers := by
  have hreplies : e.answers.filter Message.isReply = e.answers := by
    rw [List.filter_eq_self]
    intro message hmessage
    obtain ⟨reply, -, rfl⟩ := List.mem_map.mp hmessage
    rfl
  rw [Exchange.messages, List.filter_cons_of_neg (by exact Bool.false_ne_true)]
  exact hreplies

/-- Up to its end a conversation gets exactly one message for each request, also in its last exchange. -/
theorem converse_answers (hmodel : model.IsUsual) : ∀ (left : Nat) (p : Progress) (s : σ),
    match converse registry model left p s with
    | (_, p', _) => ∃ exchanges s₁, Talk registry model p.messages s p.traces exchanges s₁ p'.traces ∧
        p'.messages.filter Message.isReply = p.messages.filter Message.isReply ++ exchanges.flatMap Exchange.answers
  | 0, p, s => ⟨[], s, .nil, (List.append_nil _).symm⟩
  | left + 1, p, s => by
    obtain ⟨f, s', -, hconverse⟩ | ⟨e, s₁, s₂, traces, hanswer, hreplies, hconverse⟩ :=
      @converse_succ _ _ registry _ hmodel left p s
    · rw [hconverse]
      exact ⟨[], s, .nil, (List.append_nil _).symm⟩
    · rw [hconverse]
      by_cases hnone : e.replies = []
      · rw [if_pos hnone]
        refine ⟨[e], s₂, .cons hanswer (says_contentText _) hreplies .nil, ?_⟩
        simp [Exchange.answers, hnone]
      · rw [if_neg hnone]
        obtain ⟨exchanges, s₃, htalk, hmessages⟩ := converse_answers hmodel left (p.after e traces) s₂
        refine ⟨e :: exchanges, s₃, .cons hanswer (says_contentText _) hreplies htalk, ?_⟩
        rw [hmessages, Progress.after, List.filter_append, filter_messages, List.flatMap_cons, List.append_assoc]

/-- A log gets what is reported of a run that ends well. -/
theorem runLogged_of_run {c : Config} {history : List Message} {question : String} {p : Progress} {α : Type} {latency : α}
    {log : RunLog α} {all : List (RunRecord α)} (hrun : run c registry model history question s = (.ok (), p, s'))
    (hkeeps : log.Keeps all) : runLogged c registry model history question latency log s =
      (.ok (RunLog.record (all.length + 1) (report question p latency)).id, p,
        (log.create (report question p latency)).2, s') := by
  obtain ⟨hcreated, -⟩ := hkeeps.create (report question p latency)
  rw [runLogged, hrun]
  dsimp only
  rw [show log.create (report question p latency) = (_, (log.create (report question p latency)).2) from
    Prod.ext hcreated rfl]

/-- In a run that ends well the traces are those of the calls that succeed, in the order in which the calls are
    answered; every request is answered by one message with the text of its outcome. A log with room for a run keeps
    it as one more record, with its question, its answer, its length and its traces, under the id that is returned. -/
theorem run_traces {c : Config} {history : List Message} {question : String} {p : Progress} (hmodel : model.IsUsual)
    (hrun : run c registry model history question s = (.ok (), p, s')) :
    (∃ rounds s₁, Rounds registry model (opening c history question) (opened registry question s) [] rounds s₁ p.traces ∧
      p.traces = (rounds.flatMap Round.calls).filterMap Dispatched.trace? ∧
      p.messages.filter Message.isReply =
        history.filter Message.isReply ++ (rounds.flatMap Round.calls).map Dispatched.message) ∧
    ∀ (α : Type) (latency : α) (log : RunLog α) (all : List (RunRecord α)), log.Keeps all → 1 ≤ log.limit →
      ∃ (record : RunRecord α) (log' : RunLog α),
        runLogged c registry model history question latency log s = (.ok record.id, p, log', s') ∧
        record.question = question ∧ record.answer = p.answer ∧ record.iterations = p.iterations ∧
        record.traces = p.traces ∧ log'.runs = RunLog.evict log.limit (log.runs ++ [record]) ∧
        log'.get record.id = .ok record ∧ log'.Keeps (all ++ [record]) := by
  constructor
  · have hanswers := @converse_answers _ registry _ _ hmodel c.maxIterations
      { messages := opening c history question } (opened registry question s)
    rw [show converse registry model c.maxIterations { messages := opening c history question }
      (opened registry question s) = (.ok (), p, s') from hrun] at hanswers
    obtain ⟨exchanges, s₁, htalk, hmessages⟩ := hanswers
    obtain ⟨rounds, hrounds, rfl⟩ := htalk.exists_rounds
    refine ⟨rounds, s₁, hrounds, traces_of_rounds hrounds, hmessages.trans ?_⟩
    have hopening : (opening c history question).filter Message.isReply = history.filter Message.isReply := by
      simp [opening, List.filter_append, Message.isReply]
    rw [hopening, List.flatMap_map, List.map_flatMap]
    simp only [Round.exchange, Exchange.answers, List.map_map]
    rfl
  · intro α latency log all hkeeps hroom
    obtain ⟨-, hkeeps'⟩ := hkeeps.create (report question p latency)
    exact ⟨_, _, runLogged_of_run hrun hkeeps, rfl, rfl, rfl, rfl, hkeeps.runs_create _, hkeeps.get_create hroom _, hkeeps'⟩

end Runs

/-- A tool that wants to know whom it greets, and does so with a text. -/
def greetsWith (text : String) : Tool Workspace where
  name := "greets"
  description := ""
  arguments := { title := "Greeting", fields := [{ name := "name", kind := .text }] }
  handler := fun _ w => (.ok text, w)

/-- A model that asks for a greeting, for a tool that is not there, for one that fails, and for a greeting of
    nobody. -/
def asksForGreetings : Model Workspace := fun messages w =>
  (.ok (if messages.length ≤ 2 then .message (.text "") [⟨"greets", [("name", .text "x")], some "1"⟩,
      ⟨"absent", [], some "2"⟩, ⟨"wordless", [], none⟩, ⟨"greets", [], some "4"⟩]
    else .message (.text "done") []), w)

theorem isUsual_asksForGreetings : asksForGreetings.IsUsual := by
  intro messages w response w' h
  obtain ⟨hresponse, -⟩ := Prod.mk.inj h
  obtain rfl := Except.ok.inj hresponse
  split <;> exact ⟨_, _, rfl⟩

/-- A greeting of so many letters. -/
def greetingOf (n : Nat) : String := String.ofList (List.replicate n 'a')

/-- Of four calls one leaves a trace, with the start of the text that it is answered with, which is all that a log for
    one run keeps of them. -/
theorem run_greetings : asksForGreetings.IsUsual ∧ ∃ p w,
    run {} ⟨[greetsWith (greetingOf 321), Registry.wordless]⟩ asksForGreetings [] "why" {} = (.ok (), p, w) ∧
    p.traces = [⟨"greets", [("name", .text "x")], greetingOf 320⟩] ∧
    p.messages.filter Message.isReply = [.tool (greetingOf 321) "1" "greets",
      .tool "tool_not_found: Tool 'absent' not found" "2" "absent", .tool "tool_error: ValueError" "wordless" "wordless",
      .tool "tool_error: name: Field required" "4" "greets"] ∧
    ∃ (record : RunRecord Nat) (log : RunLog Nat),
      runLogged {} ⟨[greetsWith (greetingOf 321), Registry.wordless]⟩ asksForGreetings [] "why" 0 { limit := 1 } {} =
        (.ok record.id, p, log, w) ∧ record.traces = p.traces ∧ log.runs = [record] := by
  generalize htext : greetingOf 321 = text
  obtain ⟨p, w, hrun⟩ : ∃ p w, run {} ⟨[greetsWith text, Registry.wordless]⟩ asksForGreetings [] "why" {} = (.ok (), p, w) :=
    ⟨_, _, rfl⟩
  obtain ⟨-, hlogged⟩ := run_traces isUsual_asksForGreetings hrun
  obtain ⟨record, log, hlog, -, -, -, htraces, hruns, -⟩ :=
    hlogged Nat 0 { limit := 1 } [] (RunLog.keeps_new (by decide)) (by decide)
  have hp : p = (run {} ⟨[greetsWith text, Registry.wordless]⟩ asksForGreetings [] "why" {}).2.1 := by rw [hrun]
  refine ⟨isUsual_asksForGreetings, p, w, hrun, ?_, ?_, record, log, hlog, htraces, hruns⟩
  · have hpreview : String.ofList (text.toList.take 320) = greetingOf 320 := by
      rw [← htext, greetingOf, String.toList_ofList, List.take_replicate]
      rfl
    rw [hp, ← hpreview]
    rfl
  · rw [hp]
    rfl

end CodeAtlas.Conversation
