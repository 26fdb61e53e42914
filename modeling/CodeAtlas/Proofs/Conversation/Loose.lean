import CodeAtlas.Proofs.Conversation.Requests
import CodeAtlas.Proofs.Conversation.Traces
import CodeAtlas.Proofs.Conversation.Transcript

/-! Conversations with a model whose calls may be of any shape. Every call whose arguments can be read is answered by
    one message, whatever its name and id are and whatever its tool makes of it. The first one with arguments that
    cannot be read ends the run with a failure, and is the only thing that does. -/

namespace CodeAtlas.Conversation

open Tool

variable {σ : Type} [Journal σ] {registry : Registry σ} {model : Model σ}

/-! ### Calls -/

/-- A call that was answered: what was read from its arguments, and the text of the answer. -/
structure Served where
  call : Value.Fields
  arguments : Value.Fields
  text : String

namespace Served

def payload (d : Served) : Call := ⟨callName d.call, d.arguments⟩

def message (d : Served) : Message := .tool d.text (callId d.call) (callName d.call)

end Served

def noteServed (d : Served) (s : σ) : σ :=
  Journal.add [info ("Tool " ++ callName d.call ++ " -> " ++ Text.takeChars 100 d.text)] s

/-- Calls are read and dispatched one after the other, and each text is that of its call. The traces are those of the
    calls so far. -/
inductive Serves (registry : Registry σ) : σ → List Trace → List Served → σ → List Trace → Prop
  | nil {s : σ} {traces : List Trace} : Serves registry s traces [] s traces
  | cons {s s₁ s₂ : σ} {traces traces₁ traces₂ : List Trace} {d : Served} {rest : List Served} :
    ReadsAs (callArguments d.call) d.arguments →
    registry.dispatch source Observer.collecting d.payload.value s traces = (d.text, s₁, traces₁) →
    Serves registry (noteServed d s₁) traces₁ rest s₂ traces₂ → Serves registry s traces (d :: rest) s₂ traces₂

/-- What comes of the calls that are not answered: nothing where there are none, and otherwise the failure of the first
    one, whose arguments cannot be read. -/
inductive Leaves : List Value.Fields → Except Failure Unit → Prop
  | none : Leaves [] (.ok ())
  | unread {call : Value.Fields} {rest : List Value.Fields} {f : Failure} :
    (∀ arguments, ¬ReadsAs (callArguments call) arguments) → requestOf (.object call) = .error f →
      Leaves (call :: rest) (.error f)

/-- Calls are answered up to the first whose arguments cannot be read. -/
theorem answerRequests_serves : ∀ (calls : List Value.Fields) (p : Progress) (s : σ), ∃ served left outcome s₁ traces₁,
    calls = served.map Served.call ++ left ∧ Serves registry s p.traces served s₁ traces₁ ∧ Leaves left outcome ∧
      answerRequests registry (calls.map fun call => requestOf (.object call)) p s =
        (outcome, { p with messages := p.messages ++ served.map Served.message, traces := traces₁ }, s₁)
  | [], p, s => ⟨[], [], _, s, p.traces, rfl, .nil, .none, by simp [answerRequests]⟩
  | call :: rest, p, s => by
    cases hread : requestOf (.object call) with
    | error f =>
      have hunread : ∀ arguments, ¬ReadsAs (callArguments call) arguments := fun arguments h => by
        rw [requestOf_eq_ok_iff.mpr ⟨arguments, h, rfl⟩] at hread
        cases hread
      refine ⟨[], call :: rest, _, s, p.traces, rfl, .nil, .unread hunread hread, ?_⟩
      rw [List.map_cons, hread]
      simp [answerRequests]
    | ok r =>
      obtain ⟨arguments, harguments, rfl⟩ := requestOf_eq_ok_iff.mp hread
      rcases hdispatch : registry.dispatch source Observer.collecting (Call.value ⟨callName call, arguments⟩) s p.traces
        with ⟨text, s₁, traces₁⟩
      have hanswer : answerRequest registry ⟨⟨callName call, arguments⟩, callId call⟩ p s =
          ({ p with messages := p.messages ++ [Served.message ⟨call, arguments, text⟩], traces := traces₁ },
            noteServed ⟨call, arguments, text⟩ s₁) := answerRequest_of_dispatch hdispatch
      obtain ⟨served, left, outcome, s₂, traces₂, hcalls, hserves, hleaves, hrest⟩ := answerRequests_serves rest
        { p with messages := p.messages ++ [Served.message ⟨call, arguments, text⟩], traces := traces₁ }
        (noteServed ⟨call, arguments, text⟩ s₁)
      refine ⟨⟨call, arguments, text⟩ :: served, left, outcome, s₂, traces₂, by rw [hcalls, List.map_cons, List.cons_append],
        .cons harguments hdispatch hserves, hleaves, ?_⟩
      -- The reply stands in the conversation before the other calls are read.
      rw [List.map_cons, hread, answerRequests, hanswer]
      dsimp only
      rw [hrest]
      simp

/-! ### Turns -/

/-- The answer is an object with a content and a list of calls of any shape. -/
def Response.IsLoose (response : Response) (calls : List Value.Fields) : Prop :=
  ∃ attributes content, response = .object attributes ∧ Value.Fields.get? attributes "content" = some content ∧
    Value.Fields.get? attributes "tool_calls" = some (.list (calls.map .object))

/-- The model always answers, and with such an object. -/
def Model.IsLoose (model : Model σ) : Prop :=
  ∀ messages s, ∃ response calls s', model messages s = (.ok response, s') ∧ response.IsLoose calls

theorem Response.IsLoose.requests_eq {response : Response} {calls : List Value.Fields} (h : response.IsLoose calls) :
    response.requests = .ok (calls.map fun call => requestOf (.object call)) := by
  obtain ⟨attributes, content, rfl, -, hcalls⟩ := h
  simp only [Response.requests, hcalls, Option.getD_some]
  cases calls with
  | nil => rfl
  | cons call rest => simp [Value.isEmptyLike, Value.items?]

/-- An answer of the model, the calls in it that were answered, and those that were not. -/
structure Turn where
  response : Response
  served : List Served
  left : List Value.Fields

namespace Turn

def calls (t : Turn) : List Value.Fields := t.served.map Served.call ++ t.left

/-- Only an answer with calls joins the conversation. -/
def messages (t : Turn) : List Message :=
  if t.calls = [] then [] else .model t.response :: t.served.map Served.message

end Turn

/-- The progress after a turn. -/
def Progress.afterTurn (p : Progress) (t : Turn) (traces : List Trace) : Progress where
  messages := p.messages ++ t.messages
  prompts := p.prompts ++ [p.messages]
  traces := traces
  answer := t.response.text

/-- A turn ends the conversation if there is no call in it, or one that cannot be read. -/
theorem converse_turn (hmodel : model.IsLoose) (left : Nat) (p : Progress) (s : σ) : ∃ t outcome s₁ s₂ traces,
    model p.messages s = (.ok t.response, s₁) ∧ t.response.IsLoose t.calls ∧
    Serves registry (noteAnswer t.response.text s₁) p.traces t.served s₂ traces ∧ Leaves t.left outcome ∧
    (∀ f, outcome = .error f → converse registry model (left + 1) p s = (.error f, p.afterTurn t traces, s₂)) ∧
    (outcome = .ok () → converse registry model (left + 1) p s =
      if t.calls = [] then (.ok (), p.afterTurn t traces, s₂) else converse registry model left (p.afterTurn t traces) s₂) := by
  obtain ⟨response, calls, s₁, hanswer, hloose⟩ := hmodel p.messages s
  obtain ⟨served, rest, outcome, s₂, traces, hcalls, hserves, hleaves, hrun⟩ := @answerRequests_serves _ _ registry calls
    { p with
      messages := p.messages ++ [.model response]
      prompts := p.prompts ++ [p.messages]
      answer := response.text } (noteAnswer response.text s₁)
  have ht : (Turn.mk response served rest).calls = calls := hcalls.symm
  refine ⟨⟨response, served, rest⟩, outcome, s₁, s₂, traces, hanswer, ht ▸ hloose, hserves, hleaves, ?_⟩
  simp only [converse, ask_of_answer hanswer, hloose.requests_eq]
  -- An answer without calls does not join the conversation.
  cases calls with
  | nil =>
    obtain ⟨hserved, rfl⟩ := List.append_eq_nil_iff.mp hcalls.symm
    obtain rfl := List.map_eq_nil_iff.mp hserved
    cases hserves
    cases hleaves
    simp [ht, Progress.afterTurn, Turn.messages]
  | cons call others =>
    rw [List.map_cons] at hrun ⊢
    simp only [hrun, ht, Progress.afterTurn, Turn.messages, List.cons_ne_nil, if_false]
    cases outcome <;> simp

/-! ### Whole conversations -/

/-- The model answers a conversation turn by turn, each time with all that was said so far. -/
inductive Speaks (registry : Registry σ) (model : Model σ) :
    List Message → σ → List Trace → List Turn → σ → List Trace → Prop
  | nil {messages : List Message} {s : σ} {traces : List Trace} : Speaks registry model messages s traces [] s traces
  | cons {messages : List Message} {s s₁ s₂ s₃ : σ} {traces traces₁ traces₂ : List Trace} {t : Turn} {rest : List Turn} :
    model messages s = (.ok t.response, s₁) → t.response.IsLoose t.calls →
    Serves registry (noteAnswer t.response.text s₁) traces t.served s₂ traces₁ →
    Speaks registry model (messages ++ t.messages) s₂ traces₁ rest s₃ traces₂ →
      Speaks registry model messages s traces (t :: rest) s₃ traces₂

/-- The last turn decides how a conversation ends; all calls of those before it were answered. -/
structure Closes (left : Nat) (p : Progress) (before : List Turn) (last : Turn) (outcome : Except Failure Unit)
    (p' : Progress) : Prop where
  answered : ∀ t ∈ before, t.calls ≠ [] ∧ t.left = []
  leaves : Leaves last.left outcome
  settled : outcome = .ok () → before.length < left → last.calls = []
  messages : p'.messages = p.messages ++ (before ++ [last]).flatMap Turn.messages
  answer : p'.answer = last.response.text
  iterations : p'.iterations = p.iterations + (before.length + 1)
  bounded : before.length ≤ left

namespace Closes
variable {left : Nat} {p p' : Progress} {t last : Turn} {before : List Turn} {outcome : Except Failure Unit}
  {traces : List Trace}

theorem single (hleaves : Leaves t.left outcome) (hsettled : outcome = .ok () → 0 < left → t.calls = []) :
    Closes left p [] t outcome (p.afterTurn t traces) where
  answered := fun _ h => nomatch h
  leaves := hleaves
  settled := hsettled
  messages := by simp [Progress.afterTurn]
  answer := rfl
  iterations := by simp [Progress.iterations, Progress.afterTurn]
  bounded := Nat.zero_le _

theorem cons (hcalls : t.calls ≠ []) (hleft : t.left = []) (h : Closes left (p.afterTurn t traces) before last outcome p') :
    Closes (left + 1) p (t :: before) last outcome p' where
  answered := List.forall_mem_cons.mpr ⟨⟨hcalls, hleft⟩, h.answered⟩
  leaves := h.leaves
  settled := fun hok hless => h.settled hok (Nat.lt_of_succ_lt_succ hless)
  messages := by simp [h.messages, Progress.afterTurn]
  answer := h.answer
  iterations := by
    rw [h.iterations]
    simp only [Progress.iterations, Progress.afterTurn, List.length_append, List.length_cons, List.length_nil]
    omega
  bounded := Nat.succ_le_succ h.bounded

end Closes

theorem left_of_leaves {left : List Value.Fields} (h : Leaves left (.ok ())) : left = [] := by
  cases h
  rfl

/-- By induction on how often the model may still be asked: a turn that does not end the conversation leads to another
    as long as that is not used up. -/
theorem converse_speaks (hmodel : model.IsLoose) : ∀ (left : Nat) (p : Progress) (s : σ),
    ∃ outcome p' s' before last s₁, converse registry model (left + 1) p s = (outcome, p', s') ∧
      Speaks registry model p.messages s p.traces (before ++ [last]) s₁ p'.traces ∧ Closes left p before last outcome p' := by
  intro left
  induction left with
  | zero =>
    intro p s
    obtain ⟨t, outcome, s₁, s₂, traces, hanswer, hloose, hserves, hleaves, herror, hok⟩ :=
      @converse_turn _ _ registry _ hmodel 0 p s
    refine ⟨outcome, p.afterTurn t traces, (converse registry model 1 p s).2.2, [], t, s₂, ?_,
      .cons hanswer hloose hserves .nil, .single hleaves fun _ h => absurd h (Nat.lt_irrefl 0)⟩
    cases outcome with
    | error f => rw [herror f rfl]
    | ok _ =>
      rw [hok rfl]
      split <;> rfl
  | succ left ih =>
    intro p s
    obtain ⟨t, outcome, s₁, s₂, traces, hanswer, hloose, hserves, hleaves, herror, hok⟩ :=
      @converse_turn _ _ registry _ hmodel (left + 1) p s
    cases outcome with
    | error f =>
      exact ⟨_, _, _, [], t, s₂, herror f rfl, .cons hanswer hloose hserves .nil, .single hleaves fun h => nomatch h⟩
    | ok _ =>
      by_cases hcalls : t.calls = []
      · refine ⟨_, _, _, [], t, s₂, (hok rfl).trans (if_pos hcalls), .cons hanswer hloose hserves .nil, ?_⟩
        exact .single hleaves fun _ _ => hcalls
      · obtain ⟨outcome, p', s', before, last, s₃, hrest, hspeaks, hcloses⟩ := ih (p.afterTurn t traces) s₂
        exact ⟨outcome, p', s', t :: before, last, s₃, ((hok rfl).trans (if_neg hcalls)).trans hrest,
          .cons hanswer hloose hserves hspeaks, hcloses.cons hcalls (left_of_leaves hleaves)⟩

/-- A run with a model that always answers with calls of any shape goes turn by turn. Every call is answered, in its
    place and with the text that its dispatch gives, up to the first one whose arguments cannot be read. Without such a
    call the run ends well, and with it in the failure to read them. -/
theorem run_loose (c : Config) (registry : Registry σ) (model : Model σ) (history : List Message) (question : String)
    (s : σ) (hmodel : model.IsLoose) : ∃ outcome p s' before last s₁,
    run c registry model history question s = (outcome, p, s') ∧
    Speaks registry model (opening c history question) (opened registry question s) [] (before ++ [last]) s₁ p.traces ∧
    p.messages = opening c history question ++ (before ++ [last]).flatMap Turn.messages ∧
    p.answer = last.response.text ∧ p.iterations = before.length + 1 ∧ p.iterations ≤ c.maxIterations ∧
    (∀ t ∈ before, t.calls ≠ [] ∧ t.left = []) ∧
    (outcome = .ok () ∧ last.left = [] ∧ (p.iterations < c.maxIterations → last.calls = []) ∨
      ∃ call rest f, last.left = call :: rest ∧ (∀ arguments, ¬ReadsAs (callArguments call) arguments) ∧
        requestOf (.object call) = .error f ∧ outcome = .error f) := by
  obtain ⟨left, hleft⟩ := Nat.exists_eq_add_of_le' c.one_le_maxIterations
  obtain ⟨outcome, p, s', before, last, s₁, hrun, hspeaks, hcloses⟩ := @converse_speaks _ _ registry _ hmodel left
    { messages := opening c history question } (opened registry question s)
  have hiterations : p.iterations = before.length + 1 := hcloses.iterations.trans (Nat.zero_add _)
  rw [← hleft] at hrun
  refine ⟨outcome, p, s', before, last, s₁, hrun, hspeaks, hcloses.messages, hcloses.answer, hiterations, ?_,
    hcloses.answered, ?_⟩
  · rw [hiterations, hleft]
    exact Nat.succ_le_succ hcloses.bounded
  · have hleaves := hcloses.leaves
    generalize hlast : last.left = calls at hleaves
    cases hleaves with
    | none =>
      refine Or.inl ⟨rfl, rfl, fun hless => hcloses.settled rfl ?_⟩
      omega
    | unread hunread hfails => exact Or.inr ⟨_, _, _, rfl, hunread, hfails, rfl⟩

/-- A model that makes some calls at first, and none when it is asked again. -/
def asksOnce (calls : List Value.Fields) : Model Workspace := fun messages w =>
  (.ok (.object [("content", .text ""), ("tool_calls", .list ((if messages.length ≤ 2 then calls else []).map .object))]), w)

theorem isLoose_asksOnce (calls : List Value.Fields) : (asksOnce calls).IsLoose := fun messages w =>
  ⟨_, if messages.length ≤ 2 then calls else [], w, rfl, _, _, rfl, rfl, rfl⟩

def greets : Tool Workspace := greetsWith "hello"

/-- Arguments in pairs, a name and arguments that are none, and arguments that the tool does not take. -/
def looseCalls : List Value.Fields :=
  [[("name", .text "greets"), ("args", .list [.list [.text "name", .text "x"]])],
    [("name", .null), ("args", .bool false), ("id", .int 7)],
    [("name", .text "greets"), ("args", .object [("name", .int 5)]), ("id", .text "8")]]

/-- All three calls are answered. -/
theorem run_looseCalls : (asksOnce looseCalls).IsLoose ∧ ∃ p w before last w₁,
    run {} ⟨[greets]⟩ (asksOnce looseCalls) [] "why" {} = (.ok (), p, w) ∧
    Speaks ⟨[greets]⟩ (asksOnce looseCalls) (opening {} [] "why") (opened ⟨[greets]⟩ "why" {}) [] (before ++ [last]) w₁
      p.traces ∧
    last.calls = [] ∧ p.messages = opening {} [] "why" ++ [
      .model (.object [("content", .text ""), ("tool_calls", .list (looseCalls.map .object))]),
      .tool "hello" "greets" "greets", .tool "tool_not_found: Tool 'None' not found" "7" "None",
      .tool "tool_error: name: Input should be a valid string" "8" "greets"] := by
  obtain ⟨outcome, p, w, before, last, w₁, hrun, hspeaks, -, -, -, -, -, hends⟩ :=
    run_loose {} ⟨[greets]⟩ (asksOnce looseCalls) [] "why" {} (isLoose_asksOnce looseCalls)
  have hp : p = (run {} ⟨[greets]⟩ (asksOnce looseCalls) [] "why" {}).2.1 := by rw [hrun]
  have houtcome : outcome = (run {} ⟨[greets]⟩ (asksOnce looseCalls) [] "why" {}).1 := by rw [hrun]
  obtain ⟨rfl, -, hlast⟩ | ⟨_, _, f, -, -, -, rfl⟩ := hends
  · refine ⟨isLoose_asksOnce looseCalls, p, w, before, last, w₁, hrun, hspeaks, hlast ?_, ?_⟩
    · rw [hp]
      decide
    · rw [hp]
      rfl
  · cases houtcome

/-- Arguments that are a number end the run, and no message tells the model of it. -/
theorem exists_run_ended_by_arguments : ∃ model : Model Workspace, model.IsLoose ∧
    ∃ p w, run {} ⟨[greets]⟩ model [] "why" {} = (.error (.arguments (.noItems "int")), p, w) ∧
      p.messages.filter Message.isReply = [] :=
  ⟨asksOnce [[("name", .text "greets"), ("args", .int 5), ("id", .text "1")]], isLoose_asksOnce _, _, _, rfl, rfl⟩

end CodeAtlas.Conversation
