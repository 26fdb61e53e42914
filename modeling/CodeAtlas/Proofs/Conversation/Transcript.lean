import CodeAtlas.Conversation.Loop
import CodeAtlas.Proofs.Text.Blank
import CodeAtlas.Proofs.Tool.Dispatch

/-! The transcript of a conversation. Each answer of the model that asks for tools joins the conversation with
    exactly one message for each of its requests, in their order, whatever becomes of them. What the model is given,
    how often it is asked and what is kept of the run all follow from the list of its answers. -/

namespace CodeAtlas

open Tool

/-! ### Calls as requests -/

def Tool.Call.value (call : Call) : Value :=
  .object [("name", .text call.name), ("arguments", .object call.arguments)]

theorem Tool.Call.asks_value (call : Call) : call.value.Asks call := ⟨_, rfl, rfl, rfl⟩

theorem Tool.Registry.dispatch_value {σ τ : Type} [Journal σ] (r : Registry σ) (source : String) (observe : Observer τ)
    (call : Call) (s : σ) (t : τ) : r.dispatch source observe call.value s t =
      ((r.runNoted source observe call s t).1.render, (r.runNoted source observe call s t).2) := by
  rw [dispatch, Call.ofValue_eq_ok_iff.mpr call.asks_value]

namespace Conversation

/-! ### What answers say -/

/-- What a part of a content says: a text says itself, an object what it has for a text, and anything else nothing. -/
inductive PartSays : Value → Option String → Prop
  | text {s : String} : PartSays (.text s) (some s)
  | ofText {fields : Value.Fields} {s : String} : Value.Fields.get? fields "text" = some (.text s) →
    PartSays (.object fields) (some s)
  | shown {fields : Value.Fields} {v : Value} : Value.Fields.get? fields "text" = some v → (∀ s, v ≠ .text s) →
    PartSays (.object fields) (some v.shown)
  | textless {fields : Value.Fields} : Value.Fields.get? fields "text" = none → PartSays (.object fields) none
  | silent {v : Value} : (∀ s, v ≠ .text s) → (∀ fields, v ≠ .object fields) → PartSays v none

/-- What a content says: a text says itself, and a list what its parts say, with spaces between them and without the
    blanks at both ends. Anything else is shown, if there is something in it. -/
inductive Says : Value → String → Prop
  | text {s : String} : Says (.text s) s
  | list {items : List Value} {parts : List (Option String)} {s : String} : List.Forall₂ PartSays items parts →
    Text.Trims (" ".intercalate parts.reduceOption) s → Says (.list items) s
  | nothing {v : Value} : v.isEmptyLike = true → (∀ items, v ≠ .list items) → Says v ""
  | shown {v : Value} : v.isEmptyLike = false → (∀ s, v ≠ .text s) → (∀ items, v ≠ .list items) → Says v v.shown

theorem display_eq_shown {v : Value} (h : ∀ s, v ≠ .text s) : v.display = v.shown := by
  cases v with
  | text s => exact absurd rfl (h s)
  | _ => rfl

theorem partSays_iff {v : Value} {part : Option String} : PartSays v part ↔ partText? v = part := by
  constructor
  · intro h
    cases h with
    | text => rfl
    | ofText htext => rw [partText?, htext]; rfl
    | shown hfield hother => rw [partText?, hfield, Option.map_some, display_eq_shown hother]
    | textless hnone => rw [partText?, hnone]; rfl
    | silent htext hobject =>
      cases v with
      | text s => exact absurd rfl (htext s)
      | object fields => exact absurd rfl (hobject fields)
      | _ => rfl
  · rintro rfl
    cases v with
    | text s => exact .text
    | object fields =>
      rw [partText?]
      cases hfield : Value.Fields.get? fields "text" with
      | none => exact .textless hfield
      | some v =>
        cases v with
        | text s => exact .ofText hfield
        | _ => exact .shown hfield fun _ h => nomatch h
    | _ => exact .silent (fun _ h => nomatch h) fun _ h => nomatch h

theorem contentText_eq {v : Value} (h : ∀ items, v ≠ .list items) :
    contentText v = if v.isEmptyLike then "" else v.display := by
  cases v with
  | list items => exact absurd rfl (h items)
  | _ => rfl

/-- The text of a content is what it says. -/
theorem says_contentText (content : Value) : Says content (contentText content) := by
  by_cases hlist : ∃ items, content = .list items
  · obtain ⟨items, rfl⟩ := hlist
    have hparts : items.filterMap partText? = (items.map partText?).reduceOption := by
      rw [List.reduceOption, List.filterMap_map]
      rfl
    rw [contentText, hparts]
    exact .list (List.forall₂_map_right_iff.mpr (List.forall₂_same.mpr fun v _ => partSays_iff.mpr rfl)) (Text.trims_trim _)
  · have hother : ∀ items, content ≠ .list items := fun items h => hlist ⟨items, h⟩
    rw [contentText_eq hother]
    cases hempty : content.isEmptyLike with
    | true => exact .nothing hempty hother
    | false =>
      by_cases htext : ∃ s, content = .text s
      · obtain ⟨s, rfl⟩ := htext
        exact .text
      · have hnoText : ∀ s, content ≠ .text s := fun s h => htext ⟨s, h⟩
        rw [if_neg Bool.false_ne_true, display_eq_shown hnoText]
        exact .shown hempty hnoText hother

/-- A content says nothing else. -/
theorem Says.eq_contentText {content : Value} {text : String} (h : Says content text) : contentText content = text := by
  cases h with
  | text =>
    rw [contentText_eq fun _ => Value.noConfusion]
    by_cases hempty : text = "" <;> simp [Value.isEmptyLike, Value.display, hempty]
  | @list items parts _ hparts htrims =>
    have hmap : items.map partText? = parts := by
      rw [← List.forall₂_eq_eq_eq, List.forall₂_map_left_iff]
      exact hparts.imp fun _ _ => partSays_iff.mp
    rw [contentText, ← Text.trims_iff.mp htrims, ← hmap, List.reduceOption, List.filterMap_map]
    rfl
  | nothing hempty hother => rw [contentText_eq hother, if_pos hempty]
  | shown hempty htext hother => rw [contentText_eq hother, hempty, if_neg Bool.false_ne_true, display_eq_shown htext]

theorem says_iff {content : Value} {text : String} : Says content text ↔ contentText content = text :=
  ⟨Says.eq_contentText, fun h => h ▸ says_contentText content⟩

/-! ### Exchanges -/

namespace ToolRequest

def call (r : ToolRequest) : Call := ⟨r.name, r.arguments⟩

/-- The id of a request, or its name when it has none. -/
def replyId (r : ToolRequest) : String := (r.id.filter fun id => id ≠ "").getD r.name

def reply (r : ToolRequest) (text : String) : Message := .tool text r.replyId r.name

theorem request_eq (r : ToolRequest) : r.request = ⟨r.call, r.replyId⟩ := by
  obtain ⟨name, arguments, id⟩ := r
  cases id with
  | none => rfl
  | some id => by_cases h : id = "" <;> simp [request, call, replyId, Option.filter, h]

end ToolRequest

/-- An answer of the model, and the texts that its requests for tools were answered with. -/
structure Exchange where
  content : Value
  replies : List (ToolRequest × String)

namespace Exchange

def requests (e : Exchange) : List ToolRequest := e.replies.map (·.1)

def response (e : Exchange) : Response := .message e.content e.requests

def messages (e : Exchange) : List Message := .model e.response :: e.replies.map fun reply => reply.1.reply reply.2

end Exchange

/-! ### Requests -/

section Runs
variable {σ : Type} [Journal σ] {registry : Registry σ} {model : Model σ}

def noteReply (r : ToolRequest) (text : String) (s : σ) : σ :=
  Journal.add [info ("Tool " ++ r.name ++ " -> " ++ String.ofList (text.toList.take 100))] s

def noteAnswer (answer : String) (s : σ) : σ :=
  if answer.isEmpty then s else Journal.add [info ("Assistant content: " ++ String.ofList (answer.toList.take 200))] s

/-- Requests are dispatched one after the other, and each text is that of its request. The traces are those of the
    requests so far. -/
inductive Replies (registry : Registry σ) : σ → List Trace → List (ToolRequest × String) → σ → List Trace → Prop
  | nil {s : σ} {traces : List Trace} : Replies registry s traces [] s traces
  | cons {s s₁ s₂ : σ} {traces traces₁ traces₂ : List Trace} {r : ToolRequest} {text : String}
    {rest : List (ToolRequest × String)} :
    registry.dispatch source Observer.collecting r.call.value s traces = (text, s₁, traces₁) →
    Replies registry (noteReply r text s₁) traces₁ rest s₂ traces₂ →
      Replies registry s traces ((r, text) :: rest) s₂ traces₂

theorem answerRequest_of_dispatch {r : Request} {p : Progress} {s s₁ : σ} {text : String} {traces₁ : List Trace}
    (h : registry.dispatch source Observer.collecting r.call.value s p.traces = (text, s₁, traces₁)) :
    answerRequest registry r p s =
      ({ p with messages := p.messages ++ [.tool text r.id r.call.name], traces := traces₁ },
        Journal.add [info ("Tool " ++ r.call.name ++ " -> " ++ String.ofList (text.toList.take 100))] s₁) := by
  rw [registry.dispatch_value, Prod.mk.injEq] at h
  obtain ⟨htext, hstate⟩ := h
  rw [answerRequest]
  simp only [htext, hstate, Text.takeChars]

theorem answerRequest_eq (r : ToolRequest) (p : Progress) (s : σ) : ∃ text s₁ traces₁,
    registry.dispatch source Observer.collecting r.call.value s p.traces = (text, s₁, traces₁) ∧
      answerRequest registry r.request p s =
        ({ p with messages := p.messages ++ [r.reply text], traces := traces₁ }, noteReply r text s₁) := by
  refine ⟨_, _, _, rfl, ?_⟩
  rw [r.request_eq]
  exact answerRequest_of_dispatch rfl

/-- Every request is answered, and none of them ends the run. -/
theorem answerRequests_eq : ∀ (requests : List ToolRequest) (p : Progress) (s : σ), ∃ replies s₁ traces₁,
    replies.map (·.1) = requests ∧ Replies registry s p.traces replies s₁ traces₁ ∧
      answerRequests registry (requests.map fun r => .ok r.request) p s =
        (.ok (), { p with messages := p.messages ++ replies.map fun reply => reply.1.reply reply.2, traces := traces₁ },
          s₁)
  | [], p, s => ⟨[], s, p.traces, rfl, .nil, by simp [answerRequests]⟩
  | r :: rest, p, s => by
    obtain ⟨text, s₁, traces₁, hdispatch, hanswer⟩ := @answerRequest_eq _ _ registry r p s
    obtain ⟨replies, s₂, traces₂, hrequests, hreplies, hrest⟩ := answerRequests_eq rest
      { p with messages := p.messages ++ [r.reply text], traces := traces₁ } (noteReply r text s₁)
    -- The first reply stands in the conversation before the rest is answered.
    refine ⟨(r, text) :: replies, s₂, traces₂, by rw [List.map_cons, hrequests], .cons hdispatch hreplies, ?_⟩
    rw [List.map_cons, answerRequests, hanswer]
    dsimp only
    rw [hrest]
    simp

/-! ### Single exchanges -/

theorem ask_of_answer {response : Response} {p : Progress} {s s₁ : σ} (h : model p.messages s = (.ok response, s₁)) :
    ask model p s = (.ok response, { p with prompts := p.prompts ++ [p.messages], answer := response.text },
      noteAnswer response.text s₁) := by
  simp only [ask, h]
  rfl

/-- The model answers in the usual form whenever it answers at all. -/
def Model.IsUsual (model : Model σ) : Prop :=
  ∀ messages s response s', model messages s = (.ok response, s') → ∃ content requests, response = .message content requests

/-- The progress after an exchange, when the conversation goes on. -/
def Progress.after (p : Progress) (e : Exchange) (traces : List Trace) : Progress where
  messages := p.messages ++ e.messages
  prompts := p.prompts ++ [p.messages]
  traces := traces
  answer := e.response.text

/-- The model fails, or there is an exchange. After one without requests nothing more happens. -/
theorem converse_succ (hmodel : model.IsUsual) (left : Nat) (p : Progress) (s : σ) :
    (∃ f s', model p.messages s = (.error f, s') ∧
      converse registry model (left + 1) p s = (.error f, { p with prompts := p.prompts ++ [p.messages] }, s')) ∨
    ∃ e s₁ s₂ traces, model p.messages s = (.ok e.response, s₁) ∧
      Replies registry (noteAnswer e.response.text s₁) p.traces e.replies s₂ traces ∧
      converse registry model (left + 1) p s =
        if e.replies = [] then (.ok (), { p.after e traces with messages := p.messages }, s₂)
        else converse registry model left (p.after e traces) s₂ := by
  rcases hanswer : model p.messages s with ⟨f | response, s₁⟩
  · exact Or.inl ⟨f, s₁, rfl, by simp only [converse, ask, hanswer]⟩
  · obtain ⟨content, requests, rfl⟩ := hmodel _ _ _ _ hanswer
    obtain ⟨replies, s₂, traces, rfl, hreplies, hrun⟩ := @answerRequests_eq _ _ registry requests
      { p with
        messages := p.messages ++ [.model (.message content requests)]
        prompts := p.prompts ++ [p.messages]
        answer := contentText content } (noteAnswer (contentText content) s₁)
    refine Or.inr ⟨⟨content, replies⟩, s₁, s₂, traces, rfl, hreplies, ?_⟩
    have hask : ask model p s = (.ok (.message content (replies.map (·.1))),
        { p with prompts := p.prompts ++ [p.messages], answer := contentText content },
        noteAnswer (contentText content) s₁) := ask_of_answer hanswer
    -- Only an answer that asks for tools joins the conversation.
    cases replies with
    | nil =>
      cases hreplies
      simp only [converse, hask, Response.requests]
      rfl
    | cons reply rest =>
      rw [List.map_cons, List.map_cons] at hrun
      rw [if_neg (List.cons_ne_nil reply rest)]
      simp only [converse, hask, Response.requests, List.map_cons, hrun]
      simp [Progress.after, Exchange.messages, Exchange.response, Exchange.requests, Response.text]

/-! ### Whole conversations -/

/-- The model answers a conversation by exchanges, one after the other: it is given all that was said so far, and
    what its answer says is noted and the requests in it are dispatched before it is asked again. -/
inductive Talk (registry : Registry σ) (model : Model σ) :
    List Message → σ → List Trace → List Exchange → σ → List Trace → Prop
  | nil {messages : List Message} {s : σ} {traces : List Trace} : Talk registry model messages s traces [] s traces
  | cons {messages : List Message} {s s₁ s₂ s₃ : σ} {traces traces₁ traces₂ : List Trace} {e : Exchange}
    {answer : String} {rest : List Exchange} : model messages s = (.ok e.response, s₁) → Says e.content answer →
    Replies registry (noteAnswer answer s₁) traces e.replies s₂ traces₁ →
    Talk registry model (messages ++ e.messages) s₂ traces₁ rest s₃ traces₂ →
      Talk registry model messages s traces (e :: rest) s₃ traces₂

def conversation (messages : List Message) (exchanges : List Exchange) : List Message :=
  messages ++ exchanges.flatMap Exchange.messages

/-- What the model is given when it is asked `n` times. -/
def promptsOf (messages : List Message) (exchanges : List Exchange) (n : Nat) : List (List Message) :=
  (List.range n).map fun k => conversation messages (exchanges.take k)

theorem conversation_cons (messages : List Message) (e : Exchange) (rest : List Exchange) :
    conversation messages (e :: rest) = conversation (messages ++ e.messages) rest := by
  rw [conversation, conversation, List.flatMap_cons, List.append_assoc]

theorem promptsOf_cons (messages : List Message) (e : Exchange) (rest : List Exchange) (n : Nat) :
    promptsOf messages (e :: rest) (n + 1) = messages :: promptsOf (messages ++ e.messages) rest n := by
  rw [promptsOf, promptsOf, List.range_succ_eq_map, List.map_cons, List.map_map]
  congr 1
  · exact List.append_nil _
  · exact List.map_congr_left fun k _ => conversation_cons _ _ _

def noteStopped (n : Nat) (s : σ) : σ :=
  Journal.add [⟨.warning, source, "Stopped after " ++ toString n ++ " iterations without a final answer"⟩] s

/-- The ways in which a conversation ends after some exchanges, of which the last one left the state `s₁`: the last
    answer asks for nothing, the model has been asked as often as it may be, or it fails. -/
inductive Ending (model : Model σ) (left : Nat) (p : Progress) (exchanges : List Exchange) (s₁ : σ) :
    Except Failure Unit → Progress → σ → Prop
  | settled {p' : Progress} {before : List Exchange} {last : Exchange} : exchanges = before ++ [last] →
    (∀ e ∈ before, e.replies ≠ []) → last.replies = [] → exchanges.length ≤ left →
    p'.prompts = p.prompts ++ promptsOf p.messages exchanges exchanges.length → p'.answer = last.response.text →
      Ending model left p exchanges s₁ (.ok ()) p' s₁
  | stopped {p' : Progress} : (∀ e ∈ exchanges, e.replies ≠ []) → exchanges.length = left →
    p'.prompts = p.prompts ++ promptsOf p.messages exchanges exchanges.length →
    p'.answer = (exchanges.getLast?.map fun e => e.response.text).getD p.answer →
      Ending model left p exchanges s₁ (.ok ()) p' (noteStopped p'.iterations s₁)
  | failed {p' : Progress} {f : Failure} {s' : σ} : (∀ e ∈ exchanges, e.replies ≠ []) → exchanges.length < left →
    p'.prompts = p.prompts ++ promptsOf p.messages exchanges (exchanges.length + 1) →
    model (conversation p.messages exchanges) s₁ = (.error f, s') →
      Ending model left p exchanges s₁ (.error f) p' s'

theorem Ending.cons {left : Nat} {p p₁ p' : Progress} {e : Exchange} {exchanges : List Exchange} {s₁ s' : σ}
    {outcome : Except Failure Unit} (he : e.replies ≠ []) (hmessages : p₁.messages = p.messages ++ e.messages)
    (hprompts : p₁.prompts = p.prompts ++ [p.messages]) (hanswer : p₁.answer = e.response.text)
    (h : Ending model left p₁ exchanges s₁ outcome p' s') :
    Ending model (left + 1) p (e :: exchanges) s₁ outcome p' s' := by
  have hgiven : ∀ n, p₁.prompts ++ promptsOf p₁.messages exchanges n =
      p.prompts ++ promptsOf p.messages (e :: exchanges) (n + 1) := fun n => by
    rw [hprompts, hmessages, promptsOf_cons, List.append_assoc, List.singleton_append]
  have hasking {l : List Exchange} (hl : ∀ x ∈ l, x.replies ≠ []) : ∀ x ∈ e :: l, x.replies ≠ [] :=
    List.forall_mem_cons.mpr ⟨he, hl⟩
  cases h with
  | settled hlast hbefore hnone hlength hp' htext =>
    subst hlast
    exact .settled rfl (hasking hbefore) hnone (Nat.succ_le_succ hlength) (hp'.trans (hgiven _)) htext
  | stopped hall hlength hp' htext =>
    refine .stopped (hasking hall) (congrArg (· + 1) hlength) (hp'.trans (hgiven _)) (htext.trans ?_)
    rw [hanswer, List.getLast?_cons]
    cases exchanges.getLast? <;> rfl
  | failed hall hlength hp' hfails =>
    refine .failed (hasking hall) (Nat.succ_lt_succ hlength) (hp'.trans (hgiven _)) ?_
    rw [conversation_cons, ← hmessages]
    exact hfails

/-- Up to the bound there is an exchange each time the model is asked, until one ends the conversation. -/
theorem converse_ends (hmodel : model.IsUsual) : ∀ (left : Nat) (p : Progress) (s : σ), ∃ outcome p' s' exchanges s₁,
    converse registry model left p s = (outcome, p', s') ∧
      Talk registry model p.messages s p.traces exchanges s₁ p'.traces ∧
      Ending model left p exchanges s₁ outcome p' s'
  | 0, p, s => ⟨_, _, _, [], s, rfl, .nil, .stopped (fun _ h => nomatch h) rfl (List.append_nil _).symm rfl⟩
  | left + 1, p, s => by
    obtain ⟨f, s', hfails, hconverse⟩ | ⟨e, s₁, s₂, traces, hanswer, hreplies, hconverse⟩ :=
      @converse_succ _ _ registry _ hmodel left p s
    · refine ⟨_, _, _, [], s, hconverse, .nil, .failed (fun _ h => nomatch h) (Nat.succ_pos left) ?_ ?_⟩
      · simp [promptsOf, conversation]
      · simpa [conversation] using hfails
    · -- The exchange comes first, and the bound that is left counts for the rest.
      by_cases hnone : e.replies = []
      · rw [if_pos hnone] at hconverse
        refine ⟨_, _, _, [e], s₂, hconverse, .cons hanswer (says_contentText _) hreplies .nil, ?_⟩
        refine .settled (List.nil_append [e]).symm (fun _ h => nomatch h) hnone (Nat.succ_le_succ (Nat.zero_le left)) ?_ rfl
        simp [Progress.after, promptsOf, conversation]
      · rw [if_neg hnone] at hconverse
        obtain ⟨outcome, p', s', exchanges, s₃, hrest, htalk, hending⟩ :=
          converse_ends hmodel left (p.after e traces) s₂
        exact ⟨outcome, p', s', e :: exchanges, s₃, hconverse.trans hrest, .cons hanswer (says_contentText _) hreplies htalk,
          hending.cons hnone rfl rfl rfl⟩

/-! ### Runs -/

theorem length_promptsOf (messages : List Message) (exchanges : List Exchange) (n : Nat) :
    (promptsOf messages exchanges n).length = n := by
  rw [promptsOf, List.length_map, List.length_range]

def opening (c : Config) (history : List Message) (question : String) : List Message :=
  .system c.systemPrompt :: history ++ [.human question]

def opened (registry : Registry σ) (question : String) (s : σ) : σ :=
  Journal.add [info ("Loaded " ++ toString registry.names.length ++ " tools"), info ("Query: " ++ question)] s

/-- A run is a talk that opens with the question. The model is asked at least once and at most as often as the bound
    says, each time with all that was said before. The run ends well unless the model fails, with what the last answer
    says, and before its bound only with an answer that asks for no tool. -/
theorem run_transcript (c : Config) (registry : Registry σ) (model : Model σ) (history : List Message)
    (question : String) (s : σ) (hmodel : model.IsUsual) : ∃ outcome p s' exchanges s₁,
    run c registry model history question s = (outcome, p, s') ∧
    Talk registry model (opening c history question) (opened registry question s) [] exchanges s₁ p.traces ∧
    1 ≤ p.iterations ∧ p.iterations ≤ c.maxIterations ∧
    p.prompts = (List.range p.iterations).map (fun k =>
      opening c history question ++ (exchanges.take k).flatMap Exchange.messages) ∧
    ((∃ before last, outcome = .ok () ∧ exchanges = before ++ [last] ∧ p.iterations = exchanges.length ∧
        Says last.content p.answer ∧ (∀ e ∈ before, e.replies ≠ []) ∧
        (p.iterations < c.maxIterations → last.replies = [])) ∨
      ∃ f, outcome = .error f ∧ p.iterations = exchanges.length + 1 ∧ (∀ e ∈ exchanges, e.replies ≠ []) ∧
        model (opening c history question ++ exchanges.flatMap Exchange.messages) s₁ = (.error f, s')) ∧
    ((∀ messages s, ∃ response s', model messages s = (.ok response, s')) → outcome = .ok ()) := by
  obtain ⟨outcome, p, s', exchanges, s₁, hrun, htalk, hending⟩ := @converse_ends _ _ registry _ hmodel c.maxIterations
    { messages := opening c history question } (opened registry question s)
  have hprompts (n : Nat) (h : p.prompts = [] ++ promptsOf (opening c history question) exchanges n) :
      p.iterations = n ∧ p.prompts = promptsOf (opening c history question) exchanges p.iterations := by
    have hn : p.iterations = n := (congrArg List.length h).trans (length_promptsOf _ _ n)
    exact ⟨hn, hn ▸ h⟩
  have hpositive := c.one_le_maxIterations
  refine ⟨outcome, p, s', exchanges, s₁, hrun, htalk, ?_⟩
  cases hending with
  | @settled _ before last hlast hbefore hnone hlength hp htext =>
    obtain ⟨hn, hprompts⟩ := hprompts _ hp
    refine ⟨?_, hn ▸ hlength, hprompts, Or.inl ⟨before, last, rfl, hlast, hn, says_iff.mpr htext.symm, hbefore, fun _ => hnone⟩, fun _ => rfl⟩
    rw [hn, hlast, List.length_append]
    exact Nat.le_add_left 1 _
  | stopped hall hlength hp htext =>
    obtain ⟨hn, hprompts⟩ := hprompts _ hp
    have hmax : p.iterations = c.maxIterations := hn.trans hlength
    -- The bound is at least one, so there is an exchange to take the answer from.
    obtain ⟨before, last, rfl⟩ : ∃ before last, exchanges = before ++ [last] := by
      rcases List.eq_nil_or_concat exchanges with rfl | ⟨before, last, h⟩
      · exact absurd hlength (Nat.ne_of_lt hpositive)
      · exact ⟨before, last, h.trans List.concat_eq_append⟩
    refine ⟨hmax ▸ hpositive, Nat.le_of_eq hmax, hprompts, Or.inl ⟨before, last, rfl, rfl, hn, ?_, ?_, ?_⟩, fun _ => rfl⟩
    · rw [htext, List.getLast?_concat]
      exact says_contentText last.content
    · exact fun e he => hall e (List.mem_append_left _ he)
    · exact fun hless => absurd hmax (Nat.ne_of_lt hless)
  | @failed _ f _ hall hlength hp hfails =>
    obtain ⟨hn, hprompts⟩ := hprompts _ hp
    refine ⟨?_, hn ▸ hlength, hprompts, Or.inr ⟨f, rfl, hn, hall, hfails⟩, fun hanswers => ?_⟩
    · rw [hn]
      exact Nat.le_add_left 1 _
    · obtain ⟨_, _, hok⟩ := hanswers (conversation (opening c history question) exchanges) s₁
      exact nomatch hok.symm.trans hfails

end Runs

/-- An answer in parts: a text, an object with a text, and one without. -/
def answerInParts : Value := .list [.text " done", .object [("type", .text "text"), ("text", .text "and dusted ")],
  .object [("type", .text "image")]]

/-- A model that asks for two tools and is content with whatever comes of it. -/
def asksTwice : Model Workspace := fun messages w =>
  (.ok (if messages.length ≤ 2 then .message (.text "") [⟨"wordless", [], some ""⟩, ⟨"absent", [], some "7"⟩]
    else .message answerInParts []), w)

theorem isUsual_asksTwice : asksTwice.IsUsual := fun messages w response w' h => by
  obtain ⟨hresponse, -⟩ := Prod.mk.inj h
  obtain rfl := Except.ok.inj hresponse
  split <;> exact ⟨_, _, rfl⟩

/-- Both requests are answered, one by the failure of its tool and one for want of a tool; the answer is the text of the
    parts that have one. -/
theorem run_asksTwice : asksTwice.IsUsual ∧ ∃ p w exchanges w₁,
    run {} ⟨[Registry.wordless]⟩ asksTwice [] "why" {} = (.ok (), p, w) ∧
    Talk ⟨[Registry.wordless]⟩ asksTwice (opening {} [] "why") (opened ⟨[Registry.wordless]⟩ "why" {}) [] exchanges w₁
      p.traces ∧
    p.iterations = 2 ∧ p.answer = "done and dusted" ∧
    p.prompts = [opening {} [] "why", opening {} [] "why" ++ [
      .model (.message (.text "") [⟨"wordless", [], some ""⟩, ⟨"absent", [], some "7"⟩]),
      .tool "tool_error: ValueError" "wordless" "wordless",
      .tool "tool_not_found: Tool 'absent' not found" "7" "absent"]] := by
  obtain ⟨outcome, p, w, exchanges, w₁, hrun, htalk, -, -, -, -, hwell⟩ :=
    run_transcript {} ⟨[Registry.wordless]⟩ asksTwice [] "why" {} isUsual_asksTwice
  obtain rfl := hwell fun messages w => ⟨_, _, rfl⟩
  refine ⟨isUsual_asksTwice, p, w, exchanges, w₁, hrun, htalk, ?_⟩
  have hp : p = (run {} ⟨[Registry.wordless]⟩ asksTwice [] "why" {}).2.1 := by rw [hrun]
  rw [hp]
  refine ⟨?_, ?_, ?_⟩
  · rfl
  · rfl
  · rfl

end Conversation

end CodeAtlas
