import CodeAtlas.Proofs.Service.Responses
import Mathlib.Data.List.Forall2

/-! What the service tells of a run: the answer to its question, and the run itself. Both are sent without what is infinite
    in them, and only if no text of theirs holds a half of a pair. -/

namespace CodeAtlas.Service

variable {α : Type}

/-! ### What a run is shown as -/

/-- The value shows a call of a tool: its name, its arguments as they are sent, and the start of its output. -/
structure ShowsCall (t : Trace) (v : Value) : Prop where
  name : v.get? "name" = some (.text t.name)
  arguments : ∃ arguments, v.get? "input_payload" = some arguments ∧ (Value.object t.input).SentAs arguments
  preview : v.get? "output_preview" = some (.text t.preview)

/-- The value shows a run. -/
structure Shows (run : RunRecord α) (v : Value) : Prop where
  id : v.get? "trace_id" = some (.text run.id)
  question : v.get? "question" = some (.text run.question)
  answer : v.get? "answer" = some (.text run.answer)
  iterations : v.get? "iterations" = some (.int run.iterations)
  inputTokens : v.get? "input_tokens" = some (.int run.inputTokens)
  outputTokens : v.get? "output_tokens" = some (.int run.outputTokens)
  calls : ∃ shown, v.get? "tool_traces" = some (.list shown) ∧ List.Forall₂ ShowsCall run.traces shown

/-- Of a run with a single call one call is shown. -/
theorem Shows.exists_call {run : RunRecord α} {t : Trace} {v : Value} (h : Shows run v) (ht : run.traces = [t]) :
    ∃ shown, v.get? "tool_traces" = some (.list [shown]) ∧ ShowsCall t shown := by
  obtain ⟨shown, hcalls, hall⟩ := h.calls
  rw [ht, List.forall₂_cons_left_iff] at hall
  obtain ⟨first, rest, hcall, hrest, rfl⟩ := hall
  rw [List.forall₂_nil_left_iff] at hrest
  exact ⟨first, hrest ▸ hcalls, hcall⟩

/-- The value answers a question with a run. -/
structure Tells (run : RunRecord α) (v : Value) : Prop where
  answer : v.get? "answer" = some (.text run.answer)
  id : v.get? "trace_id" = some (.text run.id)
  iterations : v.get? "iterations" = some (.int run.iterations)
  tools : v.get? "tools_used" = some (.list (run.traces.map fun t => .text t.name))

/-- The texts that the answer to a question is made of. -/
inductive AnswerText (run : RunRecord α) : String → Prop
  | answer : AnswerText run run.answer
  | id : AnswerText run run.id
  | tool {t : Trace} : t ∈ run.traces → AnswerText run t.name

/-- The texts that a run is shown with. -/
inductive ShownText (run : RunRecord α) : String → Prop
  | id : ShownText run run.id
  | question : ShownText run run.question
  | answer : ShownText run run.answer
  | tool {t : Trace} : t ∈ run.traces → ShownText run t.name
  | argument {t : Trace} {s : String} : t ∈ run.traces → (Value.object t.input).Holds s → ShownText run s
  | preview {t : Trace} : t ∈ run.traces → ShownText run t.preview

/-! ### The values that tell of it -/

/-- What the answer to a question tells of its run. -/
def answerOf (timing : Timing α) (run : RunRecord α) : Value := .object [
  ("answer", .text run.answer), ("trace_id", .text run.id), ("iterations", .int run.iterations),
  ("latency_ms", timing.shown run.latency), ("tools_used", .list (run.traces.map fun t => .text t.name))]

theorem answerValue_eq (timing : Timing α) (n : Nat) (question : String) (p : Conversation.Progress) (latency : α) :
    answerValue timing (RunLog.idOf n) p latency =
      answerOf timing (RunLog.record n (Conversation.report question p latency)) := rfl

theorem tells_answerOf (timing : Timing α) (run : RunRecord α) : Tells run (answerOf timing run).withoutInfinite where
  answer := rfl
  id := rfl
  iterations := rfl
  tools := by
    have htools : (answerOf timing run).withoutInfinite.get? "tools_used" =
        some (.list (Value.itemsWithoutInfinite (run.traces.map fun t => .text t.name))) := rfl
    rw [htools, Value.itemsWithoutInfinite_eq_map, List.map_map]
    rfl

theorem showsCall_traceValue (t : Trace) : ShowsCall t (traceValue t).withoutInfinite where
  name := rfl
  arguments := ⟨_, rfl, Value.sentAs_iff.mpr rfl⟩
  preview := rfl

theorem shows_runValue (timing : Timing α) (run : RunRecord α) : Shows run (runValue timing run).withoutInfinite where
  id := rfl
  question := rfl
  answer := rfl
  iterations := rfl
  inputTokens := rfl
  outputTokens := rfl
  calls := by
    refine ⟨Value.itemsWithoutInfinite (run.traces.map traceValue), rfl, ?_⟩
    rw [Value.itemsWithoutInfinite_eq_map, List.map_map, List.forall₂_map_right_iff]
    exact List.forall₂_same.mpr fun t _ => showsCall_traceValue t

theorem arePlain_shown (timing : Timing α) (x : α) : (timing.shown x).ArePlain :=
  (Value.refusal?_eq_none_iff _).mp (timing.refusal?_shown x)

theorem arePlain_int (n : Int) : (Value.int n).ArePlain := (Value.refusal?_eq_none_iff _).mp rfl

theorem arePlain_answerOf_iff (timing : Timing α) (run : RunRecord α) :
    (answerOf timing run).ArePlain ↔ ∀ s, AnswerText run s → Text.ArePlain s.toList := by
  refine (Value.arePlain_object ["answer", "trace_id", "iterations", "latency_ms", "tools_used"] rfl (by decide)).trans ?_
  simp only [List.forall_mem_cons, List.not_mem_nil, false_imp_iff, implies_true, and_true, Value.arePlain_text_iff,
    Value.arePlain_list_iff, List.forall_mem_map, arePlain_shown, arePlain_int, true_and]
  constructor
  · rintro ⟨hanswer, hid, htools⟩ s hs
    cases hs with
    | answer => exact hanswer
    | id => exact hid
    | tool ht => exact htools _ ht
  · exact fun h => ⟨h _ .answer, h _ .id, fun t ht => h _ (.tool ht)⟩

theorem arePlain_traceValue_iff {t : Trace} : (traceValue t).ArePlain ↔
    Text.ArePlain t.name.toList ∧ (Value.object t.input).ArePlain ∧ Text.ArePlain t.preview.toList := by
  refine (Value.arePlain_object ["name", "input_payload", "output_preview"] rfl (by decide)).trans ?_
  simp only [List.forall_mem_cons, List.not_mem_nil, false_imp_iff, implies_true, and_true, Value.arePlain_text_iff]

theorem arePlain_runValue_iff (timing : Timing α) (run : RunRecord α) :
    (runValue timing run).ArePlain ↔ ∀ s, ShownText run s → Text.ArePlain s.toList := by
  refine (Value.arePlain_object ["trace_id", "question", "answer", "tool_traces", "iterations", "input_tokens",
    "output_tokens", "latency_ms"] rfl (by decide)).trans ?_
  simp only [List.forall_mem_cons, List.not_mem_nil, false_imp_iff, implies_true, and_true, Value.arePlain_text_iff,
    Value.arePlain_list_iff, List.forall_mem_map, arePlain_shown, arePlain_int, arePlain_traceValue_iff]
  constructor
  · rintro ⟨hid, hquestion, hanswer, hcalls⟩ s hs
    cases hs with
    | id => exact hid
    | question => exact hquestion
    | answer => exact hanswer
    | tool ht => exact (hcalls _ ht).1
    | argument ht hs => exact (hcalls _ ht).2.1 _ hs
    | preview ht => exact (hcalls _ ht).2.2
  · exact fun h => ⟨h _ .id, h _ .question, h _ .answer,
      fun t ht => ⟨h _ (.tool ht), fun s hs => h s (.argument ht hs), h _ (.preview ht)⟩⟩

end CodeAtlas.Service
