import CodeAtlas.Proofs.Schema.Validation
import CodeAtlas.Tool.Dispatch
import CodeAtlas.Workspace
import Mathlib

/-! How calls of tools end. What has the shape of a call ends in exactly one of three ways: its tool is not known
    and nothing is run, everything goes well up to the observer, or the first failure on the way is told. Nothing
    else has an outcome than a text, and no failure is told without words. -/

namespace CodeAtlas

open Tool

/-! ### Failures have words -/

namespace Failure

theorem fileLabel_ne_empty (k : FaultKind) : fileLabel k ≠ "" := by
  cases k <;> decide

/-- Every failure is of some sort. -/
theorem label_ne_empty (f : Failure) : f.label ≠ "" := by
  cases f with
  | raised kind text => exact kind.name_ne_empty
  | file fault => exact fileLabel_ne_empty _
  | database fault | cell fault | arguments fault | misuse fault => cases fault <;> exact of_decide_eq_true rfl
  | index fault =>
    cases fault with
    | collecting fault =>
      cases fault with
      | probe fault => exact fileLabel_ne_empty _
      | _ => exact of_decide_eq_true rfl
    | _ => exact of_decide_eq_true rfl
  | _ => exact of_decide_eq_true rfl

/-- What is told of a failure: the problems where something was found unfit, or else the message, or the sort of failure
    where there is no message. -/
inductive IsTold : Failure → String → Prop
  | problems {rejection : Schema.Rejection} {text : String} : rejection.IsTold text → IsTold (.invalid rejection) text
  | message {f : Failure} : (∀ rejection, f ≠ .invalid rejection) → f.message ≠ "" → IsTold f f.message
  | label {f : Failure} : (∀ rejection, f ≠ .invalid rejection) → f.message = "" → IsTold f f.label

theorem IsTold.ne_empty {f : Failure} {text : String} (h : f.IsTold text) : text ≠ "" := by
  cases h with
  | problems htold => exact htold.ne_empty
  | message _ hmessage => exact hmessage
  | label => exact f.label_ne_empty

theorem isTold_text {f : Failure} (h : ∀ rejection, f ≠ .invalid rejection) : f.IsTold f.text := by
  unfold text
  by_cases hmessage : f.message = ""
  · simpa [hmessage] using IsTold.label h hmessage
  · simpa [hmessage] using IsTold.message h hmessage

end Failure

/-! ### Requests -/

/-- The value asks for the call: it is an object with a text for the name and an object for the arguments, which
    may be left out. -/
def Value.Asks (v : Value) (call : Call) : Prop :=
  ∃ fields, v = .object fields ∧ Fields.get? fields "name" = some (.text call.name) ∧
    (Fields.get? fields "arguments").getD (.object []) = .object call.arguments

namespace Tool

namespace Call
variable {given : Value.Fields} {whole fitted : Value} {fields : Value.Fields}

def nameField : Field := { name := "name", kind := .text }

def argumentsField : Field := { name := "arguments", kind := .object, default := some (.object []) }

theorem name_eq_ok_iff : Schema.field nameField given whole = .ok fitted ↔
    ∃ name, Value.Fields.get? given "name" = some (.text name) ∧ fitted = .text name := by
  rw [Schema.field_of_unbounded rfl rfl, show nameField.name = "name" from rfl]
  cases Value.Fields.get? given "name" with
  | none => simp [nameField]
  | some v => simp [nameField, Schema.fit_text_eq_ok_iff]

theorem arguments_eq_ok_iff : Schema.field argumentsField given whole = .ok fitted ↔
    ∃ arguments, (Value.Fields.get? given "arguments").getD (.object []) = .object arguments ∧
      fitted = .object arguments := by
  rw [Schema.field_of_unbounded rfl rfl, show argumentsField.name = "arguments" from rfl]
  cases Value.Fields.get? given "arguments" with
  | none => simp [argumentsField, eq_comm]
  | some v => simp [argumentsField, Schema.fit_object_eq_ok_iff]

theorem validateFields_eq_ok_iff : schema.validateFields given = .ok fields ↔ ∃ call : Call,
    (Value.object given).Asks call ∧ fields = [("name", .text call.name), ("arguments", .object call.arguments)] := by
  have hvalues : schema.validateFields given = .ok fields ↔
      Schema.fieldValues given (.object given) [nameField, argumentsField] = .ok fields := by
    rw [Schema.validateFields, show schema.fields = [nameField, argumentsField] from rfl]
    cases Schema.fieldValues given (.object given) [nameField, argumentsField] <;> simp [Except.mapError]
  rw [hvalues, Schema.fieldValues_cons_eq_ok_iff]
  constructor
  · rintro ⟨_, _, hfirst, hrest, rfl⟩
    obtain ⟨_, _, hsecond, hnil, rfl⟩ := Schema.fieldValues_cons_eq_ok_iff.mp hrest
    obtain ⟨name, hname, rfl⟩ := name_eq_ok_iff.mp hfirst
    obtain ⟨arguments, harguments, rfl⟩ := arguments_eq_ok_iff.mp hsecond
    obtain rfl := Except.ok.inj hnil
    exact ⟨⟨name, arguments⟩, ⟨given, rfl, hname, harguments⟩, rfl⟩
  · rintro ⟨call, ⟨_, hgiven, hname, harguments⟩, rfl⟩
    obtain rfl := Value.object.inj hgiven
    exact ⟨_, _, name_eq_ok_iff.mpr ⟨_, hname, rfl⟩, Schema.fieldValues_cons_eq_ok_iff.mpr
      ⟨_, _, arguments_eq_ok_iff.mpr ⟨_, harguments, rfl⟩, rfl, rfl⟩, rfl⟩

/-- A call is read from a value that asks for it, and from no other. -/
theorem ofValue_eq_ok_iff {v : Value} {call : Call} : ofValue v = .ok call ↔ v.Asks call := by
  cases v with
  | object given =>
    rw [ofValue, Schema.validate]
    constructor
    · intro h
      cases hfields : schema.validateFields given with
      | error rejection =>
        rw [hfields] at h
        cases h
      | ok fields =>
        obtain ⟨asked, hasks, rfl⟩ := validateFields_eq_ok_iff.mp hfields
        rw [hfields] at h
        obtain rfl : asked = call := Except.ok.inj h
        exact hasks
    · intro hasks
      rw [validateFields_eq_ok_iff.mpr ⟨call, hasks, rfl⟩]
      rfl
  | _ =>
    constructor
    · intro h
      cases h
    · rintro ⟨_, hv, -⟩
      cases hv

end Call

/-! ### Stages of a call -/

section Stages
variable {σ τ : Type}

/-- The arguments fit the schema of the tool, and every bound makes sense. -/
structure Takes (tool : Tool σ) (arguments fitted : Value.Fields) : Prop where
  sensible : tool.arguments.senselessBound? arguments = none
  fits : tool.arguments.validateFields arguments = .ok fitted

/-- The tool takes the arguments, its handler returns the output, and the observer is content with the start of it. -/
def Succeeds (tool : Tool σ) (observe : Observer τ) (call : Call) (s : σ) (t : τ) (output : String) (s' : σ)
    (t' : τ) : Prop :=
  ∃ fitted, Takes tool call.arguments fitted ∧ tool.handler fitted s = (.ok output, s') ∧
    observe ⟨call.name, call.arguments, String.ofList (output.toList.take 320)⟩ t = (.ok (), t')

/-- The first failure on the way of a call through its tool. -/
inductive Fails (tool : Tool σ) (observe : Observer τ) (call : Call) (s : σ) (t : τ) : Failure → σ → τ → Prop
  | senseless {bound : Schema.Bound} {v : Value} :
    tool.arguments.senselessBound? call.arguments = some (bound, v) →
      Fails tool observe call s t (.senseless bound v) s t
  | unfit {rejection : Schema.Rejection} : tool.arguments.senselessBound? call.arguments = none →
    tool.arguments.validateFields call.arguments = .error rejection →
      Fails tool observe call s t (.invalid rejection) s t
  | raised {fitted : Value.Fields} {f : Failure} {s' : σ} : Takes tool call.arguments fitted →
    tool.handler fitted s = (.error f, s') → Fails tool observe call s t f s' t
  | unobserved {fitted : Value.Fields} {output : String} {f : Failure} {s' : σ} {t' : τ} :
    Takes tool call.arguments fitted → tool.handler fitted s = (.ok output, s') →
    observe ⟨call.name, call.arguments, String.ofList (output.toList.take 320)⟩ t = (.error f, t') →
      Fails tool observe call s t f s' t'

namespace Registry
variable {r : Registry σ} {tool : Tool σ} {observe : Observer τ} {call : Call} {s s' : σ} {t t' : τ}
  {output : String} {f : Failure}

theorem get?_eq_none_iff {name : String} : r.get? name = none ↔ name ∉ r.names := by
  simp only [get?, List.find?_eq_none, beq_iff_eq, names, List.mem_map, not_exists, not_and]

theorem preview_eq (output : String) : Text.takeChars previewLength output = String.ofList (output.toList.take 320) := rfl

theorem execute_of_succeeds (h : r.get? call.name = some tool) (hs : Succeeds tool observe call s t output s' t') :
    r.execute observe call.name call.arguments s t = (.ok output, s', t') := by
  obtain ⟨fitted, ⟨hsensible, hfits⟩, hhandler, hobserve⟩ := hs
  simp only [execute, h, invoke, hsensible, hfits, hhandler, preview_eq, hobserve]

theorem execute_of_fails (h : r.get? call.name = some tool) (hf : Fails tool observe call s t f s' t') :
    r.execute observe call.name call.arguments s t = (.error f, s', t') := by
  cases hf with
  | senseless hbound => simp only [execute, h, invoke, hbound]
  | unfit hsensible hunfit => simp only [execute, h, invoke, hsensible, hunfit]
  | raised htakes hhandler => simp only [execute, h, invoke, htakes.sensible, htakes.fits, hhandler]
  | unobserved htakes hhandler hobserve =>
    simp only [execute, h, invoke, htakes.sensible, htakes.fits, hhandler, preview_eq, hobserve]

/-- A call of a known tool succeeds or fails, and there is no third way. -/
theorem succeeds_or_fails (tool : Tool σ) (observe : Observer τ) (call : Call) (s : σ) (t : τ) :
    (∃ output s' t', Succeeds tool observe call s t output s' t') ∨ ∃ f s' t', Fails tool observe call s t f s' t' := by
  -- The stages in their order: bounds, arguments, handler, observer.
  cases hbound : tool.arguments.senselessBound? call.arguments with
  | some bound => exact Or.inr ⟨_, s, t, .senseless hbound⟩
  | none =>
    cases hfits : tool.arguments.validateFields call.arguments with
    | error rejection => exact Or.inr ⟨_, s, t, .unfit hbound hfits⟩
    | ok fitted =>
      rcases hhandler : tool.handler fitted s with ⟨f | output, s'⟩
      · exact Or.inr ⟨f, s', t, .raised ⟨hbound, hfits⟩ hhandler⟩
      · rcases hobserve : observe ⟨call.name, call.arguments, String.ofList (output.toList.take 320)⟩ t with ⟨f | u, t'⟩
        · exact Or.inr ⟨f, s', t', .unobserved ⟨hbound, hfits⟩ hhandler hobserve⟩
        · exact Or.inl ⟨output, s', t', fitted, ⟨hbound, hfits⟩, hhandler, hobserve⟩

/-! ### Outcomes -/

theorem mem_tools_of_get? {name : String} (h : r.get? name = some tool) : tool ∈ r.tools := List.mem_of_find?_eq_some h

theorem mem_names_of_get? {name : String} (h : r.get? name = some tool) : name ∈ r.names :=
  List.mem_map.mpr ⟨tool, mem_tools_of_get? h, by simpa using List.find?_some h⟩

end Registry

/-- The outcome is one of an error, be it of arguments that do not fit. -/
def Outcome.IsError : Outcome → Prop
  | .invalid _ _ | .failed _ _ => True
  | .success _ _ | .notFound _ => False

theorem failureOutcome_isError (name : String) (f : Failure) : (failureOutcome name f).IsError := by
  cases f <;> trivial

theorem failureOutcome_tool (name : String) (f : Failure) : (failureOutcome name f).tool = name := by
  cases f <;> rfl

theorem Outcome.render_of_isError {outcome : Outcome} (h : outcome.IsError) :
    outcome.render = "tool_error: " ++ outcome.message := by
  cases outcome with
  | success | notFound => cases h
  | invalid | failed => rfl

theorem isTold_failureOutcome (name : String) (f : Failure) : f.IsTold (failureOutcome name f).message := by
  cases f with
  | invalid rejection => exact .problems rejection.isTold_message
  | _ => exact Failure.isTold_text fun _ h => nomatch h

/-- The outcome of a call that takes the tools from `s` to `s'` and the observer from `t` to `t'`, by what the tool
    and the observer do. -/
structure Registry.Ends (r : Registry σ) (observe : Observer τ) (call : Call) (s : σ) (t : τ) (outcome : Outcome)
    (s' : σ) (t' : τ) : Prop where
  tool : outcome.tool = call.name
  notFound : outcome = .notFound call.name ↔ call.name ∉ r.names
  untouched : call.name ∉ r.names → s' = s ∧ t' = t
  success : ∀ output, outcome = .success call.name output ↔
    ∃ tool, r.get? call.name = some tool ∧ Succeeds tool observe call s t output s' t'
  error : outcome.IsError ↔ call.name ∈ r.names ∧ ¬∃ tool output s₁ t₁, r.get? call.name = some tool ∧
    Succeeds tool observe call s t output s₁ t₁
  told : outcome.IsError → ∃ tool f, r.get? call.name = some tool ∧ Fails tool observe call s t f s' t' ∧
    f.IsTold outcome.message
  telling : outcome.IsError → outcome.message ≠ ""
  renderSuccess : ∀ output, outcome = .success call.name output → outcome.render = output
  renderNotFound : call.name ∉ r.names → outcome.render = "tool_not_found: Tool '" ++ call.name ++ "' not found"
  renderError : outcome.IsError → outcome.render = "tool_error: " ++ outcome.message

namespace Registry
variable {r : Registry σ} {tool : Tool σ} {observe : Observer τ} {call : Call} {s s' : σ} {t t' : τ}
  {outcome : Outcome}

theorem ends_of_unknown (h : r.get? call.name = none) : r.Ends observe call s t (.notFound call.name) s t where
  tool := rfl
  notFound := iff_of_true rfl (get?_eq_none_iff.mp h)
  untouched := fun _ => ⟨rfl, rfl⟩
  success := by simp [h]
  error := by simp [Outcome.IsError, get?_eq_none_iff.mp h]
  told := fun herror => herror.elim
  telling := fun herror => herror.elim
  renderSuccess := fun _ hsuccess => nomatch hsuccess
  renderNotFound := fun _ => by simp [Outcome.render, Outcome.mark, Outcome.message, ← String.append_assoc]
  renderError := fun herror => herror.elim

theorem ends_of_succeeds {output : String} (h : r.get? call.name = some tool)
    (hs : Succeeds tool observe call s t output s' t') :
    r.Ends observe call s t (.success call.name output) s' t' where
  tool := rfl
  notFound := iff_of_false Outcome.noConfusion fun hunknown => hunknown (mem_names_of_get? h)
  untouched := fun hunknown => absurd (mem_names_of_get? h) hunknown
  success := fun other => by
    constructor
    · intro heq
      cases heq
      exact ⟨tool, h, hs⟩
    · rintro ⟨_, hother, hs'⟩
      cases (execute_of_succeeds hother hs').symm.trans (execute_of_succeeds h hs)
      rfl
  error := iff_of_false id fun ⟨_, hno⟩ => hno ⟨tool, _, _, _, h, hs⟩
  told := fun herror => herror.elim
  telling := fun herror => herror.elim
  renderSuccess := fun _ hsuccess => by
    cases hsuccess
    rfl
  renderNotFound := fun hunknown => absurd (mem_names_of_get? h) hunknown
  renderError := fun herror => herror.elim

theorem ends_of_fails {f : Failure} (h : r.get? call.name = some tool) (hf : Fails tool observe call s t f s' t') :
    r.Ends observe call s t (failureOutcome call.name f) s' t' := by
  have herror := failureOutcome_isError call.name f
  have hno : ¬∃ tool output s₁ t₁, r.get? call.name = some tool ∧ Succeeds tool observe call s t output s₁ t₁ := by
    rintro ⟨_, _, _, _, hother, hs⟩
    cases (execute_of_succeeds hother hs).symm.trans (execute_of_fails h hf)
  exact {
    tool := failureOutcome_tool _ _
    notFound := by
      refine iff_of_false (fun heq => ?_) fun hunknown => hunknown (mem_names_of_get? h)
      rw [heq] at herror
      exact herror
    untouched := fun hunknown => absurd (mem_names_of_get? h) hunknown
    success := fun output => by
      refine iff_of_false (fun heq => ?_) fun ⟨other, hother, hs⟩ => hno ⟨other, _, _, _, hother, hs⟩
      rw [heq] at herror
      exact herror
    error := iff_of_true herror ⟨mem_names_of_get? h, hno⟩
    told := fun _ => ⟨tool, f, h, hf, isTold_failureOutcome call.name f⟩
    telling := fun _ => (isTold_failureOutcome call.name f).ne_empty
    renderSuccess := fun output hsuccess => by
      rw [hsuccess] at herror
      exact herror.elim
    renderNotFound := fun hunknown => absurd (mem_names_of_get? h) hunknown
    renderError := Outcome.render_of_isError }

theorem ends_of_run (h : r.run observe call s t = (outcome, s', t')) : r.Ends observe call s t outcome s' t' := by
  unfold run at h
  cases hget : r.get? call.name with
  | none =>
    rw [hget] at h
    cases h
    exact ends_of_unknown hget
  | some tool =>
    rw [hget] at h
    obtain ⟨output, s₁, t₁, hs⟩ | ⟨f, s₁, t₁, hf⟩ := succeeds_or_fails tool observe call s t
    · rw [execute_of_succeeds hget hs] at h
      cases h
      exact ends_of_succeeds hget hs
    · rw [execute_of_fails hget hf] at h
      cases h
      exact ends_of_fails hget hf

/-- A tool that raises without a word. -/
def wordless : Tool Workspace where
  name := "wordless"
  description := ""
  arguments := { title := "Nothing", fields := [] }
  handler := fun _ w => (.error (.raised .valueError ""), w)

end Registry

end Stages

end Tool

end CodeAtlas
