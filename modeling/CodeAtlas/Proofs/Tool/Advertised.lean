import CodeAtlas.Proofs.Decimal.Finite
import CodeAtlas.Proofs.Schema.Validation
import CodeAtlas.Tool.Basic
import CodeAtlas.Workspace
import Mathlib

/-! How what a tool advertises agrees with what it takes. The declaration names a type for each field, and a kind of
    field without a type of its own goes as a text. So an object that keeps to the declaration is taken, unless the kind
    of some field leaves out a value of the advertised type; and no required field may be left out. -/

namespace CodeAtlas

/-! ### Types of values -/

/-- The value is of the type with this name. A number without a fraction is an integer, however it is written. -/
def Value.HasType (type : String) : Value → Prop
  | .null => False
  | .bool _ => type = "boolean"
  | .int _ => type = "integer" ∨ type = "number"
  | .real x => type = "integer" ∧ (Decimal.whole? x).isSome ∨ type = "number"
  | .text _ => type = "string"
  | .list _ => type = "array"
  | .object _ => type = "object"

/-- The kind leaves the value out, although it is of the type that the kind is advertised as: a text where there must be
    nothing, one that is no integer where there may be one, an integer beyond all doubles, and an integer that is written
    as a double beyond a word of 64 bits. -/
inductive Kind.LeavesOut : Kind → Value → Prop
  | nothing {s : String} : LeavesOut .nothing (.text s)
  | optionalInteger {s : String} {c : Schema.Complaint} : Schema.integerOfText s = .error c →
      LeavesOut .optionalInteger (.text s)
  | number {n : Int} : (Schema.realOfInt n).isFinite = false → LeavesOut .number (.int n)
  | integer {x : Float} {n : Int} : Decimal.whole? x = some n → 2 ^ 63 ≤ n.natAbs → LeavesOut .integer (.real x)

namespace Schema
variable {name : String} {kind : Kind} {v : Value} {f : Field} {given : Value.Fields} {whole : Value}

theorem integerOfReal_of_whole {x : Float} {n : Int} (h : Decimal.whole? x = some n) :
    integerOfReal x = if n.natAbs < 2 ^ 63 then .ok n else .error .oversizedInteger := by
  rw [integerOfReal, Decimal.isFinite_of_whole? h, h]
  rfl

theorem exists_mapError_map_iff {ε ε' α β : Type} {outcome : Except ε α} {g : α → β} {complain : ε → ε'} :
    (∃ b, (outcome.map g).mapError complain = .ok b) ↔ ∃ a, outcome = .ok a := by
  cases outcome <;> simp [Except.map, Except.mapError]

theorem exists_integer_iff (h : v.HasType "integer") : (∃ n, integer v = .ok n) ↔ ¬Kind.LeavesOut .integer v := by
  cases v with
  | int n =>
    refine iff_of_true ⟨n, rfl⟩ fun hout => ?_
    cases hout
  | real x =>
    obtain ⟨-, hwhole⟩ | hnumber := h
    · obtain ⟨n, hn⟩ := Option.isSome_iff_exists.mp hwhole
      rw [integer, integerOfReal_of_whole hn]
      split
      · rename_i hsize
        refine iff_of_true ⟨n, rfl⟩ fun hout => ?_
        cases hout with
        | integer hother hlarge =>
          obtain rfl := Option.some.inj (hn.symm.trans hother)
          omega
      · rename_i hsize
        exact iff_of_false (by simp) (not_not_intro (.integer hn (Nat.not_lt.mp hsize)))
    · exact absurd hnumber (by decide)
  | _ => simp [Value.HasType] at h

theorem exists_number_iff (h : v.HasType "number") : (∃ x, number v = .ok x) ↔ ¬Kind.LeavesOut .number v := by
  cases v with
  | int n =>
    rw [number]
    split
    · rename_i hfinite
      refine iff_of_true ⟨_, rfl⟩ fun hout => ?_
      cases hout with
      | number hinfinite => exact absurd (hfinite.symm.trans hinfinite) (by decide)
    · rename_i hinfinite
      exact iff_of_false (by simp) (not_not_intro (.number (by simpa using hinfinite)))
  | real x =>
    refine iff_of_true ⟨x, rfl⟩ fun hout => ?_
    cases hout
  | _ => simp [Value.HasType] at h

theorem exists_text_of_hasType (h : v.HasType "string") : ∃ s, v = .text s := by
  cases v <;> simp [Value.HasType] at h ⊢

/-- Of the values of the advertised type, a kind takes those that it does not leave out. -/
theorem exists_fit_iff (hkind : kind ≠ .texts) (h : v.HasType (Tool.advertisedType kind)) :
    (∃ fitted, fit name kind v = .ok fitted) ↔ ¬kind.LeavesOut v := by
  cases kind with
  | integer => exact exists_mapError_map_iff.trans (exists_integer_iff h)
  | number => exact exists_mapError_map_iff.trans (exists_number_iff h)
  | text | anything | optionalText =>
    obtain ⟨s, rfl⟩ := exists_text_of_hasType h
    refine iff_of_true ⟨_, rfl⟩ fun hout => ?_
    cases hout
  | nothing =>
    obtain ⟨s, rfl⟩ := exists_text_of_hasType h
    exact iff_of_false (by simp [fit]) (not_not_intro .nothing)
  | optionalInteger =>
    obtain ⟨s, rfl⟩ := exists_text_of_hasType h
    refine exists_mapError_map_iff.trans ?_
    rw [integer]
    cases hinteger : integerOfText s with
    | ok n =>
      refine iff_of_true ⟨n, rfl⟩ fun hout => ?_
      cases hout with
      | optionalInteger hfails =>
        rw [hinteger] at hfails
        cases hfails
    | error c => exact iff_of_false (by simp) (not_not_intro (.optionalInteger hinteger))
  | boolean | list | object =>
    cases v <;> simp [Value.HasType, Tool.advertisedType] at h
    refine iff_of_true ⟨_, rfl⟩ fun hout => ?_
    cases hout
  | texts => exact absurd rfl hkind

/-! ### Objects -/

/-- Of the fields nothing is asked but their kinds, and none is a list of texts only. -/
def IsUnconstrained (s : Schema) : Prop := ∀ f ∈ s.fields, f.atLeast = none ∧ f.minLength = none ∧ f.kind ≠ .texts

theorem exists_fieldValues_iff {fields : List Field} : (∃ values, fieldValues given whole fields = .ok values) ↔
    ∀ f ∈ fields, ∃ v, field f given whole = .ok v := by
  induction fields with
  | nil => simp [fieldValues]
  | cons f rest ih =>
    simp only [fieldValues_cons_eq_ok_iff, List.forall_mem_cons, ← ih]
    constructor
    · rintro ⟨_, v, values, hv, hvalues, rfl⟩
      exact ⟨⟨v, hv⟩, values, hvalues⟩
    · rintro ⟨⟨v, hv⟩, values, hvalues⟩
      exact ⟨_, v, values, hv, hvalues, rfl⟩

theorem exists_validateFields_iff {s : Schema} : (∃ fitted, s.validateFields given = .ok fitted) ↔
    ∀ f ∈ s.fields, ∃ v, field f given (.object given) = .ok v := by
  rw [← exists_fieldValues_iff, validateFields]
  cases fieldValues given (.object given) s.fields <;> simp [Except.mapError]

theorem exists_field_iff (hleast : f.atLeast = none) (hlength : f.minLength = none) :
    (∃ v, field f given whole = .ok v) ↔ (f.required = true → ∃ v, Value.Fields.get? given f.name = some v) ∧
      ∀ v, Value.Fields.get? given f.name = some v → ∃ fitted, fit f.name f.kind v = .ok fitted := by
  rw [field_of_unbounded hleast hlength]
  cases Value.Fields.get? given f.name with
  | none => cases hdefault : f.default <;> simp [Field.required, hdefault]
  | some v => simp

theorem senselessBound?_of_unconstrained {s : Schema} (h : s.IsUnconstrained) (given : Value.Fields) :
    s.senselessBound? given = none := by
  rw [senselessBound?, List.findSome?_eq_none_iff]
  intro f hf
  obtain ⟨hleast, hlength, -⟩ := h f hf
  simp only [senseless?, judge_of_unbounded hleast hlength]
  split
  · rfl
  · split <;> rfl

end Schema

/-! ### Declarations -/

namespace Tool
open Value

variable {σ : Type} {t : Tool σ} {arguments : Fields} {name : String}

/-- The part of the declaration that tells of the arguments. -/
def parameters (t : Tool σ) : Value := ((t.declaration.get? "function").bind fun f => f.get? "parameters").getD .null

/-- The names that have to be there, in a block of parameters. -/
def requiredOf (block : Value) : List Value :=
  match block.get? "required" with
  | some (.list names) => names
  | _ => []

/-- What a block of parameters says of each name. -/
def propertiesOf (block : Value) : Fields :=
  match block.get? "properties" with
  | some (.object properties) => properties
  | _ => []

theorem requiredOf_parameters (t : Tool σ) : requiredOf t.parameters = (requiredNames t.arguments).map .text := rfl

theorem propertiesOf_parameters (t : Tool σ) : propertiesOf t.parameters = t.arguments.fields.map advertisedField := rfl

/-- The arguments keep to a block of parameters: whatever has to be there is there, and all that is there and told of is
    of the type that is told. -/
structure Admits (block : Value) (arguments : Fields) : Prop where
  required : ∀ name, .text name ∈ requiredOf block → ∃ v, arguments.get? name = some v
  typed : ∀ p ∈ propertiesOf block, ∀ type v, p.2.get? "type" = some (.text type) → arguments.get? p.1 = some v →
    v.HasType type

theorem mem_requiredOf_iff : .text name ∈ requiredOf t.parameters ↔
    ∃ f ∈ t.arguments.fields, f.required = true ∧ f.name = name := by
  simp [requiredOf_parameters, requiredNames, and_assoc]

theorem admits_iff : Admits t.parameters arguments ↔
    ∀ f ∈ t.arguments.fields, (f.required = true → ∃ v, arguments.get? f.name = some v) ∧
      ∀ v, arguments.get? f.name = some v → v.HasType (advertisedType f.kind) := by
  constructor
  · intro h f hf
    exact ⟨fun hrequired => h.required f.name (mem_requiredOf_iff.mpr ⟨f, hf, hrequired, rfl⟩),
      fun v hv => h.typed (advertisedField f) (List.mem_map_of_mem hf) _ v rfl hv⟩
  · intro h
    refine ⟨fun name hname => ?_, fun p hp type v htype hv => ?_⟩
    · obtain ⟨f, hf, hrequired, rfl⟩ := mem_requiredOf_iff.mp hname
      exact (h f hf).1 hrequired
    · obtain ⟨f, hf, rfl⟩ := List.mem_map.mp hp
      obtain rfl : advertisedType f.kind = type := by simpa [advertisedField, Value.get?, Fields.get?] using htype
      exact (h f hf).2 v hv

/-! ### Invocations -/

theorem invoke_of_fits {s : σ} {fitted : Fields} (hplain : t.arguments.IsUnconstrained)
    (h : t.arguments.validateFields arguments = .ok fitted) : t.invoke arguments s = t.handler fitted s := by
  simp only [invoke, Schema.senselessBound?_of_unconstrained hplain, h]

/-- Arguments that do not fit are turned down before anything is run. -/
theorem exists_rejection {s : σ} (hplain : t.arguments.IsUnconstrained)
    (h : ¬∃ fitted, t.arguments.validateFields arguments = .ok fitted) : ∃ rejection,
      t.arguments.validateFields arguments = .error rejection ∧ t.invoke arguments s = (.error (.invalid rejection), s) := by
  cases hfields : t.arguments.validateFields arguments with
  | ok fitted => exact absurd ⟨fitted, hfields⟩ h
  | error rejection =>
    refine ⟨rejection, rfl, ?_⟩
    simp only [invoke, Schema.senselessBound?_of_unconstrained hplain, hfields]

theorem exists_fitted_iff (hplain : t.arguments.IsUnconstrained) (hadmits : Admits t.parameters arguments) :
    (∃ fitted, t.arguments.validateFields arguments = .ok fitted) ↔
      ∀ f ∈ t.arguments.fields, ∀ v, arguments.get? f.name = some v → ¬f.kind.LeavesOut v := by
  rw [Schema.exists_validateFields_iff]
  refine forall₂_congr fun f hf => ?_
  obtain ⟨hleast, hlength, hkind⟩ := hplain f hf
  obtain ⟨hrequired, htyped⟩ := admits_iff.mp hadmits f hf
  rw [Schema.exists_field_iff hleast hlength, and_iff_right hrequired]
  exact forall₂_congr fun v hv => Schema.exists_fit_iff hkind (htyped v hv)

def without (arguments : Fields) (name : String) : Fields := arguments.filter fun a => a.1 != name

theorem get?_without (arguments : Fields) (name : String) : (without arguments name).get? name = none := by
  simp [Fields.get?, without, List.find?_eq_none]

theorem not_exists_fitted_without (hplain : t.arguments.IsUnconstrained) (hname : .text name ∈ requiredOf t.parameters) :
    ¬∃ fitted, t.arguments.validateFields (without arguments name) = .ok fitted := by
  obtain ⟨f, hf, hrequired, rfl⟩ := mem_requiredOf_iff.mp hname
  obtain ⟨hleast, hlength, -⟩ := hplain f hf
  intro hfitted
  obtain ⟨v, hv⟩ := ((Schema.exists_field_iff hleast hlength).mp (Schema.exists_validateFields_iff.mp hfitted f hf)).1 hrequired
  rw [get?_without] at hv
  cases hv

/-- Arguments that keep to the declaration of a tool are taken and handled, unless the kind of a field leaves out the
    value that is given for it: then they are turned down. Without a name that has to be there they always are. -/
theorem invoke_of_admits (t : Tool σ) (arguments : Fields) (s : σ) (hplain : t.arguments.IsUnconstrained)
    (hadmits : Admits t.parameters arguments) :
    ((∀ f ∈ t.arguments.fields, ∀ v, arguments.get? f.name = some v → ¬f.kind.LeavesOut v) →
      ∃ fitted, t.arguments.validateFields arguments = .ok fitted ∧ t.invoke arguments s = t.handler fitted s) ∧
    ((∃ f ∈ t.arguments.fields, ∃ v, arguments.get? f.name = some v ∧ f.kind.LeavesOut v) →
      ∃ rejection, t.arguments.validateFields arguments = .error rejection ∧
        t.invoke arguments s = (.error (.invalid rejection), s)) ∧
    ∀ name, .text name ∈ requiredOf t.parameters → ∃ rejection,
      t.arguments.validateFields (without arguments name) = .error rejection ∧
        t.invoke (without arguments name) s = (.error (.invalid rejection), s) := by
  refine ⟨fun htaken => ?_, fun ⟨f, hf, v, hv, hout⟩ => ?_, fun name hname => ?_⟩
  · obtain ⟨fitted, hfitted⟩ := (exists_fitted_iff hplain hadmits).mpr htaken
    exact ⟨fitted, hfitted, invoke_of_fits hplain hfitted⟩
  · exact exists_rejection hplain fun hfitted => (exists_fitted_iff hplain hadmits).mp hfitted f hf v hv hout
  · exact exists_rejection hplain (not_exists_fitted_without hplain hname)

/-- A tool with a field of every kind. -/
def takesAll : Tool Workspace where
  name := "all"
  description := ""
  arguments := {
    title := "All"
    fields := [{ name := "text", kind := .text }, { name := "integer", kind := .integer }, { name := "number", kind := .number },
      { name := "boolean", kind := .boolean }, { name := "list", kind := .list }, { name := "object", kind := .object },
      { name := "anything", kind := .anything }, { name := "nothing", kind := .nothing, default := some .null },
      { name := "optionalText", kind := .optionalText, default := some .null },
      { name := "optionalInteger", kind := .optionalInteger, default := some .null }] }
  handler := fun _ w => (.ok "taken", w)

def allGiven : Fields :=
  [("text", .text "x"), ("integer", .real 2.0), ("number", .int 3), ("boolean", .bool true), ("list", .list []),
    ("object", .object []), ("anything", .text "y"), ("optionalText", .text "z"), ("optionalInteger", .text " 7 ")]

theorem isUnconstrained_takesAll : takesAll.arguments.IsUnconstrained := by simp [Schema.IsUnconstrained, takesAll]

theorem admits_allGiven : Admits takesAll.parameters allGiven := by
  have hwhole : (Decimal.whole? 2.0).isSome = true := by decide +kernel
  rw [admits_iff]
  intro f hf
  fin_cases hf
  all_goals refine ⟨fun hrequired => ?_, fun v hv => ?_⟩
  all_goals
    first
    | exact ⟨_, rfl⟩
    | cases hrequired
    | cases hv <;> first | exact rfl | exact Or.inr rfl | exact Or.inl ⟨rfl, hwhole⟩

theorem not_leavesOut_allGiven : ∀ f ∈ takesAll.arguments.fields, ∀ v, allGiven.get? f.name = some v →
    ¬f.kind.LeavesOut v := by
  intro f hf v hv hout
  fin_cases hf
  all_goals cases hv
  all_goals cases hout
  · rename_i n hlarge hn
    have hwhole : Decimal.whole? 2.0 = some 2 := by decide +kernel
    obtain rfl := Option.some.inj (hwhole.symm.trans hn)
    exact absurd hlarge (by decide)
  · rename_i hinfinite
    exact absurd hinfinite (by decide +kernel)
  · rename_i c hfails
    cases hfails

/-- A value for each field but one is taken, and without the text none of them is. -/
theorem invoke_allGiven : takesAll.arguments.IsUnconstrained ∧ Admits takesAll.parameters allGiven ∧
    takesAll.invoke allGiven {} = (.ok "taken", {}) ∧
    ∃ rejection, takesAll.invoke (without allGiven "text") {} = (.error (.invalid rejection), {}) := by
  obtain ⟨htaken, -, hmissing⟩ := invoke_of_admits takesAll allGiven {} isUnconstrained_takesAll admits_allGiven
  obtain ⟨_, -, hinvoke⟩ := htaken not_leavesOut_allGiven
  obtain ⟨rejection, -, hrejected⟩ := hmissing "text" (mem_requiredOf_iff.mpr ⟨_, List.mem_cons_self, rfl, rfl⟩)
  exact ⟨isUnconstrained_takesAll, admits_allGiven, hinvoke, rejection, hrejected⟩

/-- A tool with a single field. -/
def takesOne (kind : Kind) : Tool Workspace where
  name := "one"
  description := ""
  arguments := { title := "One", fields := [{ name := "a", kind }] }
  handler := fun _ w => (.ok "taken", w)

/-- The value keeps to what the tool advertises for its field, and is turned down. -/
def TurnsDown (kind : Kind) (v : Value) : Prop :=
  (takesOne kind).arguments.IsUnconstrained ∧ Admits (takesOne kind).parameters [("a", v)] ∧
    ∃ rejection, (takesOne kind).invoke [("a", v)] {} = (.error (.invalid rejection), {})

theorem turnsDown_of_leavesOut {kind : Kind} {v : Value} (hkind : kind ≠ .texts) (htype : v.HasType (advertisedType kind))
    (hout : kind.LeavesOut v) : TurnsDown kind v := by
  have hplain : (takesOne kind).arguments.IsUnconstrained := List.forall_mem_singleton.mpr ⟨rfl, rfl, hkind⟩
  have hadmits : Admits (takesOne kind).parameters [("a", v)] := by
    refine admits_iff.mpr (List.forall_mem_singleton.mpr ⟨fun _ => ⟨v, rfl⟩, fun other hother => ?_⟩)
    obtain rfl : v = other := Option.some.inj hother
    exact htype
  obtain ⟨rejection, -, hrejected⟩ := exists_rejection hplain fun hfitted =>
    (exists_fitted_iff hplain hadmits).mp hfitted _ List.mem_cons_self v rfl hout
  exact ⟨hplain, hadmits, rejection, hrejected⟩

/-- There are such values of four kinds: a text for nothing, a text for an integer that may be left out, an integer for a
    number, and an integer that is written as a double. -/
theorem exists_admitted_and_rejected : TurnsDown .nothing (.text "x") ∧ TurnsDown .optionalInteger (.text "ten") ∧
    TurnsDown .number (.int (10 ^ 400)) ∧ TurnsDown .integer (.real 1e19) := by
  have hwhole : Decimal.whole? 1e19 = some (10 ^ 19) := by decide +kernel
  refine ⟨?_, ?_, ?_, ?_⟩
  · exact turnsDown_of_leavesOut (by decide) rfl .nothing
  · exact turnsDown_of_leavesOut (by decide) rfl (.optionalInteger rfl)
  · exact turnsDown_of_leavesOut (by decide) (Or.inr rfl) (.number (Decimal.isFinite_realOfInt_pow le_rfl))
  · refine turnsDown_of_leavesOut (by decide) (Or.inl ⟨rfl, ?_⟩) (.integer hwhole (by decide))
    rw [hwhole]
    rfl

end Tool

end CodeAtlas
