import CodeAtlas.Proofs.Text.Halves
import CodeAtlas.Service.Endpoint
import CodeAtlas.Service.Response
import Mathlib.Data.List.Basic

/-! Which paths lead to the trace of a run, and when an answer or a refusal is sent. -/

namespace CodeAtlas

/-! ### Values that can be encoded -/

namespace Value

variable {name : String} {v : Value} {items : List Value} {fields : Fields}

/-- A text stands in the value, be it as a name in an object. -/
inductive Holds : Value → String → Prop
  | text {s : String} : Holds (.text s) s
  | item {items : List Value} {v : Value} {s : String} : v ∈ items → Holds v s → Holds (.list items) s
  | name {fields : Fields} {f : String × Value} : f ∈ fields → Holds (.object fields) f.1
  | field {fields : Fields} {f : String × Value} {s : String} : f ∈ fields → Holds f.2 s → Holds (.object fields) s

/-- No half of a pair stands anywhere in the value. -/
def ArePlain (v : Value) : Prop := ∀ s, v.Holds s → Text.ArePlain s.toList

theorem arePlain_list_iff : (Value.list items).ArePlain ↔ ∀ v ∈ items, v.ArePlain := by
  constructor
  · exact fun h v hv s hs => h s (.item hv hs)
  · intro h s hs
    cases hs with
    | item hv hs => exact h _ hv s hs

theorem arePlain_object_iff : (Value.object fields).ArePlain ↔
    ∀ f ∈ fields, Text.ArePlain f.1.toList ∧ f.2.ArePlain := by
  constructor
  · exact fun h f hf => ⟨h f.1 (.name hf), fun s hs => h s (.field hf hs)⟩
  · intro h s hs
    cases hs with
    | name hf => exact (h _ hf).1
    | field hf hs => exact (h _ hf).2 s hs

theorem arePlain_text_iff {s : String} : (Value.text s).ArePlain ↔ Text.ArePlain s.toList := by
  constructor
  · exact fun h => h s .text
  · intro h _ hs
    cases hs
    exact h

mutual

/-- A value can be encoded just if no half stands in it. -/
theorem refusal?_eq_none_iff : ∀ v : Value, v.refusal? = none ↔ v.ArePlain
  | .text _ => Text.refusal?_eq_none_iff.trans arePlain_text_iff.symm
  | .list items => (itemsRefusal?_eq_none_iff items).trans arePlain_list_iff.symm
  | .object fields => (fieldsRefusal?_eq_none_iff fields).trans arePlain_object_iff.symm
  | .null | .bool _ | .int _ | .real _ => iff_of_true rfl fun _ h => nomatch h

theorem itemsRefusal?_eq_none_iff : ∀ items : List Value, itemsRefusal? items = none ↔ ∀ v ∈ items, v.ArePlain
  | [] => by simp [itemsRefusal?]
  | v :: vs => by
    rw [itemsRefusal?, Option.or_eq_none_iff, List.forall_mem_cons, refusal?_eq_none_iff v,
      itemsRefusal?_eq_none_iff vs]

theorem fieldsRefusal?_eq_none_iff : ∀ fields : List (String × Value), fieldsRefusal? fields = none ↔
    ∀ f ∈ fields, Text.ArePlain f.1.toList ∧ f.2.ArePlain
  | [] => by simp [fieldsRefusal?]
  | (name, v) :: rest => by
    rw [fieldsRefusal?, Option.or_eq_none_iff, Option.or_eq_none_iff, List.forall_mem_cons, Text.refusal?_eq_none_iff,
      refusal?_eq_none_iff v, fieldsRefusal?_eq_none_iff rest]

end

/-- In an object whose names are written without halves, these can only stand in its values. -/
theorem arePlain_object (names : List String) (hfields : fields.map Prod.fst = names)
    (hnames : (names.all fun name => name.toList.all fun c => c.toNat < 0x10F000) = true) :
    (Value.object fields).ArePlain ↔ ∀ f ∈ fields, f.2.ArePlain := by
  refine arePlain_object_iff.trans (forall₂_congr fun f hf => and_iff_right ?_)
  have hname : f.1 ∈ names := hfields ▸ List.mem_map_of_mem hf
  exact Text.arePlain_of_all (List.all_eq_true.mp hnames f.1 hname)

/-! ### Values that are sent -/

mutual

/-- The second value is sent for the first one: the same, but with nothing in the place of a number that is not finite. -/
inductive SentAs : Value → Value → Prop
  | null : SentAs .null .null
  | bool {b : Bool} : SentAs (.bool b) (.bool b)
  | int {n : Int} : SentAs (.int n) (.int n)
  | finite {x : Float} : x.isFinite = true → SentAs (.real x) (.real x)
  | infinite {x : Float} : x.isFinite = false → SentAs (.real x) .null
  | text {s : String} : SentAs (.text s) (.text s)
  | list {items shown : List Value} : ItemsSentAs items shown → SentAs (.list items) (.list shown)
  | object {fields shown : List (String × Value)} : FieldsSentAs fields shown → SentAs (.object fields) (.object shown)

inductive ItemsSentAs : List Value → List Value → Prop
  | nil : ItemsSentAs [] []
  | cons {v w : Value} {items shown : List Value} : SentAs v w → ItemsSentAs items shown →
    ItemsSentAs (v :: items) (w :: shown)

inductive FieldsSentAs : List (String × Value) → List (String × Value) → Prop
  | nil : FieldsSentAs [] []
  | cons {name : String} {v w : Value} {fields shown : List (String × Value)} : SentAs v w → FieldsSentAs fields shown →
    FieldsSentAs ((name, v) :: fields) ((name, w) :: shown)

end

mutual

theorem sentAs_withoutInfinite : ∀ v : Value, v.SentAs v.withoutInfinite
  | .real x => by
    rw [withoutInfinite]
    split
    · exact .finite ‹_›
    · exact .infinite (by simpa using ‹¬x.isFinite = true›)
  | .list items => .list (itemsSentAs_itemsWithoutInfinite items)
  | .object fields => .object (fieldsSentAs_fieldsWithoutInfinite fields)
  | .null => .null
  | .bool _ => .bool
  | .int _ => .int
  | .text _ => .text

theorem itemsSentAs_itemsWithoutInfinite : ∀ items : List Value, ItemsSentAs items (itemsWithoutInfinite items)
  | [] => .nil
  | v :: vs => .cons (sentAs_withoutInfinite v) (itemsSentAs_itemsWithoutInfinite vs)

theorem fieldsSentAs_fieldsWithoutInfinite : ∀ fields : List (String × Value),
    FieldsSentAs fields (fieldsWithoutInfinite fields)
  | [] => .nil
  | (_, v) :: rest => .cons (sentAs_withoutInfinite v) (fieldsSentAs_fieldsWithoutInfinite rest)

end

mutual

theorem SentAs.eq : ∀ {v w : Value}, v.SentAs w → w = v.withoutInfinite
  | _, _, .finite h => (if_pos h).symm
  | _, _, .infinite h => (if_neg (Bool.eq_false_iff.mp h)).symm
  | _, _, .list h => congrArg Value.list h.eq
  | _, _, .object h => congrArg Value.object h.eq
  | _, _, .null | _, _, .bool | _, _, .int | _, _, .text => rfl

theorem ItemsSentAs.eq : ∀ {items shown : List Value}, ItemsSentAs items shown → shown = itemsWithoutInfinite items
  | _, _, .nil => rfl
  | _, _, .cons hv hrest => congrArg₂ List.cons hv.eq hrest.eq

theorem FieldsSentAs.eq : ∀ {fields shown : List (String × Value)}, FieldsSentAs fields shown →
    shown = fieldsWithoutInfinite fields
  | _, _, .nil => rfl
  | _, _, .cons hv hrest => congrArg₂ List.cons (congrArg (Prod.mk _) hv.eq) hrest.eq

end

theorem sentAs_iff {w : Value} : v.SentAs w ↔ w = v.withoutInfinite :=
  ⟨SentAs.eq, fun h => h ▸ sentAs_withoutInfinite v⟩

theorem itemsWithoutInfinite_eq_map (items : List Value) : itemsWithoutInfinite items = items.map withoutInfinite := by
  induction items with
  | nil => rfl
  | cons v items ih => rw [itemsWithoutInfinite, ih, List.map_cons]

end Value

namespace Service

/-! ### Paths -/

namespace Endpoint

theorem method_ne_head (e : Endpoint) : e.method ≠ "HEAD" := by cases e <;> simp [method]

theorem withoutLineEnd_append_traceRoot (id : List Char) :
    withoutLineEnd (traceRoot.toList ++ id) = traceRoot.toList ++ withoutLineEnd id := by
  by_cases hid : id = []
  · rw [hid]
    decide
  · unfold withoutLineEnd
    rw [List.getLast?_append_of_ne_nil _ hid, List.dropLast_append_of_ne_nil hid]
    split <;> rfl

/-- No endpoint with a path of its own lies below the traces, whether there is a line end at its end or not. -/
theorem find?_table_below_traceRoot (id : List Char) :
    (table.find? fun e => e.1.toList == withoutLineEnd (traceRoot.toList ++ id)) = none := by
  have hapart : ∀ e ∈ table, ¬traceRoot.toList <+: e.1.toList := by decide
  rw [List.find?_eq_none]
  intro e he heq
  rw [beq_iff_eq, withoutLineEnd_append_traceRoot] at heq
  exact hapart e he (heq ▸ List.prefix_append _ _)

theorem ofPath?_trace {id : String} (hne : id ≠ "") (hsegment : '/' ∉ id.toList) :
    ofPath? (traceRoot ++ id).toList = some (.trace id) := by
  have hnil : id.toList ≠ [] := fun h => hne (String.toList_eq_nil_iff.mp h)
  have hid : traceId? (traceRoot.toList ++ id.toList) = some id := by
    rw [traceId?, if_pos (List.isPrefixOf_iff_prefix.mpr (List.prefix_append _ _)), List.drop_left]
    simp [hnil, hsegment]
  rw [String.toList_append, ofPath?, find?_table_below_traceRoot, hid]
  rfl

end Endpoint

namespace Route

/-- One segment below the traces leads to the trace with that id. -/
theorem ofPath_trace {id : String} (hne : id ≠ "") (hsegment : '/' ∉ id.toList) :
    ofPath "GET" (Endpoint.traceRoot ++ id).toList = .endpoint (.trace id) := by
  rw [ofPath, Endpoint.ofPath?_trace hne hsegment]
  rfl

theorem ofPath_metrics : ofPath "GET" "/metrics".toList = .endpoint .metrics := by decide

/-- An endpoint is reached by its own method only. -/
theorem method_of_ofPath {method : String} {path : List Char} {e : Endpoint} (h : ofPath method path = .endpoint e) :
    e.method = method := by
  unfold ofPath at h
  split at h
  · split at h
    · cases h
      assumption
    · cases h
  · split at h <;> cases h

end Route

/-! ### Responses -/

namespace Response

variable {method : String} {halves : Bool} {refusal : Refusal} {v : Value} {r : Response}

theorem forMethod_of_ne (h : method ≠ "HEAD") (r : Response) : forMethod method r = r := if_neg h

/-- A value without halves is sent. -/
theorem ofAnswer_value (h : halves = true → v.ArePlain) :
    ofAnswer halves (.ok v) = .ok ⟨200, some v.withoutInfinite⟩ := by
  have hnone : (if halves then v.refusal? else none) = none := by
    cases halves with
    | false => rfl
    | true => exact (Value.refusal?_eq_none_iff v).mpr (h rfl)
  rw [ofAnswer, hnone]

/-- A value with a half cannot be sent. -/
theorem ofAnswer_unsendable (h : ¬(halves = true → v.ArePlain)) :
    ∃ refusal, ofAnswer halves (.ok v) = .error (.unsendable refusal) := by
  obtain ⟨rfl, hplain⟩ := Classical.not_imp.mp h
  obtain ⟨refusal, hrefusal⟩ := Option.ne_none_iff_exists'.mp (mt (Value.refusal?_eq_none_iff v).mp hplain)
  refine ⟨refusal, ?_⟩
  rw [ofAnswer, if_pos rfl, hrefusal]

/-- What is sent instead of an answer never looks like one. -/
theorem status_ofRefusal (h : ofRefusal halves refusal = .ok r) : r.status ≠ 200 := by
  have hstatus : refusal.status ≠ 200 := by cases refusal <;> simp [Refusal.status]
  unfold ofRefusal at h
  dsimp only at h
  split at h
  · cases h
  · split at h
    · cases h
    · cases h
      exact hstatus

/-- A detail without halves is sent. -/
theorem ofRefusal_text {m : String} (hdetail : refusal.detail = .text m) (hm : Text.ArePlain m.toList) :
    ofRefusal halves refusal = .ok ⟨refusal.status, some (.object [("detail", .text m)])⟩ := by
  have hdata : (Value.object [("detail", .text m)]).compact.toList =
      '\x7b' :: (Value.dataText "detail").toList ++ ':' :: (Value.dataText m).toList ++ ['\x7d'] := by
    simp [Value.compact, Value.dataIn, Value.fieldsIn]
  have hplain : Text.ArePlain (Value.object [("detail", .text m)]).compact.toList := by
    rw [hdata]
    refine .append (.append (.cons (Text.isPlain_of_lt (by decide)) ?_) (.cons (Text.isPlain_of_lt (by decide)) ?_))
      (Text.arePlain_of_all (by decide))
    · exact Text.arePlain_dataText (Text.arePlain_of_all (by decide))
    · exact Text.arePlain_dataText hm
  rw [ofRefusal, hdetail, hplain.refusal?_eq_none]
  cases halves <;> rfl

end Response

end Service

end CodeAtlas
