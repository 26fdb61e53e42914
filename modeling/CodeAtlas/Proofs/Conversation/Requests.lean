import CodeAtlas.Conversation.Message
import Mathlib

/-! How calls of any shape are read. A call has a name and an id whatever they are, but its arguments have to be an
    object, or something that can be made one: nothing at all, or a list of names and values. -/

namespace CodeAtlas

/-! ### Fields from pairs -/

namespace Value.Fields
variable {fields pairs : Fields} {name : String} {v : Value}

def names (fields : Fields) : List String := fields.map (·.1)

theorem names_set : (fields.set name v).names = if name ∈ fields.names then fields.names else fields.names ++ [name] := by
  have hany : (fields.any fun f => f.1 == name) = true ↔ name ∈ fields.names := by simp [names]
  unfold set
  by_cases h : name ∈ fields.names
  · rw [if_pos (hany.mpr h), if_pos h, names, List.map_map]
    exact List.map_congr_left fun f _ => by by_cases heq : f.1 = name <;> simp [heq]
  · rw [if_neg (mt hany.mp h), if_neg h]
    simp [names]

theorem nodup_set (h : fields.names.Nodup) : (fields.set name v).names.Nodup := by
  rw [names_set]
  split
  · exact h
  · rename_i hnew
    simpa using h.concat hnew

theorem nodup_ofPairs (pairs : Fields) : (ofPairs pairs).names.Nodup :=
  List.foldlRecOn pairs _ (motive := fun fields => (names fields).Nodup) List.nodup_nil
    fun _ h _ _ => nodup_set h

/-- Where no name stands twice, the pairs are the fields. -/
theorem ofPairs_of_nodup (h : pairs.names.Nodup) : ofPairs pairs = pairs := by
  have happend : ∀ rest fields : Fields, (fields ++ rest).names.Nodup →
      rest.foldl (fun fields p => fields.set p.1 p.2) fields = fields ++ rest := by
    intro rest
    induction rest with
    | nil => simp
    | cons p rest ih =>
      intro fields h
      have hnew : (fields.any fun f => f.1 == p.1) = false := by
        simp only [names, List.map_append, List.map_cons, List.nodup_append] at h
        simpa using fun name v hmem heq => h.2.2 _ (List.mem_map_of_mem hmem) _ List.mem_cons_self heq
      have hset : fields.set p.1 p.2 = fields ++ [p] := by simp [set, hnew]
      rw [List.foldl_cons, hset, ih _ (by simpa using h), List.append_assoc, List.singleton_append]
  exact happend pairs [] h

theorem ofPairs_ofPairs (pairs : Fields) : ofPairs (ofPairs pairs) = ofPairs pairs := ofPairs_of_nodup (nodup_ofPairs pairs)

end Value.Fields

namespace Conversation
open Value

/-! ### Pairs -/

def asText (p : String × Value) : Value × Value := (.text p.1, p.2)

/-- The item holds just the two. -/
def IsPair (item : Value) (p : String × Value) : Prop := item.items? = some [.text p.1, p.2]

theorem pairOf_eq_ok_iff {i : Nat} {item : Value} {p : String × Value} :
    pairOf i item = .ok (asText p) ↔ IsPair item p := by
  constructor
  · intro h
    unfold pairOf at h
    split at h
    · cases h
    · cases h
    · cases h
    · rename_i hitems
      cases h
      exact hitems
    · cases h
  · intro h
    rw [pairOf, h]
    rfl

theorem pairsFrom_eq_ok_iff {items : List Value} {i : Nat} {named : Fields} :
    pairsFrom i items = .ok (named.map asText) ↔ List.Forall₂ IsPair items named := by
  induction items generalizing i named with
  | nil => cases named <;> simp [pairsFrom]
  | cons item rest ih =>
    rw [pairsFrom]
    cases named with
    | nil => cases pairOf i item <;> cases pairsFrom (i + 1) rest <;> simp [Except.map]
    | cons p named =>
      rw [List.map_cons, List.forall₂_cons, ← pairOf_eq_ok_iff (i := i), ← ih (i := i + 1)]
      cases pairOf i item with
      | error f => simp
      | ok pair => cases pairsFrom (i + 1) rest <;> simp [Except.map]

theorem mergePair_asText (fields : Fields) (p : String × Value) :
    mergePair (fields.map asText) (asText p) = (fields.set p.1 p.2).map asText := by
  have hsame : ∀ f : String × Value, isSameName (asText f).1 (asText p).1 = (f.1 == p.1) := fun _ => rfl
  unfold mergePair Fields.set
  simp only [List.any_map, Function.comp_def, hsame]
  split
  · simp only [List.map_map, Function.comp_def, hsame]
    refine List.map_congr_left fun f _ => ?_
    by_cases heq : f.1 = p.1 <;> simp [heq, asText]
  · rw [List.map_append]
    rfl

theorem foldl_mergePair_asText (named : Fields) :
    (named.map asText).foldl mergePair [] = (Fields.ofPairs named).map asText := by
  rw [List.foldl_map]
  exact @List.foldl_hom _ _ _ (List.map asText) _ _ named [] mergePair_asText

/-- The name of the pair is a text. -/
def IsNamed (p : Value × Value) : Prop := ∃ name, p.1 = .text name

theorem exists_eq_map_asText_iff {pairs : List (Value × Value)} :
    (∃ named : Fields, pairs = named.map asText) ↔ ∀ p ∈ pairs, IsNamed p := by
  constructor
  · rintro ⟨named, rfl⟩ p hp
    obtain ⟨q, -, rfl⟩ := List.mem_map.mp hp
    exact ⟨q.1, rfl⟩
  · intro h
    induction pairs with
    | nil => exact ⟨[], rfl⟩
    | cons p rest ih =>
      obtain ⟨⟨name, hname⟩, hrest⟩ := List.forall_mem_cons.mp h
      obtain ⟨named, rfl⟩ := ih hrest
      exact ⟨(name, p.2) :: named, by rw [List.map_cons, asText, ← hname]⟩

/-- A text is the same name as another text only. -/
theorem isNamed_of_isSameName {p q : Value × Value} (hq : IsNamed q) (h : isSameName q.1 p.1 = true) : IsNamed p := by
  obtain ⟨name, hname⟩ := hq
  rw [hname] at h
  cases hp : p.1 with
  | text other => exact ⟨other, hp⟩
  | _ =>
    rw [hp] at h
    cases h

/-- A name that is no text does not get lost where pairs are merged. -/
theorem isNamed_of_mergePair {pairs : List (Value × Value)} {p : Value × Value} (h : ∀ q ∈ mergePair pairs p, IsNamed q) :
    IsNamed p ∧ ∀ q ∈ pairs, IsNamed q := by
  unfold mergePair at h
  split at h
  · rename_i hany
    have hpairs : ∀ q ∈ pairs, IsNamed q := fun q hq => by
      have hmerged := h _ (List.mem_map_of_mem hq)
      split at hmerged
      · exact hmerged
      · exact hmerged
    obtain ⟨old, hold, hsame⟩ := List.any_eq_true.mp hany
    exact ⟨isNamed_of_isSameName (hpairs old hold) hsame, hpairs⟩
  · simp only [List.mem_append, List.mem_singleton] at h
    exact ⟨h p (Or.inr rfl), fun q hq => h q (Or.inl hq)⟩

theorem isNamed_of_foldl_mergePair {pairs merged : List (Value × Value)}
    (h : ∀ q ∈ pairs.foldl mergePair merged, IsNamed q) : (∀ q ∈ pairs, IsNamed q) ∧ ∀ q ∈ merged, IsNamed q := by
  induction pairs generalizing merged with
  | nil => exact ⟨fun q hq => absurd hq List.not_mem_nil, h⟩
  | cons p rest ih =>
    obtain ⟨hrest, hmerged⟩ := ih h
    obtain ⟨hp, hmerged⟩ := isNamed_of_mergePair hmerged
    exact ⟨List.forall_mem_cons.mpr ⟨hp, hrest⟩, hmerged⟩

theorem namedArguments_asText (named : Fields) : namedArguments (named.map asText) = .ok (Fields.ofPairs named) := by
  simp [namedArguments, List.filterMap_map, Function.comp_def, asText]

theorem namedArguments_eq_ok_iff {pairs : List (Value × Value)} {arguments : Fields} :
    namedArguments pairs = .ok arguments ↔ ∃ named : Fields, pairs = named.map asText ∧ arguments = Fields.ofPairs named := by
  constructor
  · intro h
    obtain ⟨named, rfl⟩ : ∃ named : Fields, pairs = named.map asText := by
      refine exists_eq_map_asText_iff.mpr fun p hp => ?_
      unfold namedArguments at h
      dsimp only at h
      split at h
      · rename_i hnone
        have hproblem := List.filterMap_eq_nil_iff.mp hnone p hp
        split at hproblem
        · exact ⟨_, ‹_›⟩
        · cases hproblem
        · cases hproblem
      · cases h
    rw [namedArguments_asText] at h
    exact ⟨named, rfl, (Except.ok.inj h).symm⟩
  · rintro ⟨named, rfl, rfl⟩
    exact namedArguments_asText named

/-! ### Arguments -/

/-- What arguments are read from a value: none from one that counts as empty, the fields of an object, and from a list
    what its pairs give each name at last. -/
inductive ReadsAs : Value → Fields → Prop
  | empty {v : Value} : v.isEmptyLike = true → ReadsAs v []
  | object {fields : Fields} : fields ≠ [] → ReadsAs (.object fields) (Fields.ofPairs fields)
  | pairs {items : List Value} {named : Fields} : items ≠ [] → List.Forall₂ IsPair items named →
      ReadsAs (.list items) (Fields.ofPairs named)

/-- Arguments are made of items just if these are pairs. -/
theorem merged_eq_ok_iff {items : List Value} {arguments : Fields} :
    (∃ pairs, ((pairsFrom 0 items).map fun pairs => pairs.foldl mergePair []) = .ok pairs ∧
      namedArguments pairs = .ok arguments) ↔
      ∃ named, List.Forall₂ IsPair items named ∧ arguments = Fields.ofPairs named := by
  constructor
  · rintro ⟨merged, hmerged, harguments⟩
    cases hpairs : pairsFrom 0 items with
    | error f =>
      rw [hpairs] at hmerged
      cases hmerged
    | ok pairs =>
      rw [hpairs] at hmerged
      obtain rfl := Except.ok.inj hmerged
      dsimp only at harguments
      obtain ⟨fields, hfields, -⟩ := namedArguments_eq_ok_iff.mp harguments
      have hmergedNamed := exists_eq_map_asText_iff.mp ⟨fields, hfields⟩
      obtain ⟨named, rfl⟩ := exists_eq_map_asText_iff.mpr (isNamed_of_foldl_mergePair hmergedNamed).1
      rw [foldl_mergePair_asText, namedArguments_asText, Fields.ofPairs_ofPairs] at harguments
      exact ⟨named, pairsFrom_eq_ok_iff.mp hpairs, (Except.ok.inj harguments).symm⟩
  · rintro ⟨named, hpairs, rfl⟩
    refine ⟨(Fields.ofPairs named).map asText, ?_, ?_⟩
    · rw [pairsFrom_eq_ok_iff.mpr hpairs, Except.map, foldl_mergePair_asText]
    · rw [namedArguments_asText, Fields.ofPairs_ofPairs]

/-- The characters of a text are no pairs. -/
theorem not_arePairs_text {s : String} (hs : s ≠ "") (named : Fields) :
    ¬List.Forall₂ IsPair (s.toList.map fun c => .text (String.ofList [c])) named := by
  cases hchars : s.toList with
  | nil => exact absurd (String.toList_eq_nil_iff.mp hchars) hs
  | cons c rest =>
    intro h
    cases h with
    | cons hpair _ => simp [IsPair, items?] at hpair

theorem readsAs_iff {v : Value} {arguments : Fields} :
    ReadsAs v arguments ↔ ∃ pairs, argumentPairs v = .ok pairs ∧ namedArguments pairs = .ok arguments := by
  by_cases hempty : v.isEmptyLike = true
  · unfold argumentPairs
    rw [if_pos hempty]
    constructor
    · intro h
      cases h with
      | empty => exact ⟨[], rfl, rfl⟩
      | object hne | pairs hne => exact absurd (List.isEmpty_iff.mp hempty) hne
    · rintro ⟨_, hpairs, harguments⟩
      obtain rfl := Except.ok.inj hpairs
      obtain rfl := Except.ok.inj harguments
      exact .empty hempty
  · unfold argumentPairs
    rw [if_neg hempty]
    cases v with
    | null => exact absurd rfl hempty
    | bool b | int n | real x =>
      simp only [items?, reduceCtorEq, false_and, exists_false, iff_false]
      rintro ⟨h⟩
      exact hempty h
    | text s =>
      refine iff_of_false (fun h => ?_) fun hread => ?_
      · cases h with
        | empty hs => exact hempty hs
      · obtain ⟨named, hpairs, -⟩ := merged_eq_ok_iff.mp hread
        exact not_arePairs_text (by simpa [isEmptyLike] using hempty) named hpairs
    | list items =>
      have hne : items ≠ [] := by simpa [isEmptyLike] using hempty
      refine Iff.trans ⟨fun h => ?_, ?_⟩ merged_eq_ok_iff.symm
      · cases h with
        | empty hitems => exact absurd hitems hempty
        | pairs _ hpairs => exact ⟨_, hpairs, rfl⟩
      · rintro ⟨named, hpairs, rfl⟩
        exact .pairs hne hpairs
    | object fields =>
      have hne : fields ≠ [] := by simpa [isEmptyLike] using hempty
      constructor
      · intro h
        cases h with
        | empty hfields => exact absurd hfields hempty
        | object => exact ⟨fields.map asText, rfl, namedArguments_asText fields⟩
      · rintro ⟨_, hpairs, harguments⟩
        obtain rfl := Except.ok.inj hpairs
        obtain rfl := Except.ok.inj ((namedArguments_asText fields).symm.trans harguments)
        exact .object hne

/-! ### Calls -/

def callName (call : Fields) : String := ((call.get? "name").map display).getD ""

def callArguments (call : Fields) : Value := (call.get? "args").getD .null

/-- The id of a call, or its name where it has none. -/
def callId (call : Fields) : String :=
  let id := (call.get? "id").getD .null
  if id.isEmptyLike then callName call else id.display

/-- A call can be read whatever its name and id are, if only its arguments can. -/
theorem requestOf_eq_ok_iff {call : Fields} {r : Request} : requestOf (.object call) = .ok r ↔
    ∃ arguments, ReadsAs (callArguments call) arguments ∧ r = ⟨⟨callName call, arguments⟩, callId call⟩ := by
  simp only [readsAs_iff]
  unfold requestOf
  dsimp only
  rw [← callArguments]
  cases argumentPairs (callArguments call) with
  | error f => simp
  | ok pairs =>
    dsimp only
    cases hnamed : namedArguments pairs with
    | error rejection => simp [hnamed]
    | ok arguments =>
      simp only [Except.ok.injEq, exists_eq_left', hnamed]
      exact eq_comm

end Conversation

end CodeAtlas
