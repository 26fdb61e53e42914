import CodeAtlas.Proofs.Text.Lower
import CodeAtlas.Store.Memory
import Mathlib.Data.List.Induction
import Mathlib.Data.List.Nodup

/-! The store in memory over a history of writes. Its ids are those of the history, each at the place where it
    came first, and no two records have the same id. What a look-up finds follows from the texts of the records. -/

namespace CodeAtlas

/-! ### Lists without their repetitions -/

section Distinct

variable {α : Type} [BEq α] [LawfulBEq α]

/-- Each item stays at the place where it comes first. -/
theorem eraseDups_concat (l : List α) (a : α) :
    (l ++ [a]).eraseDups = if a ∈ l then l.eraseDups else l.eraseDups ++ [a] := by
  rw [List.eraseDups_append]
  by_cases h : a ∈ l <;> simp [List.removeAll, h, List.eraseDups_cons]

theorem nodup_eraseDups (l : List α) : l.eraseDups.Nodup := by
  induction l using List.reverseRecOn with
  | nil => exact List.nodup_nil
  | append_singleton l a ih =>
    rw [eraseDups_concat]
    split
    · exact ih
    · rename_i h
      refine List.nodup_append.mpr ⟨ih, List.nodup_singleton a, fun b hb c hc hbc => h ?_⟩
      rw [← List.mem_singleton.mp hc, ← hbc]
      exact List.mem_eraseDups.mp hb

end Distinct

/-! ### Texts of records -/

/-- What a record says, without the times of its making and its change. -/
structure Texts where
  id : Option String
  content : Option String
  description : Option String
  keywords : Option String
deriving DecidableEq, Repr

/-- The term occurs in the keywords or the description. -/
def Texts.holds (term : String) (x : Texts) : Bool :=
  Store.containsTerm (x.keywords.getD "") term || Store.containsTerm (x.description.getD "") term

def Record.texts (r : Record) : Texts := ⟨r.id, r.content, r.description, r.keywords⟩

/-- Keywords and description are there to be looked at. -/
structure Record.Searchable (r : Record) : Prop where
  keywords : r.keywords.isSome = true
  description : r.description.isSome = true

namespace Store.Memory
variable {m : Memory} {r : Record} {now : Timestamp}

def ids (m : Memory) : List (Option String) := m.records.map Record.id

/-! ### Putting a record -/

theorem any_id_iff {id : Option String} : (m.records.any fun old => old.id == id) = true ↔ id ∈ m.ids := by
  simp only [List.any_eq_true, beq_iff_eq, ids, List.mem_map]

theorem put_of_mem (h : r.id ∈ m.ids) : m.put r = ⟨m.records.map fun old => if old.id == r.id then r else old⟩ := by
  rw [put, if_pos (any_id_iff.mpr h)]

theorem put_of_not_mem (h : r.id ∉ m.ids) : m.put r = ⟨m.records ++ [r]⟩ := by
  rw [put, if_neg fun ha => h (any_id_iff.mp ha)]

theorem ids_put_of_mem (h : r.id ∈ m.ids) : (m.put r).ids = m.ids := by
  rw [put_of_mem h, ids, ids, List.map_map]
  refine List.map_congr_left fun old _ => ?_
  by_cases hid : old.id = r.id <;> simp [hid]

theorem ids_put_of_not_mem (h : r.id ∉ m.ids) : (m.put r).ids = m.ids ++ [r.id] := by
  rw [put_of_not_mem h, ids, List.map_append]
  rfl

theorem mem_records_put {x : Record} (h : x ∈ (m.put r).records) : x = r ∨ x ∈ m.records := by
  by_cases hm : r.id ∈ m.ids
  · rw [put_of_mem hm] at h
    obtain ⟨old, hold, rfl⟩ := List.mem_map.mp h
    split
    · exact Or.inl rfl
    · exact Or.inr hold
  · rw [put_of_not_mem hm] at h
    rcases List.mem_append.mp h with h | h
    · exact Or.inr h
    · exact Or.inl (List.mem_singleton.mp h)

theorem get?_eq_none_iff {id : Option String} : m.get? id = none ↔ id ∉ m.ids := by
  simp only [get?, List.find?_eq_none, beq_iff_eq, ids, List.mem_map, not_exists, not_and]

/-! ### Upserting a record -/

/-- The record as it is kept: a known one keeps the time of its creation. -/
def stamped (m : Memory) (now : Timestamp) (r : Record) : Record :=
  match m.get? r.id with
  | none => r
  | some old => { r with created := old.created, updated := now }

theorem upsert_eq : m.upsert now r = (decide (r.id ∉ m.ids), m.put (m.stamped now r)) := by
  unfold upsert stamped
  cases h : m.get? r.id with
  | none => rw [decide_eq_true (get?_eq_none_iff.mp h)]
  | some old =>
    have hm : ¬r.id ∉ m.ids := fun hn => by
      rw [get?_eq_none_iff.mpr hn] at h
      cases h
    rw [decide_eq_false hm]

@[simp] theorem stamped_id : (m.stamped now r).id = r.id := by unfold stamped; split <;> rfl
@[simp] theorem stamped_content : (m.stamped now r).content = r.content := by unfold stamped; split <;> rfl
@[simp] theorem stamped_description : (m.stamped now r).description = r.description := by
  unfold stamped; split <;> rfl
@[simp] theorem stamped_keywords : (m.stamped now r).keywords = r.keywords := by unfold stamped; split <;> rfl

theorem stamped_searchable (h : r.Searchable) : (m.stamped now r).Searchable :=
  ⟨by rw [stamped_keywords]; exact h.keywords, by rw [stamped_description]; exact h.description⟩

/-- The store after further records have been upserted, each at its time. -/
def upserts (m : Memory) (us : List (Timestamp × Record)) : Memory :=
  us.foldl (fun m u => (m.upsert u.1 u.2).2) m

/-! ### Histories -/

/-- A write keeps the ids in the order in which they first came. -/
theorem ids_put {l : List (Option String)} (h : m.ids = l.eraseDups) :
    (m.put r).ids = (l ++ [r.id]).eraseDups := by
  rw [eraseDups_concat, ← h]
  by_cases hm : r.id ∈ l
  · rw [if_pos hm]
    exact ids_put_of_mem (h ▸ List.mem_eraseDups.mpr hm)
  · rw [if_neg hm]
    exact ids_put_of_not_mem fun hn => hm (List.mem_eraseDups.mp (h ▸ hn))

theorem ids_foldl_put {l : List (Option String)} : ∀ {m : Memory} (rs : List Record), m.ids = l.eraseDups →
    (rs.foldl put m).ids = (l ++ rs.map Record.id).eraseDups := by
  intro m rs h
  induction rs generalizing m l with
  | nil => simpa using h
  | cons r rs ih =>
    rw [List.foldl_cons, ih (ids_put h), List.map_cons, List.append_assoc, List.singleton_append]

theorem ids_upserts {l : List (Option String)} (us : List (Timestamp × Record)) (h : m.ids = l.eraseDups) :
    (m.upserts us).ids = (l ++ us.map fun u => u.2.id).eraseDups := by
  unfold upserts
  induction us generalizing m l with
  | nil => simpa using h
  | cons u us ih =>
    have hu : (m.upsert u.1 u.2).2.ids = (l ++ [u.2.id]).eraseDups := by
      rw [upsert_eq, ids_put h, stamped_id]
    rw [List.foldl_cons, ih hu, List.map_cons, List.append_assoc, List.singleton_append]

theorem ids_ofList (rs : List Record) : (ofList rs).ids = (rs.map Record.id).eraseDups :=
  ids_foldl_put (l := []) rs rfl

/-- The ids of a store in the order of its records, which is that of their first insertion. -/
theorem ids_history (rs : List Record) (us : List (Timestamp × Record)) :
    ((ofList rs).upserts us).ids = (rs.map Record.id ++ us.map fun u => u.2.id).eraseDups :=
  ids_upserts us (ids_ofList rs)

theorem nodup_history (rs : List Record) (us : List (Timestamp × Record)) : ((ofList rs).upserts us).ids.Nodup := by
  rw [ids_history]
  exact nodup_eraseDups _

theorem forall_records_foldl_put {p : Record → Prop} (rs : List Record) (hm : ∀ x ∈ m.records, p x)
    (hrs : ∀ x ∈ rs, p x) : ∀ x ∈ (rs.foldl put m).records, p x := by
  induction rs generalizing m with
  | nil => exact hm
  | cons r rs ih =>
    rw [List.foldl_cons]
    refine ih (fun x hx => ?_) fun x hx => hrs x (List.mem_cons_of_mem r hx)
    rcases mem_records_put hx with rfl | hx
    · exact hrs x List.mem_cons_self
    · exact hm x hx

theorem searchable_upsert (hm : ∀ x ∈ m.records, x.Searchable) (hr : r.Searchable) :
    ∀ x ∈ (m.upsert now r).2.records, x.Searchable := by
  intro x hx
  rw [upsert_eq] at hx
  rcases mem_records_put hx with rfl | hx
  · exact stamped_searchable hr
  · exact hm x hx

theorem searchable_upserts (us : List (Timestamp × Record)) (hm : ∀ x ∈ m.records, x.Searchable)
    (hus : ∀ u ∈ us, u.2.Searchable) : ∀ x ∈ (m.upserts us).records, x.Searchable := by
  unfold upserts
  induction us generalizing m with
  | nil => exact hm
  | cons u us ih =>
    rw [List.foldl_cons]
    exact ih (searchable_upsert hm (hus u List.mem_cons_self)) fun v hv => hus v (List.mem_cons_of_mem u hv)

theorem searchable_history {rs : List Record} {us : List (Timestamp × Record)} (hrs : ∀ r ∈ rs, r.Searchable)
    (hus : ∀ u ∈ us, u.2.Searchable) : ∀ x ∈ ((ofList rs).upserts us).records, x.Searchable :=
  searchable_upserts us (forall_records_foldl_put rs (fun _ hx => by cases hx) hrs) hus

/-! ### Looking up a term -/

theorem matchesTerm_eq {term : String} (h : r.Searchable) : matchesTerm term r = .ok (r.texts.holds term) := by
  obtain ⟨keywords, hk⟩ := Option.isSome_iff_exists.mp h.keywords
  obtain ⟨description, hd⟩ := Option.isSome_iff_exists.mp h.description
  unfold matchesTerm Texts.holds Record.texts
  rw [hk, hd]
  cases hc : containsTerm keywords term <;> simp [hc]

theorem matching_eq {term : String} : ∀ {rs : List Record}, (∀ r ∈ rs, r.Searchable) →
    matching term rs = .ok (rs.filter fun r => r.texts.holds term)
  | [], _ => rfl
  | r :: rs, h => by
    rw [matching, matchesTerm_eq (h r List.mem_cons_self),
      matching_eq fun x hx => h x (List.mem_cons_of_mem r hx), List.filter_cons]

/-- With all texts present, a look-up gives the first records that hold the term. -/
theorem find_eq {term : String} {limit : Nat} (h : ∀ r ∈ m.records, r.Searchable) :
    m.find (some term) limit = .ok ((m.records.filter fun r => r.texts.holds term).take limit) := by
  have hn : ¬(limit : Int) < 0 := by omega
  rw [find, matching_eq h, Except.map, Text.takeUpTo, if_neg hn, Int.toNat_natCast]

end Store.Memory

end CodeAtlas
