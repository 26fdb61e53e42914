import CodeAtlas.Proofs.Store.Memory
import CodeAtlas.Proofs.Time.Written
import CodeAtlas.Store.Table

/-! What a store says, which is the texts of its records in their order. A store in memory and a table answer from
    their texts and write them in the same way; they differ in the times of their records. -/

namespace CodeAtlas

def Store.Row.texts (row : Row) : Texts := ⟨row.id, some row.content, some row.description, some row.keywords⟩

/-- Nothing but the times of a record counts as absent. -/
structure Record.IsWhole (r : Record) : Prop extends r.Searchable where
  id : r.id.isSome = true
  content : r.content.isSome = true

namespace Texts

open Store

/-- There is something with the id. -/
def known (l : List Texts) (id : Option String) : Bool := l.any fun x => x.id == id

/-- Puts texts in the place of those with the same id, or at the end. -/
def put (l : List Texts) (x : Texts) : List Texts :=
  if known l x.id then l.map fun old => if old.id == x.id then x else old else l ++ [x]

theorem put_of_known {l : List Texts} {x : Texts} (h : known l x.id = true) :
    put l x = l.map fun old => if old.id == x.id then x else old := by
  rw [put, if_pos h]

theorem put_of_not_known {l : List Texts} {x : Texts} (h : known l x.id = false) : put l x = l ++ [x] := by
  rw [put, h]
  rfl

theorem known_put_self (l : List Texts) (x : Texts) : known (put l x) x.id = true := by
  unfold put
  split
  · rename_i h
    obtain ⟨old, hold, hid⟩ := List.any_eq_true.mp h
    exact List.any_eq_true.mpr ⟨x, List.mem_map.mpr ⟨old, hold, by rw [if_pos hid]⟩, beq_self_eq_true x.id⟩
  · simp [known]

theorem known_put_of_known {l : List Texts} {id : Option String} (h : known l id = true) (x : Texts) :
    known (put l x) id = true := by
  by_cases hid : x.id = id
  · rw [← hid]
    exact known_put_self l x
  · obtain ⟨old, hold, hknown⟩ := List.any_eq_true.mp h
    have hold_id : old.id = id := beq_iff_eq.mp hknown
    unfold put
    split
    · refine List.any_eq_true.mpr ⟨old, List.mem_map.mpr ⟨old, hold, ?_⟩, hknown⟩
      rw [if_neg]
      simpa [hold_id] using Ne.symm hid
    · exact List.any_eq_true.mpr ⟨old, List.mem_append_left [x] hold, hknown⟩

theorem map_of_not_known {l : List Texts} {x : Texts} (h : known l x.id = false) (y : Texts) :
    l.map (fun old => if old.id == x.id then y else old) = l := by
  have hnone : ∀ old ∈ l, ¬old.id = x.id := by simpa [known] using h
  exact (List.map_congr_left fun old hm => by simp [hnone old hm]).trans (List.map_id l)

/-- Texts take the place of what has the same id, as if it had not been written. -/
theorem put_put {l : List Texts} {x y : Texts} (h : y.id = x.id) : put (put l x) y = put l y := by
  have hlast : known (put l x) y.id = true := h ▸ known_put_self l x
  rw [put_of_known hlast]
  cases hknown : known l x.id with
  | true =>
    rw [put_of_known hknown, put_of_known (h ▸ hknown), List.map_map]
    refine List.map_congr_left fun old _ => ?_
    by_cases hold : old.id = x.id <;> simp [hold, h]
  | false =>
    rw [put_of_not_known hknown, put_of_not_known (h ▸ hknown), List.map_append, map_of_not_known (h ▸ hknown)]
    simp [h]

/-- Texts with different ids can be put in either order, unless both are new. -/
theorem put_comm {l : List Texts} {x y : Texts} (h : y.id ≠ x.id) (hy : known l y.id = true) :
    put (put l x) y = put (put l y) x := by
  rw [put_of_known (known_put_of_known hy x), put_of_known hy]
  cases hx : known l x.id with
  | true =>
    have hx' : known (l.map fun old => if old.id == y.id then y else old) x.id = true :=
      put_of_known hy ▸ known_put_of_known hx y
    rw [put_of_known hx, put_of_known hx', List.map_map, List.map_map]
    refine List.map_congr_left fun old _ => ?_
    by_cases hold : old.id = x.id
    · simp [hold, Ne.symm h]
    · by_cases hold' : old.id = y.id <;> simp [hold, hold', h]
  | false =>
    have hx' : known (l.map fun old => if old.id == y.id then y else old) x.id = false := by
      simp only [known, List.any_map, List.any_eq_false, Function.comp_apply, beq_iff_eq] at hx ⊢
      intro old hold
      by_cases hid : old.id = y.id
      · simp [hid, h]
      · simpa [hid] using hx old hold
    rw [put_of_not_known hx, put_of_not_known hx', List.map_append, List.map_singleton,
      if_neg (by simpa using Ne.symm h)]

theorem known_foldl_put {l : List Texts} {id : Option String} (h : known l id = true) (xs : List Texts) :
    known (xs.foldl put l) id = true := by
  induction xs generalizing l with
  | nil => exact h
  | cons x xs ih => exact ih (known_put_of_known h x)

theorem known_foldl_put_of_mem {l xs : List Texts} {x : Texts} (h : x ∈ xs) : known (xs.foldl put l) x.id = true := by
  induction xs generalizing l with
  | nil => cases h
  | cons y ys ih =>
    rcases List.mem_cons.mp h with rfl | h
    · exact known_foldl_put (known_put_self l x) ys
    · exact ih h

/-- Texts that are put in the end need not be put before. -/
theorem put_foldl_put_put {xs : List Texts} {x : Texts} : ∀ {l : List Texts}, (∀ y ∈ xs, known l y.id = true) →
    put (xs.foldl put (put l x)) x = put (xs.foldl put l) x := by
  induction xs with
  | nil => exact fun _ => put_put rfl
  | cons y ys ih =>
    intro l h
    obtain ⟨hy, hys⟩ := List.forall_mem_cons.mp h
    rw [List.foldl_cons, List.foldl_cons]
    by_cases hid : y.id = x.id
    · rw [put_put hid]
    · rw [put_comm hid hy]
      exact ih fun z hz => known_put_of_known (hys z hz) y

/-- To put the same texts a second time changes nothing. -/
theorem foldl_put_again (l xs : List Texts) : xs.foldl put (xs.foldl put l) = xs.foldl put l := by
  induction xs using List.reverseRecOn with
  | nil => rfl
  | append_singleton xs x ih =>
    rw [List.foldl_append, List.foldl_append]
    calc put (xs.foldl put (put (xs.foldl put l) x)) x
      _ = put (xs.foldl put (xs.foldl put l)) x := put_foldl_put_put fun _ hy => known_foldl_put_of_mem hy
      _ = put (xs.foldl put l) x := by rw [ih]

/-- The first few that hold the term. -/
def find (l : List Texts) (term : String) (limit : Nat) : List Texts := (l.filter (holds term)).take limit

def get? (l : List Texts) (id : Option String) : Option Texts := l.find? fun x => x.id == id

end Texts

namespace Store.Memory
variable {m : Memory} {r : Record} {now : Timestamp}

/-- What a store in memory says. -/
def texts (m : Memory) : List Texts := m.records.map Record.texts

theorem texts_put : (m.put r).texts = Texts.put m.texts r.texts := by
  have hknown : Texts.known m.texts r.texts.id = m.records.any fun old => old.id == r.id := by
    rw [Texts.known, texts, List.any_map]
    rfl
  rw [put, Texts.put, hknown]
  split
  · rw [texts, texts, List.map_map, List.map_map]
    refine List.map_congr_left fun old _ => ?_
    by_cases h : old.id = r.id <;> simp [Record.texts, h]
  · rw [texts, texts, List.map_append]
    rfl

theorem texts_stamped : (m.stamped now r).texts = r.texts := by
  simp only [Record.texts, stamped_id, stamped_content, stamped_description, stamped_keywords]

theorem texts_upsert : (m.upsert now r).2.texts = Texts.put m.texts r.texts := by
  rw [upsert_eq, texts_put, texts_stamped]

theorem known_texts_iff {id : Option String} : Texts.known m.texts id = true ↔ id ∈ m.ids := by
  rw [Texts.known, texts, List.any_map]
  exact any_id_iff

theorem upsert_isNew : (m.upsert now r).1 = !Texts.known m.texts r.id := by
  rw [upsert_eq, Bool.eq_iff_iff, decide_eq_true_eq, ← known_texts_iff, Bool.not_eq_true, Bool.not_eq_true']

theorem texts_get? (id : Option String) : (m.get? id).map Record.texts = Texts.get? m.texts id := by
  rw [get?, Texts.get?, texts, List.find?_map]
  rfl

theorem texts_find {term : String} {limit : Nat} (h : ∀ r ∈ m.records, r.Searchable) :
    (m.find (some term) limit).map (List.map Record.texts) = .ok (Texts.find m.texts term limit) := by
  rw [find_eq h, Texts.find, texts, List.filter_map, ← List.map_take]
  rfl

theorem texts_ofList (rs : List Record) : (ofList rs).texts = (rs.map Record.texts).foldl Texts.put [] := by
  have hput : ∀ (rs : List Record) (m : Memory),
      (rs.foldl put m).texts = (rs.map Record.texts).foldl Texts.put m.texts := fun rs => by
    induction rs with
    | nil => exact fun m => rfl
    | cons r rs ih =>
      intro m
      rw [List.foldl_cons, ih, texts_put, List.map_cons, List.foldl_cons]
  exact hput rs {}

end Store.Memory

/-! ### Tables -/

namespace Store

/-- The times of a row can be read. -/
structure Row.IsTimed (row : Row) : Prop where
  created : ∃ t, Timestamp.ofText row.created = .ok t
  updated : ∃ t, Timestamp.ofText row.updated = .ok t

namespace Table
variable {table : Table} {r : Record} {now : Timestamp}

/-- What a table says. -/
def texts (table : Table) : List Texts := table.rows.map Row.texts

theorem record_of_timed {row : Row} (h : row.IsTimed) : ∃ r, record row = .ok r ∧ r.texts = row.texts := by
  obtain ⟨created, hcreated⟩ := h.created
  obtain ⟨updated, hupdated⟩ := h.updated
  rw [record, hcreated, hupdated]
  exact ⟨_, rfl, rfl⟩

theorem records_of_timed : ∀ {rows : List Row}, (∀ row ∈ rows, row.IsTimed) →
    ∃ rs, records rows = .ok rs ∧ rs.map Record.texts = rows.map Row.texts
  | [], _ => ⟨[], rfl, rfl⟩
  | row :: rows, h => by
    obtain ⟨r, hr, htexts⟩ := record_of_timed (h row List.mem_cons_self)
    obtain ⟨rs, hrs, hmap⟩ := records_of_timed fun x hx => h x (List.mem_cons_of_mem row hx)
    refine ⟨r :: rs, ?_, ?_⟩
    · rw [records, hr, hrs]
    · rw [List.map_cons, List.map_cons, htexts, hmap]

theorem texts_matching {term : String} {limit : Nat} :
    (table.matching (some term) limit).map Row.texts = Texts.find table.texts term limit := by
  have hn : ¬(limit : Int) < 0 := by omega
  rw [matching, if_neg hn, Int.toNat_natCast, Texts.find, texts, List.filter_map, ← List.map_take]
  rfl

theorem mem_of_mem_matching {row : Row} {term : Option String} {limit : Int}
    (h : row ∈ table.matching term limit) : row ∈ table.rows := by
  unfold matching at h
  dsimp only at h
  split at h
  · exact (List.mem_filter.mp h).1
  · exact (List.mem_filter.mp (List.mem_of_mem_take h)).1

theorem mem_of_row? {row : Row} {id : Option String} (h : table.row? id = some row) : row ∈ table.rows := by
  cases id with
  | none => cases h
  | some id => exact List.mem_of_find?_eq_some h

theorem texts_row? (id : String) : (table.row? (some id)).map Row.texts = Texts.get? table.texts (some id) := by
  rw [row?, Texts.get?, texts, List.find?_map]
  rfl

theorem holds_eq (id : String) : table.holds (some id) = Texts.known table.texts (some id) := by
  rw [holds, Texts.known, texts, List.any_map]
  rfl

variable {id content description keywords : String} {created updated : Timestamp}

theorem upsert_of_holds (h : table.holds (some id) = true) :
    table.upsert now ⟨some id, some content, some description, some keywords, created, updated⟩ =
      .ok (false, ⟨table.rows.map fun row =>
        if row.id == some id then { row with content, description, keywords, updated := now.text } else row⟩) := by
  simp only [upsert, write, update, h, if_true, Except.map, Bool.not_true]

theorem upsert_of_not_holds (h : table.holds (some id) = false) :
    table.upsert now ⟨some id, some content, some description, some keywords, created, updated⟩ =
      .ok (true, ⟨table.rows ++ [⟨some id, content, description, keywords, now.text, now.text⟩]⟩) := by
  simp only [upsert, write, insert, Draft.complete, h, Bool.false_eq_true, if_false, Except.map, Bool.not_false]

/-- A record that lacks no text is taken as it is, and no other time gets into the table than that of the write. -/
theorem exists_upsert_of_whole (table : Table) (now : Timestamp) (hr : r.IsWhole) :
    ∃ written, table.upsert now r = .ok (!Texts.known table.texts r.id, written) ∧
      written.texts = Texts.put table.texts r.texts ∧ ∀ row ∈ written.rows,
        row.created ∈ now.text :: table.rows.map Row.created ∧ row.updated ∈ now.text :: table.rows.map Row.updated := by
  obtain ⟨id, content, description, keywords, created, updated⟩ := r
  obtain ⟨id, rfl⟩ := Option.isSome_iff_exists.mp hr.id
  obtain ⟨content, rfl⟩ := Option.isSome_iff_exists.mp hr.content
  obtain ⟨description, rfl⟩ := Option.isSome_iff_exists.mp hr.description
  obtain ⟨keywords, rfl⟩ := Option.isSome_iff_exists.mp hr.keywords
  have hold : ∀ old ∈ table.rows,
      old.created ∈ now.text :: table.rows.map Row.created ∧ old.updated ∈ now.text :: table.rows.map Row.updated :=
    fun old hold => ⟨List.mem_cons_of_mem _ (List.mem_map_of_mem hold), List.mem_cons_of_mem _ (List.mem_map_of_mem hold)⟩
  cases hknown : Texts.known table.texts (some id) with
  | true =>
    refine ⟨_, upsert_of_holds ((holds_eq id).trans hknown), ?_, fun row hrow => ?_⟩
    · rw [Texts.put_of_known hknown, texts, texts, List.map_map, List.map_map]
      refine List.map_congr_left fun row _ => ?_
      by_cases hid : row.id = some id <;> simp [Row.texts, Record.texts, hid]
    · obtain ⟨old, hmem, rfl⟩ := List.mem_map.mp hrow
      split
      · exact ⟨(hold old hmem).1, List.mem_cons_self⟩
      · exact hold old hmem
  | false =>
    refine ⟨_, upsert_of_not_holds ((holds_eq id).trans hknown), ?_, fun row hrow => ?_⟩
    · rw [Texts.put_of_not_known hknown, texts, texts, List.map_append]
      rfl
    · rcases List.mem_append.mp hrow with hrow | hrow
      · exact hold row hrow
      · obtain rfl := List.mem_singleton.mp hrow
        exact ⟨List.mem_cons_self, List.mem_cons_self⟩

/-- Where all times of a table can be read, they still can after a write in universal time. -/
theorem upsert_of_whole (hr : r.IsWhole) (hnow : now.IsUtc) (htimed : ∀ row ∈ table.rows, row.IsTimed) :
    ∃ written, table.upsert now r = .ok (!Texts.known table.texts r.id, written) ∧
      written.texts = Texts.put table.texts r.texts ∧ ∀ row ∈ written.rows, row.IsTimed := by
  obtain ⟨written, hupsert, htexts, htimes⟩ := table.exists_upsert_of_whole now hr
  have hread : ∃ t, Timestamp.ofText now.text = .ok t := ⟨now, Timestamp.ofText_text hnow⟩
  refine ⟨written, hupsert, htexts, fun row hrow => ⟨?_, ?_⟩⟩
  · rcases List.mem_cons.mp (htimes row hrow).1 with h | h
    · exact h ▸ hread
    · obtain ⟨old, hold, h⟩ := List.mem_map.mp h
      exact h ▸ (htimed old hold).created
  · rcases List.mem_cons.mp (htimes row hrow).2 with h | h
    · exact h ▸ hread
    · obtain ⟨old, hold, h⟩ := List.mem_map.mp h
      exact h ▸ (htimed old hold).updated

end Table

end Store

end CodeAtlas
