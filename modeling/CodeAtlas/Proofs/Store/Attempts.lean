import CodeAtlas.Proofs.Store.Agreement
import CodeAtlas.Proofs.Store.Failures
import Mathlib

/-! What is tried with a database that has been prepared. Whatever is tried, the table stays where it is and can be
    written to; a record that lacks a text is refused and leaves no trace, and preparing the database again changes no
    row. -/

namespace CodeAtlas

open Store

/-- What may be tried with a store. Nothing is promised of it: a record may lack texts or its id, a clock may show any
    time, and a limit may be too large. -/
inductive Attempt where
  | upsert (clock : Clock) (r : Record)
  | find (term : Option String) (limit : Int)
  | get (id : Option String)
  | prepare

/-- The first column that the record lacks the text of. -/
def Record.lacking? (r : Record) : Option Column :=
  if r.content.isNone then some .content
  else if r.description.isNone then some .description
  else if r.keywords.isNone then some .keywords
  else none

theorem Record.exists_lacking {r : Record} (h : r.content = none ∨ r.description = none ∨ r.keywords = none) :
    ∃ column, r.lacking? = some column := by
  unfold lacking?
  split
  · exact ⟨.content, rfl⟩
  · split
    · exact ⟨.description, rfl⟩
    · rename_i hcontent hdescription
      rcases h with h | h | h
      · simp [h] at hcontent
      · simp [h] at hdescription
      · exact ⟨.keywords, by rw [h]; rfl⟩

namespace Workspace

/-- Tries something, and tells whether it was done. -/
def attempt (w : Workspace) : Attempt → Except Failure Unit × Workspace
  | .upsert clock r =>
    let (answer, w) := upsert { w with clock } r
    (answer.map fun _ => (), w)
  | .find term limit =>
    let (answer, w) := w.find term limit
    (answer.map fun _ => (), w)
  | .get id =>
    let (answer, w) := w.get? id
    (answer.map fun _ => (), w)
  | .prepare => w.prepareStore

/-- Tries one thing after the other, whatever becomes of them. -/
def attemptAll (w : Workspace) (as : List Attempt) : Workspace := as.foldl (fun w a => (w.attempt a).2) w

/-- Nothing that can be noticed has changed: the same rows are there, every look-up is answered alike, times included,
    and so is every write, at whatever time it is made. -/
structure Unchanged (path : Path) (w v : Workspace) : Prop where
  rows : ∀ table, v.Finds path table ↔ w.Finds path table
  get : ∀ id, (v.get? id).1 = (w.get? id).1
  find : ∀ term limit, (v.find term limit).1 = (w.find term limit).1
  upsert : ∀ (clock clock' : Clock) (r : Record),
    (upsert { v with clock } r).1 = (upsert { w with clock := clock' } r).1

end Workspace

/-! ### Tables -/

namespace Store.Table
variable {table : Table} {r : Record}

/-- A record that lacks a text is refused, whether its id is in the table or not, and every other one is taken. When
    this happens has no bearing on it. -/
theorem upsert_answer (now : Timestamp) : (table.upsert now r).map Prod.fst =
    r.lacking?.elim (.ok (!table.holds r.id)) fun column => .error (.absent column) := by
  obtain ⟨id, content, description, keywords, created, updated⟩ := r
  unfold upsert write
  -- The row is updated or inserted, but the texts are looked at in the same order.
  cases hid : table.holds id with
  | true =>
    simp only [update, hid, if_true]
    rcases content with _ | content <;> rcases description with _ | description <;>
      rcases keywords with _ | keywords <;> rfl
  | false =>
    simp only [insert, Bool.false_eq_true, if_false]
    rcases content with _ | content <;> rcases description with _ | description <;>
      rcases keywords with _ | keywords <;> simp [Record.lacking?, Draft.complete, hid, Except.map]

theorem upsert_of_lacking {column : Column} (now : Timestamp) (h : r.lacking? = some column) :
    table.upsert now r = .error (.absent column) := by
  have hanswer := @upsert_answer table r now
  rw [h, Option.elim_some] at hanswer
  cases hupsert : table.upsert now r with
  | ok written =>
    rw [hupsert] at hanswer
    cases hanswer
  | error v =>
    rw [hupsert] at hanswer
    exact congrArg Except.error (Except.error.inj hanswer)

end Store.Table

namespace Workspace
variable {w v : Workspace} {path : Path} {place : Place} {table : Table}

namespace Keeps

/-- Whether a record is taken, and whether its id is new, the table tells. -/
theorem upsert_answer (h : Keeps w path place table) (r : Record) : (w.upsert r).1 =
    ((table.upsert w.clock.now r).map Prod.fst).mapError fun v => .store (.writing r.id (.violation v)) := by
  cases hupsert : table.upsert w.clock.now r with
  | error v =>
    rw [h.upsert_of_error hupsert]
    rfl
  | ok written =>
    rw [h.upsert_eq hupsert]
    rfl

/-- Where the same table is kept nothing has changed. -/
theorem unchanged (hw : Keeps w path place table) (hv : Keeps v path place table) : Unchanged path w v where
  rows found := by rw [hw.finds_iff, hv.finds_iff]
  get id := by rw [hw.get?_eq, hv.get?_eq]
  find term limit := by rw [hw.find_eq, hv.find_eq]
  upsert clock clock' r := by
    rw [(hw.withClock clock').upsert_answer, (hv.withClock clock).upsert_answer, Table.upsert_answer,
      Table.upsert_answer]

theorem prepareStore_keeps (h : Keeps w path place table) :
    w.prepareStore.1 = .ok () ∧ Keeps w.prepareStore.2 path place table := by
  rw [h.prepareStore_eq]
  exact ⟨rfl, h.write table⟩

/-- Whatever is tried, a table is kept at the same place. -/
theorem attempt (h : Keeps w path place table) (a : Attempt) : ∃ left, Keeps (w.attempt a).2 path place left := by
  cases a with
  | upsert clock r =>
    have hclock := h.withClock clock
    change ∃ left, Keeps (Workspace.upsert { w with clock } r).2 path place left
    cases hupsert : table.upsert clock.now r with
    | error v =>
      rw [hclock.upsert_of_error hupsert]
      exact ⟨table, h.withClock clock.tick⟩
    | ok written =>
      rw [hclock.upsert_eq hupsert]
      exact ⟨written.2, (h.withClock clock.tick).write written.2⟩
  | find term limit =>
    change ∃ left, Keeps (w.find term limit).2 path place left
    rw [h.find_eq]
    exact ⟨table, h⟩
  | get id =>
    change ∃ left, Keeps (w.get? id).2 path place left
    rw [h.get?_eq]
    exact ⟨table, h⟩
  | prepare => exact ⟨table, h.prepareStore_keeps.2⟩

theorem attemptAll (h : Keeps w path place table) (as : List Attempt) :
    ∃ left, Keeps (w.attemptAll as) path place left := by
  induction as generalizing w table with
  | nil => exact ⟨table, h⟩
  | cons a as ih =>
    obtain ⟨left, hleft⟩ := h.attempt a
    exact ih hleft

/-- A record that lacks a text is refused, and nothing but the clock has changed. -/
theorem upsert_of_lacking {r : Record} {column : Column} (h : Keeps w path place table)
    (hr : r.lacking? = some column) :
    w.upsert r = (.error (.store (.writing r.id (.violation (.absent column)))), { w with clock := w.clock.tick }) :=
  h.upsert_of_error (Table.upsert_of_lacking w.clock.now hr)

theorem exists_upsert_of_whole {r : Record} (h : Keeps w path place table) (hr : r.IsWhole) :
    ∃ isNew, (w.upsert r).1 = .ok isNew := by
  obtain ⟨written, hupsert, -⟩ := table.exists_upsert_of_whole w.clock.now hr
  exact ⟨_, congrArg Prod.fst (h.upsert_eq hupsert)⟩

end Keeps

end Workspace

end CodeAtlas
