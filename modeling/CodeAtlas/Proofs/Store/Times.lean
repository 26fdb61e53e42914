import CodeAtlas.Proofs.Store.Agreement
import CodeAtlas.Proofs.Time.Dates
import Mathlib

/-! The times of records over whole histories of writes. A database takes both from the clock; a store in memory
    takes the clock only where it writes a record again. Neither lets a record be made a second time. -/

namespace CodeAtlas

/-- When a record was made and when it was changed. -/
structure Times where
  created : Timestamp
  updated : Timestamp
deriving DecidableEq, Repr

/-- The times as they are written. -/
def Times.written (times : Times) : String × String := (times.created.text, times.updated.text)

def Record.times (r : Record) : Times := ⟨r.created, r.updated⟩

/-- A record that lacks no text is written at a time of its own. -/
structure Write where
  now : Timestamp
  record : Record
  isUtc : now.IsUtc
  isWhole : record.IsWhole

namespace Write

def request (u : Write) : Request := .upsert { start := u.now } u.record u.isUtc u.isWhole

/-- What of a history is about one id. -/
def about (us : List Write) (id : String) : List Write := us.filter fun u => u.record.id == some id

/-- By the clock a record is made with its first write and changed with its last. -/
def timesByClock : List Write → Option Times
  | [] => none
  | u :: us => some ⟨u.now, (us.getLastD u).now⟩

/-- By its own account a record is made when its first version says so. The clock says when it was changed, once
    it has been written again. -/
def timesByRecord : List Write → Option Times
  | [] => none
  | u :: us => some ⟨u.record.created, (us.getLast?.map Write.now).getD u.record.updated⟩

variable {us : List Write} {u : Write} {id : String}

theorem about_concat_self (hid : u.record.id = some id) : about (us ++ [u]) id = about us id ++ [u] := by
  rw [about, List.filter_append, List.filter_singleton, hid, beq_self_eq_true]
  rfl

theorem about_concat_of_ne (hid : u.record.id ≠ some id) : about (us ++ [u]) id = about us id := by
  rw [about, List.filter_append, List.filter_singleton, beq_false_of_ne hid]
  exact List.append_nil _

/-- The times of a record that is written once more at a time, where `first` are those it would have as a new one. -/
def changed (first : Times) (now : Timestamp) : Option Times → Times
  | none => first
  | some known => { known with updated := now }

theorem about_append (us later : List Write) (id : String) : about (us ++ later) id = about us id ++ about later id :=
  List.filter_append ..

theorem timesByClock_concat :
    timesByClock (us ++ [u]) = some (changed ⟨u.now, u.now⟩ u.now (timesByClock us)) := by
  cases us with
  | nil => rfl
  | cons first us => simp [timesByClock, changed, List.getLastD_eq_getLast?]

theorem timesByRecord_concat :
    timesByRecord (us ++ [u]) = some (changed u.record.times u.now (timesByRecord us)) := by
  cases us with
  | nil => rfl
  | cons first us => simp [timesByRecord, changed]

/-- Further writes leave a record made when it was. -/
theorem created_append {timesBy : List Write → Option Times} (hby : timesBy = timesByClock ∨ timesBy = timesByRecord)
    {times : Times} (h : timesBy us = some times) (later : List Write) :
    ∃ times', timesBy (us ++ later) = some times' ∧ times'.created = times.created := by
  cases us with
  | nil => rcases hby with rfl | rfl <;> cases h
  | cons first us => rcases hby with rfl | rfl <;> cases h <;> exact ⟨_, rfl, rfl⟩

/-- What the clock says about a record are times of the clock. -/
theorem isUtc_of_timesByClock {times : Times} (h : timesByClock us = some times) :
    times.created.IsUtc ∧ times.updated.IsUtc := by
  cases us with
  | nil => cases h
  | cons first us =>
    obtain rfl := Option.some.inj h
    exact ⟨first.isUtc, (us.getLastD first).isUtc⟩

end Write

namespace Store

/-- What has an id is found under it after a change that leaves all ids as they are. -/
theorem find?_map_of_kept {α : Type} {key : α → Option String} {g : α → α} (hg : ∀ x, key (g x) = key x) (l : List α)
    (id : Option String) : (l.map g).find? (fun x => key x == id) = (l.find? fun x => key x == id).map g := by
  have hcomp : ((fun x => key x == id) ∘ g) = fun x => key x == id := funext fun x => by rw [Function.comp_apply, hg]
  rw [List.find?_map, hcomp]

/-! ### In memory -/

namespace Memory
variable {m : Memory} {r : Record} {now : Timestamp} {id : String}

theorem get?_put_of_mem {id : Option String} (h : r.id ∈ m.ids) :
    (m.put r).get? id = (m.get? id).map fun old => if old.id == r.id then r else old := by
  have hkept : ∀ old : Record, (if old.id == r.id then r else old).id = old.id := fun old => by
    split
    · rename_i hid
      exact (beq_iff_eq.mp hid).symm
    · rfl
  rw [put_of_mem h, get?, find?_map_of_kept hkept, get?]

theorem get?_put_self : (m.put r).get? r.id = some r := by
  by_cases hm : r.id ∈ m.ids
  · obtain ⟨old, hold⟩ := Option.ne_none_iff_exists'.mp fun hnone => get?_eq_none_iff.mp hnone hm
    rw [get?_put_of_mem hm, hold, Option.map_some, if_pos (List.find?_some hold)]
  · have hnone := get?_eq_none_iff.mpr hm
    rw [get?] at hnone
    rw [put_of_not_mem hm, get?, List.find?_append, hnone, Option.none_or]
    exact List.find?_cons_of_pos (beq_self_eq_true r.id)

theorem get?_put_of_ne {id : Option String} (h : r.id ≠ id) : (m.put r).get? id = m.get? id := by
  by_cases hm : r.id ∈ m.ids
  · rw [get?_put_of_mem hm]
    cases hold : m.get? id with
    | none => rfl
    | some old =>
      have hid : old.id = id := beq_iff_eq.mp (List.find?_some (p := fun x : Record => x.id == id) hold)
      rw [Option.map_some, if_neg fun hsame => h ((beq_iff_eq.mp hsame).symm.trans hid)]
  · rw [put_of_not_mem hm, get?, List.find?_append, List.find?_cons_of_neg (by simpa using h), List.find?_nil,
      Option.or_none, get?]

theorem times_stamped : (m.stamped now r).times = Write.changed r.times now ((m.get? r.id).map Record.times) := by
  unfold stamped
  cases m.get? r.id <;> rfl

/-- The times that are found under an id. -/
def times (m : Memory) (id : String) : Option Times := (m.get? (some id)).map Record.times

theorem times_upsert_self (hid : r.id = some id) :
    (m.upsert now r).2.times id = some (Write.changed r.times now (m.times id)) := by
  have hput : (m.put (m.stamped now r)).get? (some id) = some (m.stamped now r) := by
    rw [← hid, ← @stamped_id m r now]
    exact get?_put_self
  rw [upsert_eq, times, hput, Option.map_some, times_stamped, hid, times]

theorem times_upsert_of_ne (hid : r.id ≠ some id) : (m.upsert now r).2.times id = m.times id := by
  rw [upsert_eq, times, get?_put_of_ne (by rwa [stamped_id]), times]

end Memory

/-! ### In a table -/

def Row.written (row : Row) : String × String := (row.created, row.updated)

/-- A row with other texts, changed now. -/
def Row.rewritten (content description keywords : String) (now : Timestamp) (row : Row) : Row :=
  { row with content, description, keywords, updated := now.text }

namespace Table
variable {table changed : Table} {r : Record} {now : Timestamp} {id : String} {isNew : Bool}

theorem row?_eq (rows : List Row) (id : String) :
    row? ⟨rows⟩ (some id) = rows.find? fun row => row.id == some id := rfl

theorem holds_iff : table.holds (some id) = true ↔ (table.row? (some id)).isSome = true := by
  rw [holds, row?, Option.isSome_some, Bool.true_and, List.find?_isSome, List.any_eq_true]

/-- A write goes to the row of its id, or makes a row where there is none. -/
theorem upsert_cases (hr : r.IsWhole) (hid : r.id = some id) (hupsert : table.upsert now r = .ok (isNew, changed)) :
    ∃ content description keywords,
      ((table.row? (some id)).isSome = true ∧ changed = ⟨table.rows.map fun row =>
        if row.id == some id then row.rewritten content description keywords now else row⟩) ∨
      (table.row? (some id) = none ∧
        changed = ⟨table.rows ++ [⟨some id, content, description, keywords, now.text, now.text⟩]⟩) := by
  obtain ⟨rid, content, description, keywords, created, updated⟩ := r
  obtain rfl : rid = some id := hid
  obtain ⟨content, rfl⟩ := Option.isSome_iff_exists.mp hr.content
  obtain ⟨description, rfl⟩ := Option.isSome_iff_exists.mp hr.description
  obtain ⟨keywords, rfl⟩ := Option.isSome_iff_exists.mp hr.keywords
  refine ⟨content, description, keywords, ?_⟩
  cases hholds : table.holds (some id) with
  | true =>
    rw [upsert_of_holds hholds] at hupsert
    exact Or.inl ⟨holds_iff.mp hholds, (Prod.mk.inj (Except.ok.inj hupsert)).2.symm⟩
  | false =>
    rw [upsert_of_not_holds hholds] at hupsert
    have hnone : table.row? (some id) = none := by
      rw [← Option.not_isSome_iff_eq_none, ← holds_iff, hholds]
      exact Bool.false_ne_true
    exact Or.inr ⟨hnone, (Prod.mk.inj (Except.ok.inj hupsert)).2.symm⟩

/-- The times that are written under an id. -/
def written (table : Table) (id : String) : Option (String × String) := (table.row? (some id)).map Row.written

/-- After a write to a row the others are found as before. -/
theorem row?_map (rows : List Row) (content description keywords : String) (now : Timestamp) (id other : String) :
    row? ⟨rows.map fun row => if row.id == some id then row.rewritten content description keywords now else row⟩
        (some other) =
      (row? ⟨rows⟩ (some other)).map fun row =>
        if row.id == some id then row.rewritten content description keywords now else row := by
  refine @find?_map_of_kept Row Row.id _ (fun row => ?_) rows (some other)
  split <;> rfl

theorem written_upsert_self (hr : r.IsWhole) (hid : r.id = some id)
    (hupsert : table.upsert now r = .ok (isNew, changed)) {known : Option Times}
    (hknown : table.written id = known.map Times.written) :
    changed.written id = some (Write.changed ⟨now, now⟩ now known).written := by
  obtain ⟨content, description, keywords, ⟨hsome, rfl⟩ | ⟨hnone, rfl⟩⟩ := upsert_cases hr hid hupsert
  · obtain ⟨row, hrow⟩ := Option.isSome_iff_exists.mp hsome
    rw [written, hrow, Option.map_some] at hknown
    rw [written, row?_map, hrow, Option.map_some, if_pos (List.find?_some hrow), Option.map_some]
    cases known with
    | none => cases hknown
    | some times =>
      have hcreated : row.created = times.created.text := congrArg Prod.fst (Option.some.inj hknown)
      rw [Row.written, Row.rewritten, hcreated]
      rfl
  · rw [written, hnone] at hknown
    obtain rfl : known = none := Option.map_eq_none_iff.mp hknown.symm
    rw [row?] at hnone
    rw [written, row?_eq, List.find?_append, hnone, Option.none_or, List.find?_cons_of_pos (by exact beq_self_eq_true _)]
    rfl

theorem written_upsert_of_ne (hr : r.IsWhole) (hupsert : table.upsert now r = .ok (isNew, changed))
    (hne : r.id ≠ some id) : changed.written id = table.written id := by
  obtain ⟨rid, hid⟩ := Option.isSome_iff_exists.mp hr.id
  obtain ⟨content, description, keywords, ⟨-, rfl⟩ | ⟨-, rfl⟩⟩ := upsert_cases hr hid hupsert
  · rw [written, row?_map, written]
    cases hrow : table.row? (some id) with
    | none => rfl
    | some row =>
      have hrowid : row.id = some id := beq_iff_eq.mp (List.find?_some (p := fun x : Row => x.id == some id) hrow)
      have hother : ¬(row.id == some rid) = true := fun hsame =>
        hne (hid.trans ((beq_iff_eq.mp hsame).symm.trans hrowid))
      rw [Option.map_some, if_neg hother]
  · rw [written, row?_eq, List.find?_append, List.find?_cons_of_neg (by simpa [hid] using hne), List.find?_nil,
      Option.or_none]
    rfl

/-- What has been written by the clock can be read again. -/
theorem record_of_written {row : Row} {times : Times} (hwritten : row.written = times.written)
    (hcreated : times.created.IsUtc) (hupdated : times.updated.IsUtc) : ∃ r, record row = .ok r ∧ r.times = times := by
  obtain ⟨hrow, hrow'⟩ := Prod.mk.inj hwritten
  rw [record, hrow, hrow', Timestamp.ofText_text hcreated, Timestamp.ofText_text hupdated]
  exact ⟨_, rfl, rfl⟩

end Table

end Store

/-! ### Histories -/

namespace Workspace

open Store Write

variable {w v : Workspace} {us vs : List Write} {u : Write} {path : Path}

/-- The store in memory has the times of its history. -/
def RecallsInMemory (w : Workspace) (us : List Write) : Prop :=
  ∃ m : Memory, w.store = .memory m ∧ ∀ id, m.times id = timesByRecord (about us id)

/-- The database has the times of its history. -/
def RecallsInDatabase (w : Workspace) (us : List Write) : Prop :=
  ∃ path place table, Keeps w path place table ∧
    ∀ id, table.written id = (timesByClock (about us id)).map Times.written

theorem recallsInMemory_write (h : RecallsInMemory w us) :
    (∃ isNew, (w.ask u.request).1 = .ok (.wrote isNew)) ∧ RecallsInMemory (w.ask u.request).2 (us ++ [u]) := by
  obtain ⟨m, hstore, htimes⟩ := h
  obtain ⟨hanswer, hwritten⟩ := @upsert_in_memory { w with clock := { start := u.now } } m u.record hstore
  rw [Clock.now_start u.isUtc] at hanswer hwritten
  refine ⟨⟨(m.upsert u.now u.record).1, ?_⟩, _, hwritten, fun id => ?_⟩
  · simp only [request, ask, hanswer]
    rfl
  · by_cases hid : u.record.id = some id
    · rw [Memory.times_upsert_self hid, htimes, about_concat_self hid, timesByRecord_concat]
    · rw [Memory.times_upsert_of_ne hid, htimes, about_concat_of_ne hid]

theorem recallsInDatabase_write (h : RecallsInDatabase w us) :
    (∃ isNew, (w.ask u.request).1 = .ok (.wrote isNew)) ∧ RecallsInDatabase (w.ask u.request).2 (us ++ [u]) := by
  obtain ⟨path, place, table, hkeeps, htimes⟩ := h
  obtain ⟨changed, hupsert, -⟩ := table.exists_upsert_of_whole u.now u.isWhole
  have hclock := hkeeps.withClock { start := u.now }
  have hanswer := hclock.upsert_eq (by rwa [Clock.now_start u.isUtc])
  refine ⟨⟨!Texts.known table.texts u.record.id, ?_⟩, path, place, changed, ?_, fun id => ?_⟩
  · simp only [request, ask, hanswer]
    rfl
  · simp only [request, ask, hanswer]
    exact (hkeeps.withClock (Clock.tick { start := u.now })).write changed
  · by_cases hid : u.record.id = some id
    · rw [Table.written_upsert_self u.isWhole hid hupsert (htimes id), about_concat_self hid, timesByClock_concat,
        Option.map_some]
    · rw [Table.written_upsert_of_ne u.isWhole hupsert hid, htimes, about_concat_of_ne hid]

/-- The workspace after writes. -/
def afterWrites (w : Workspace) (us : List Write) : Workspace := (w.askAll (us.map request)).2

/-- What a store recalls of every history it recalls of longer ones, whose writes all succeed. -/
theorem recalls_writes {Recalls : Workspace → List Write → Prop}
    (step : ∀ w us u, Recalls w us →
      (∃ isNew, (w.ask u.request).1 = .ok (.wrote isNew)) ∧ Recalls (w.ask u.request).2 (us ++ [u])) :
    ∀ (vs : List Write) (w : Workspace) (us : List Write), Recalls w us →
      (∀ a ∈ (w.askAll (vs.map request)).1, ∃ isNew, a = .ok (.wrote isNew)) ∧ Recalls (w.afterWrites vs) (us ++ vs)
  | [], _, us, h => ⟨fun _ ha => (by cases ha), (List.append_nil us).symm ▸ h⟩
  | v :: vs, w, us, h => by
    obtain ⟨hanswer, hrecalls⟩ := step w us v h
    obtain ⟨hanswers, hlast⟩ := recalls_writes step vs _ _ hrecalls
    refine ⟨fun a ha => ?_, ?_⟩
    · rcases List.mem_cons.mp ha with rfl | ha
      · exact hanswer
      · exact hanswers a ha
    · rw [List.append_assoc] at hlast
      exact hlast

/-- The times of the record that is found under an id. -/
def timesOf (w : Workspace) (id : String) : Except Failure (Option Times) :=
  (w.get? (some id)).1.map fun found => found.map Record.times

theorem timesOf_in_memory (h : RecallsInMemory w us) (id : String) :
    w.timesOf id = .ok (timesByRecord (about us id)) := by
  obtain ⟨m, hstore, htimes⟩ := h
  rw [← htimes id, timesOf, get?, hstore]
  rfl

theorem timesOf_in_database (h : RecallsInDatabase w us) (id : String) :
    w.timesOf id = .ok (timesByClock (about us id)) := by
  obtain ⟨path, place, table, hkeeps, htimes⟩ := h
  have hwritten := htimes id
  cases htimesBy : timesByClock (about us id) with
  | none =>
    rw [htimesBy, Table.written, Option.map_none, Option.map_eq_none_iff] at hwritten
    have hfound : Database.get? (some table) (some id) = .ok none := by
      unfold Database.get?
      dsimp only
      rw [hwritten]
    rw [timesOf, hkeeps.get?_eq, hfound]
    rfl
  | some times =>
    rw [htimesBy, Table.written, Option.map_some, Option.map_eq_some_iff] at hwritten
    obtain ⟨row, hrow, hwritten⟩ := hwritten
    obtain ⟨hcreated, hupdated⟩ := isUtc_of_timesByClock htimesBy
    obtain ⟨r, hr, rfl⟩ := Table.record_of_written hwritten hcreated hupdated
    have hfound : Database.get? (some table) (some id) = .ok (some r) := by
      unfold Database.get?
      dsimp only
      rw [hrow]
      dsimp only
      rw [hr]
      rfl
    rw [timesOf, hkeeps.get?_eq, hfound]
    rfl

theorem created_kept {x : Workspace} {id : String} {timesBy : List Write → Option Times} {times : Times}
    (hby : timesBy = timesByClock ∨ timesBy = timesByRecord)
    (hrecalls : ∀ us, (x.afterWrites us).timesOf id = .ok (timesBy (about us id)))
    (h : (x.afterWrites us).timesOf id = .ok (some times)) (later : List Write) :
    ∃ times', (x.afterWrites (us ++ later)).timesOf id = .ok (some times') ∧ times'.created = times.created := by
  rw [hrecalls] at h
  obtain ⟨times', htimes', hcreated⟩ := created_append hby (Except.ok.inj h) (about later id)
  refine ⟨times', ?_, hcreated⟩
  rw [hrecalls, about_append, htimes']

/-- Whatever has been written to a fresh database and to an empty store in memory: in the database a record was made
    at its first write and changed at its last; in memory it was made when its first version says, and changed at its
    last write, or when the first version says where it is the only one. No later write makes a record anew. -/
theorem times_after_writes {w v : Workspace} {path : Path} (hw : w.Fresh path) (hv : v.store = .memory {}) :
    (∀ (us : List Write) (id : String),
      (∀ a ∈ (w.askAll (us.map request)).1 ++ (v.askAll (us.map request)).1, ∃ isNew, a = .ok (.wrote isNew)) ∧
        (w.afterWrites us).timesOf id = .ok (timesByClock (about us id)) ∧
        (v.afterWrites us).timesOf id = .ok (timesByRecord (about us id))) ∧
      ∀ x ∈ [w, v], ∀ (us later : List Write) (id : String) (times : Times),
        (x.afterWrites us).timesOf id = .ok (some times) →
        ∃ times', (x.afterWrites (us ++ later)).timesOf id = .ok (some times') ∧ times'.created = times.created := by
  have hdatabase : RecallsInDatabase w [] := by
    obtain ⟨path, place, table, hkeeps, htexts, -⟩ := hw.saysInDatabase
    obtain rfl : table = ⟨[]⟩ := congrArg Table.mk (List.map_eq_nil_iff.mp htexts)
    exact ⟨path, place, _, hkeeps, fun id => rfl⟩
  have hmemory : RecallsInMemory v [] := ⟨{}, hv, fun id => rfl⟩
  have hin := fun us => recalls_writes (fun _ _ _ => recallsInDatabase_write) us w [] hdatabase
  have hout := fun us => recalls_writes (fun _ _ _ => recallsInMemory_write) us v [] hmemory
  have hclock := fun us id => timesOf_in_database (hin us).2 id
  have hrecord := fun us id => timesOf_in_memory (hout us).2 id
  refine ⟨fun us id => ⟨fun a ha => ?_, hclock us id, hrecord us id⟩, fun x hx us later id times htimes => ?_⟩
  · rcases List.mem_append.mp ha with ha | ha
    · exact (hin us).1 a ha
    · exact (hout us).1 a ha
  · rcases List.mem_pair.mp hx with rfl | rfl
    · exact created_kept (Or.inl rfl) (fun us => hclock us id) htimes later
    · exact created_kept (Or.inr rfl) (fun us => hrecord us id) htimes later

/-- The last minute of a leap day. -/
def lastMinute (second micro : Nat) : Timestamp := ⟨2024, 2, 29, 23, 59, second, micro, some 0⟩

/-- A card that is written twice, with another one in between. -/
def cardsAtMidnight : List Write :=
  [⟨lastMinute 58 0, card "x" "one" "", by constructor <;> decide, isWhole_card ..⟩,
    ⟨lastMinute 59 999999, card "y" "two" "", by constructor <;> decide, isWhole_card ..⟩,
    ⟨lastMinute 59 40, card "x" "three" "", by constructor <;> decide, isWhole_card ..⟩]

theorem shelf_recalls_times :
    (newShelf.afterWrites cardsAtMidnight).timesOf "x" = .ok (some ⟨lastMinute 58 0, lastMinute 59 40⟩) ∧
      (newShelf.afterWrites cardsAtMidnight).timesOf "y" =
        .ok (some ⟨lastMinute 59 999999, lastMinute 59 999999⟩) ∧
      (afterWrites {} cardsAtMidnight).timesOf "x" = .ok (some ⟨⟨2024, 1, 1, 0, 0, 0, 0, some 0⟩, lastMinute 59 40⟩) ∧
      (afterWrites {} cardsAtMidnight).timesOf "y" = .ok (some (card "y" "two" "").times) ∧
      ∃ times, (newShelf.afterWrites (cardsAtMidnight ++ cardsAtMidnight)).timesOf "x" = .ok (some times) ∧
        times.created = lastMinute 58 0 := by
  obtain ⟨hrecalls, hkept⟩ := times_after_writes (v := {}) fresh_newShelf rfl
  have hx := hrecalls cardsAtMidnight "x"
  have hy := hrecalls cardsAtMidnight "y"
  exact ⟨hx.2.1, hy.2.1, hx.2.2, hy.2.2,
    hkept newShelf List.mem_cons_self cardsAtMidnight cardsAtMidnight "x" _ hx.2.1⟩

end Workspace

end CodeAtlas
