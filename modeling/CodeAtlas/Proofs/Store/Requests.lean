import CodeAtlas.Proofs.Store.Database
import CodeAtlas.Proofs.Store.Texts
import CodeAtlas.Proofs.Time.Clock
import CodeAtlas.Workspace

/-! Requests to a store and what they are answered. A store in memory and a prepared database answer every request,
    and both do so from what they say: from their texts the reply follows, and what they say afterwards. -/

namespace CodeAtlas

/-- What is asked of a store. Every record is written at a time of its own. -/
inductive Request where
  | upsert (clock : Clock) (r : Record) (isUtc : clock.start.IsUtc) (isWhole : r.IsWhole)
  | find (term : String) (limit : Nat) (fits : limit < 2 ^ 63)
  | get (id : String)
  | prepare

/-- What is replied, times left out. -/
inductive Reply where
  | wrote (isNew : Bool)
  | found (texts : List Texts)
  | got (texts : Option Texts)
  | ready
deriving DecidableEq, Repr

namespace Workspace

/-- Puts a request to the store. In memory there is nothing to prepare. -/
def ask (w : Workspace) : Request → Except Failure Reply × Workspace
  | .upsert clock r _ _ =>
    let (answer, w) := upsert { w with clock } r
    (answer.map .wrote, w)
  | .find term limit _ =>
    let (answer, w) := w.find (some term) limit
    (answer.map fun rs => .found (rs.map Record.texts), w)
  | .get id =>
    let (answer, w) := w.get? (some id)
    (answer.map fun r => .got (r.map Record.texts), w)
  | .prepare => match w.store with
    | .memory _ => (.ok .ready, w)
    | .database _ =>
      let (answer, w) := w.prepareStore
      (answer.map fun _ => .ready, w)

/-- Puts requests to the store, one after the other. -/
def askAll (w : Workspace) : List Request → List (Except Failure Reply) × Workspace
  | [] => ([], w)
  | q :: qs => ((w.ask q).1 :: ((w.ask q).2.askAll qs).1, ((w.ask q).2.askAll qs).2)

end Workspace

namespace Texts

/-- The reply that follows from what a store says, and what it says then. -/
def answer (l : List Texts) : Request → Reply × List Texts
  | .upsert _ r _ _ => (.wrote (!known l r.id), put l r.texts)
  | .find term limit _ => (.found (find l term limit), l)
  | .get id => (.got (get? l (some id)), l)
  | .prepare => (.ready, l)

def answers (l : List Texts) : List Request → List Reply × List Texts
  | [] => ([], l)
  | q :: qs => ((answer l q).1 :: (answers (answer l q).2 qs).1, (answers (answer l q).2 qs).2)

end Texts

namespace Workspace

open Store

/-- What one request keeps, all requests keep. -/
theorem askAll_eq {Says : Workspace → List Texts → Prop}
    (step : ∀ w l q, Says w l → (w.ask q).1 = .ok (Texts.answer l q).1 ∧ Says (w.ask q).2 (Texts.answer l q).2) :
    ∀ (qs : List Request) (w : Workspace) (l : List Texts), Says w l →
      (w.askAll qs).1 = (Texts.answers l qs).1.map .ok ∧ Says (w.askAll qs).2 (Texts.answers l qs).2
  | [], _, _, h => ⟨rfl, h⟩
  | q :: qs, w, l, h => by
    obtain ⟨hreply, hsays⟩ := step w l q h
    obtain ⟨hreplies, hlast⟩ := askAll_eq step qs _ _ hsays
    refine ⟨?_, hlast⟩
    rw [askAll, Texts.answers, List.map_cons, hreply, hreplies]

/-! ### In memory -/

/-- The store is in memory and holds whole records. -/
def SaysInMemory (w : Workspace) (l : List Texts) : Prop :=
  ∃ m : Memory, w.store = .memory m ∧ m.texts = l ∧ ∀ r ∈ m.records, r.Searchable

variable {w : Workspace} {m : Memory} {r : Record} {l : List Texts}

/-- A known record and a new one are written alike. -/
theorem upsert_in_memory (h : w.store = .memory m) : (w.upsert r).1 = .ok (m.upsert w.clock.now r).1 ∧
    (w.upsert r).2.store = .memory (m.upsert w.clock.now r).2 := by
  unfold upsert
  rw [h]
  dsimp only
  split <;> exact ⟨rfl, rfl⟩

theorem saysInMemory_upsert (h : SaysInMemory w l) (hr : r.Searchable) :
    (w.upsert r).1 = .ok (!Texts.known l r.id) ∧ SaysInMemory (w.upsert r).2 (Texts.put l r.texts) := by
  obtain ⟨m, hstore, rfl, hsearchable⟩ := h
  obtain ⟨hanswer, hwritten⟩ := @upsert_in_memory w m r hstore
  exact ⟨hanswer.trans (congrArg _ Memory.upsert_isNew), _, hwritten, Memory.texts_upsert,
    Memory.searchable_upsert hsearchable hr⟩

theorem saysInMemory_ask (q : Request) (h : SaysInMemory w l) :
    (w.ask q).1 = .ok (Texts.answer l q).1 ∧ SaysInMemory (w.ask q).2 (Texts.answer l q).2 := by
  cases q with
  | upsert clock r isUtc isWhole =>
    obtain ⟨hanswer, hsays⟩ := @saysInMemory_upsert { w with clock } r l h isWhole.toSearchable
    refine ⟨?_, hsays⟩
    simp only [ask, hanswer, Texts.answer]
    rfl
  | find term limit fits =>
    obtain ⟨m, hstore, rfl, hsearchable⟩ := h
    have hfind := @Memory.texts_find m term limit hsearchable
    have hanswer : (w.find (some term) limit) = ((m.find (some term) limit).mapError fun _ => .absentText, w) := by
      rw [find, hstore]
    cases hm : m.find (some term) limit with
    | error absent =>
      rw [hm] at hfind
      cases hfind
    | ok rs =>
      rw [hm] at hfind hanswer
      refine ⟨?_, m, ?_, rfl, hsearchable⟩
      · simp only [ask, hanswer, Texts.answer, ← Except.ok.inj hfind]
        rfl
      · simp only [ask, hanswer, hstore]
  | get id =>
    obtain ⟨m, hstore, rfl, hsearchable⟩ := h
    have hanswer : w.get? (some id) = (.ok (m.get? (some id)), w) := by rw [get?, hstore]
    refine ⟨?_, m, ?_, rfl, hsearchable⟩
    · simp only [ask, hanswer, Texts.answer, ← Memory.texts_get?]
      rfl
    · simp only [ask, hanswer, hstore]
  | prepare =>
    obtain ⟨m, hstore, rfl, hsearchable⟩ := h
    refine ⟨?_, m, ?_, rfl, hsearchable⟩
    · simp only [ask, hstore]
      rfl
    · simp only [ask, hstore]

/-! ### In a database -/

/-- The store is a table in a file that may be written, whose directory is there. -/
structure Keeps (w : Workspace) (path : Path) (place : Place) (table : Table) : Prop where
  store : w.store = .database path
  whole : w.halves = false
  directory : w.tree.isDirectory w.here path.parent = .ok true
  opened : Database.connect w.tree w.here path = .ok ({ place := some place, content := some (some table) }, w.tree)

namespace Keeps
variable {path : Path} {place : Place} {table written : Table} {α : Type}
  {work : Database.Connection → Except Failure (α × Option Database)} {a : α}

theorem withClock (h : Keeps w path place table) (clock : Clock) : Keeps { w with clock } path place table :=
  ⟨h.store, h.whole, h.directory, h.opened⟩

/-- What is left in the file is kept from then on. -/
theorem write (h : Keeps w path place table) (written : Table) :
    Keeps { w with tree := Database.kept (some place) (some written) w.tree } path place written := by
  obtain ⟨content, hfile, hopened⟩ := Database.connect_kept h.opened
  exact ⟨h.store, h.whole, FileTree.isDirectory_of_extends (FileTree.sameOutline_put hfile).extends h.directory, hopened _⟩

/-- Looking up changes nothing, whether it succeeds or fails. -/
theorem onDatabase_read {look : Database.Connection → Except Failure α} (h : Keeps w path place table) :
    w.onDatabase path (fun c => (look c).map fun a => (a, none)) =
      (look { place := some place, content := some (some table) }, w) := by
  obtain ⟨tree, here, store, clock, journal, halves⟩ := w
  obtain rfl : halves = false := h.whole
  have hopened : Database.connect tree here path = _ := h.opened
  simp only [onDatabase, hopened]
  cases look { place := some place, content := some (some table) } <;> rfl

theorem onDatabase_failed {f : Failure} (h : Keeps w path place table)
    (hwork : work { place := some place, content := some (some table) } = .error f) :
    w.onDatabase path work = (.error f, w) := by
  obtain ⟨tree, here, store, clock, journal, halves⟩ := w
  obtain rfl : halves = false := h.whole
  have hopened : Database.connect tree here path = _ := h.opened
  simp only [onDatabase, hopened, hwork]

theorem onDatabase_write (h : Keeps w path place table)
    (hwork : work { place := some place, content := some (some table) } = .ok (a, some (some written))) :
    w.onDatabase path work = (.ok a, { w with tree := Database.kept (some place) (some written) w.tree }) := by
  obtain ⟨tree, here, store, clock, journal, halves⟩ := w
  obtain rfl : halves = false := h.whole
  have hopened : Database.connect tree here path = _ := h.opened
  simp only [onDatabase, hopened, hwork]

theorem upsert_eq {isNew : Bool} (h : Keeps w path place table)
    (hupsert : table.upsert w.clock.now r = .ok (isNew, written)) : w.upsert r = (.ok isNew,
      { w with clock := w.clock.tick, tree := Database.kept (some place) (some written) w.tree }) := by
  obtain ⟨tree, here, store, clock, journal, halves⟩ := w
  obtain rfl : store = .database path := h.store
  dsimp only [upsert, readClock]
  refine (h.withClock clock.tick).onDatabase_write ?_
  dsimp only [Database.Connection.upsert, Database.Connection.writable, Database.Connection.readable,
    Database.upsert]
  rw [hupsert]
  rfl

/-- A record that the table refuses is reported, and only the clock has been read. -/
theorem upsert_of_error {v : Violation} (h : Keeps w path place table)
    (hupsert : table.upsert w.clock.now r = .error v) :
    w.upsert r = (.error (.store (.writing r.id (.violation v))), { w with clock := w.clock.tick }) := by
  obtain ⟨tree, here, store, clock, journal, halves⟩ := w
  obtain rfl : store = .database path := h.store
  dsimp only [upsert, readClock]
  refine (h.withClock clock.tick).onDatabase_failed ?_
  dsimp only [Database.Connection.upsert, Database.Connection.writable, Database.Connection.readable,
    Database.upsert]
  rw [hupsert]
  rfl

theorem find_eq (h : Keeps w path place table) (term : Option String) (limit : Int) :
    w.find term limit = (Database.find (some table) term limit, w) := by
  obtain ⟨tree, here, store, clock, journal, halves⟩ := w
  obtain rfl : store = .database path := h.store
  dsimp only [find]
  rw [h.onDatabase_read]
  rfl

theorem get?_eq (h : Keeps w path place table) (id : Option String) :
    w.get? id = (Database.get? (some table) id, w) := by
  obtain ⟨tree, here, store, clock, journal, halves⟩ := w
  obtain rfl : store = .database path := h.store
  dsimp only [get?]
  rw [h.onDatabase_read]
  rfl

theorem prepareStore_eq (h : Keeps w path place table) : w.prepareStore =
    (.ok (), { w with tree := Database.kept (some place) (some table) w.tree }) := by
  obtain ⟨tree, here, store, clock, journal, halves⟩ := w
  obtain rfl : store = .database path := h.store
  have hprepare := Database.prepare_of_connect h.directory h.opened
  dsimp only [prepareStore]
  rw [hprepare]

end Keeps

/-- The store is a database and every record in it can be read. -/
def SaysInDatabase (w : Workspace) (l : List Texts) : Prop :=
  ∃ path place table, Keeps w path place table ∧ table.texts = l ∧ ∀ row ∈ table.rows, row.IsTimed

theorem saysInDatabase_ask (q : Request) (h : SaysInDatabase w l) :
    (w.ask q).1 = .ok (Texts.answer l q).1 ∧ SaysInDatabase (w.ask q).2 (Texts.answer l q).2 := by
  obtain ⟨path, place, table, hkeeps, rfl, htimed⟩ := h
  cases q with
  | upsert clock r isUtc isWhole =>
    obtain ⟨written, hupsert, htexts, htimed'⟩ := Table.upsert_of_whole isWhole (Clock.isUtc_now isUtc) htimed
    have hanswer := (hkeeps.withClock clock).upsert_eq hupsert
    refine ⟨?_, path, place, written, ?_, htexts, htimed'⟩
    · simp only [ask, hanswer, Texts.answer]
      rfl
    · simp only [ask, hanswer]
      exact (hkeeps.withClock clock.tick).write written
  | find term limit fits =>
    obtain ⟨rs, hrs, hmap⟩ := @Database.find_of_timed table term limit htimed fits
    have hanswer := hkeeps.find_eq (some term) limit
    rw [hrs] at hanswer
    refine ⟨?_, path, place, table, ?_, rfl, htimed⟩
    · simp only [ask, hanswer, Texts.answer, ← hmap]
      rfl
    · simp only [ask, hanswer]
      exact hkeeps
  | get id =>
    obtain ⟨found, hfound, hmap⟩ := Database.get?_of_timed id htimed
    have hanswer := hkeeps.get?_eq (some id)
    rw [hfound] at hanswer
    refine ⟨?_, path, place, table, ?_, rfl, htimed⟩
    · simp only [ask, hanswer, Texts.answer, ← hmap]
      rfl
    · simp only [ask, hanswer]
      exact hkeeps
  | prepare =>
    have hanswer : w.ask .prepare =
        (.ok .ready, { w with tree := Database.kept (some place) (some table) w.tree }) := by
      unfold ask
      rw [hkeeps.prepareStore_eq]
      dsimp only
      rw [hkeeps.store]
      rfl
    rw [hanswer]
    exact ⟨rfl, path, place, table, hkeeps.write table, rfl, htimed⟩

end Workspace

end CodeAtlas
