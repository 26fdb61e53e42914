import CodeAtlas.Proofs.FileTree.Alike
import CodeAtlas.Proofs.Store.Writes

/-! What a store holds, which is what it says together with the times of creation. A write that succeeds leaves a store
    that takes the next one, and a tree that looks the same; one that finds its id keeps the times of creation. -/

namespace CodeAtlas

open FileTree Store

/-- When a record was made, in the form that the store has for it. -/
inductive Creation where
  | time (t : Timestamp)
  | text (s : String)
deriving DecidableEq, Repr

/-- What a store holds under an id, but for the time of the last change. -/
structure Holding where
  texts : Texts
  created : Creation
deriving DecidableEq, Repr

def Record.holding (r : Record) : Holding := ⟨r.texts, .time r.created⟩

def Store.Row.holding (row : Row) : Holding := ⟨row.texts, .text row.created⟩

def Store.Memory.holdings (m : Memory) : List Holding := m.records.map Record.holding

def Store.Table.holdings (table : Table) : List Holding := table.rows.map Row.holding

/-! ### Memories -/

namespace Store.Memory
variable {m : Memory} {r : Record} {now : Timestamp} {id : Option String}

/-- Should there be several records with the id, they were made at the same time. -/
def Settled (m : Memory) (id : Option String) : Prop :=
  ∀ x ∈ m.records, ∀ y ∈ m.records, x.id = id → y.id = id → x.created = y.created

/-- A write settles its id, and it unsettles no other. -/
theorem settled_upsert (h : id = r.id ∨ m.Settled id) : (m.upsert now r).2.Settled id := by
  intro x hx y hy hxid hyid
  rw [upsert_eq] at hx hy
  by_cases hid : id = r.id
  · -- With that id there is the record that was written, and no other.
    have hwritten : ∀ z ∈ (m.put (m.stamped now r)).records, z.id = r.id → z = m.stamped now r := fun z hz hzid => by
      rw [← @stamped_id m r now] at hzid
      by_cases hmem : (m.stamped now r).id ∈ m.ids
      · rw [put_of_mem hmem] at hz
        obtain ⟨old, -, rfl⟩ := List.mem_map.mp hz
        split at hzid
        · rename_i hold
          rw [if_pos hold]
        · rename_i hold
          exact absurd (beq_iff_eq.mpr hzid) hold
      · rw [put_of_not_mem hmem] at hz
        rcases List.mem_append.mp hz with hz | hz
        · exact absurd (hzid ▸ List.mem_map_of_mem hz) hmem
        · exact List.mem_singleton.mp hz
    rw [hwritten x hx (hxid.trans hid), hwritten y hy (hyid.trans hid)]
  · have hsettled := h.resolve_left hid
    have hold : ∀ z ∈ (m.put (m.stamped now r)).records, z.id = id → z ∈ m.records := fun z hz hzid => by
      rcases mem_records_put hz with rfl | hz
      · rw [stamped_id] at hzid
        exact absurd hzid.symm hid
      · exact hz
    exact hsettled x (hold x hx hxid) y (hold y hy hyid) hxid hyid

/-- A known record keeps the time of its creation. -/
theorem created_upsert (hknown : (m.upsert now r).1 = false) (hsettled : m.Settled r.id) :
    (m.upsert now r).2.holdings.map Holding.created = m.holdings.map Holding.created := by
  rw [upsert_eq] at hknown ⊢
  have hmem : r.id ∈ m.ids := by simpa using hknown
  obtain ⟨old, hget⟩ : ∃ old, m.get? r.id = some old := by
    cases hget : m.get? r.id with
    | none => exact absurd hmem (get?_eq_none_iff.mp hget)
    | some old => exact ⟨old, rfl⟩
  have hfound : old ∈ m.records := List.mem_of_find?_eq_some hget
  have hid : old.id = r.id := by simpa using List.find?_some hget
  have hstamped : (m.stamped now r).created = old.created := by rw [stamped, hget]
  rw [put_of_mem (by rwa [stamped_id]), holdings, holdings, List.map_map, List.map_map, List.map_map, stamped_id]
  refine List.map_congr_left fun x hx => ?_
  by_cases hxid : x.id = r.id
  · simp [hxid, Record.holding, hstamped, hsettled old hfound x hx hid hxid]
  · simp [hxid]

end Store.Memory

/-! ### Tables -/

namespace Store.Table
variable {table written : Table} {r : Record} {now : Timestamp}

/-- A known row keeps the time of its creation. -/
theorem created_upsert (h : table.upsert now r = .ok (false, written)) :
    written.holdings.map Holding.created = table.holdings.map Holding.created := by
  unfold upsert at h
  dsimp only at h
  cases hwrite : table.write (table.holds r.id) r now.text with
  | error v =>
    rw [hwrite] at h
    cases h
  | ok found =>
    rw [hwrite] at h
    obtain ⟨hknown, rfl⟩ := Prod.mk.inj (Except.ok.inj h)
    have hholds : table.holds r.id = true := by simpa using hknown
    rw [hholds, write, if_pos rfl, update, if_pos hholds] at hwrite
    split at hwrite
    · cases hwrite
    · cases hwrite
    · cases hwrite
    · obtain rfl := Except.ok.inj hwrite
      rw [holdings, holdings, List.map_map, List.map_map, List.map_map]
      refine List.map_congr_left fun row _ => ?_
      by_cases hid : row.id = r.id <;> simp [hid, Row.holding]

end Store.Table

/-! ### Databases -/

namespace Database
variable {t u : FileTree} {here place : Place} {path : Path} {c : Connection} {table : Table}

/-- What the database at a path holds, if it can be opened and has its table. -/
def holdings (t : FileTree) (here : Place) (path : Path) : List Holding :=
  match connect t here path with
  | .error _ => []
  | .ok (c, _) => (c.content.join.map Table.holdings).getD []

theorem holdings_of_connect (h : connect t here path = .ok (c, u)) (hc : c.content = some (some table)) :
    holdings t here path = table.holdings := by
  rw [holdings, h]
  dsimp only
  rw [hc]
  rfl

theorem entry?_of_connect (h : connect t here path = .ok ({ place := some place, content := some (some table) }, t)) :
    t.entry? place = some (.ofTable table) := by
  obtain ⟨l, -, -, -, hopen⟩ := location_of_connect h rfl
  obtain ⟨-, found, content, -, hfile, hconnection⟩ := file_of_openFile hopen rfl
  obtain ⟨hfound, hcontent, -, -⟩ := Connection.mk.inj hconnection
  obtain rfl := Option.some.inj hfound
  rw [hfile]
  cases content with
  | octets bytes =>
    unfold ofContent at hcontent
    dsimp only at hcontent
    split at hcontent <;> cases hcontent
  | database db =>
    obtain rfl : some table = db := Option.some.inj hcontent
    rfl

theorem Connection.upsert_eq_ok {now : Timestamp} {r : Record} {isNew : Bool} {db : Database}
    (h : c.upsert now r = .ok (isNew, db)) : ∃ table written, c.content = some (some table) ∧ c.hindrance = none ∧
      refusedText? c.halves r = none ∧ table.upsert now r = .ok (isNew, written) ∧ db = some written := by
  unfold Connection.upsert Connection.writable Connection.readable at h
  rcases hc : c.content with _ | _ | table
  · rw [hc] at h
    cases h
  · rw [hc] at h
    cases h
  · rw [hc] at h
    cases hrefused : refusedText? c.halves r with
    | some f =>
      rw [hrefused] at h
      cases h
    | none =>
      cases hhindrance : c.hindrance with
      | some fault =>
        rw [hrefused, hhindrance] at h
        cases h
      | none =>
        rw [hrefused, hhindrance] at h
        dsimp only [Database.upsert] at h
        cases hupsert : table.upsert now r with
        | error v =>
          rw [hupsert] at h
          cases h
        | ok done =>
          obtain ⟨found, written⟩ := done
          rw [hupsert] at h
          obtain ⟨rfl, rfl⟩ := Prod.mk.inj (Except.ok.inj h)
          exact ⟨table, written, rfl, rfl, rfl, hupsert, rfl⟩

end Database

/-! ### Workspaces -/

namespace Workspace
variable {w w' v : Workspace} {r : Record} {isNew : Bool} {path : Path} {place : Place} {table written : Table}
  {id : Option String}

/-- What the store holds, of whichever kind it is. -/
def holdings (w : Workspace) : List Holding :=
  match w.store with
  | .memory m => m.holdings
  | .database path => Database.holdings w.tree w.here path

theorem SameStore.holdings_eq (h : SameStore w v) : v.holdings = w.holdings := by
  rw [holdings, holdings, h.store, h.tree, h.here]

theorem map_texts_holdings (w : Workspace) : w.holdings.map Holding.texts = w.texts := by
  have hmemory : ∀ m : Memory, m.holdings.map Holding.texts = m.texts := fun m => by
    rw [Memory.holdings, List.map_map]
    rfl
  have htable : ∀ table : Table, table.holdings.map Holding.texts = table.texts := fun table => by
    rw [Table.holdings, List.map_map]
    rfl
  rw [holdings, texts]
  cases w.store with
  | memory m => exact hmemory m
  | database path =>
    dsimp only
    rw [Database.holdings, Database.texts]
    cases Database.connect w.tree w.here path with
    | error f => rfl
    | ok opened =>
      obtain ⟨c, u⟩ := opened
      cases hc : c.content.join with
      | none => simp [hc]
      | some table => simp [hc, htable]

/-- Whatever record is whole is taken. -/
def NeverFails (w : Workspace) : Prop := ∀ r : Record, r.IsWhole → ∃ isNew w', w.upsert r = (.ok isNew, w')

/-- The store is in memory, or a table that nothing stands in the way of, and the texts of the record can be handed
    over. -/
inductive Accepts (w : Workspace) (r : Record) : Prop
  | memory {m : Memory} : w.store = .memory m → Accepts w r
  | database {path : Path} {place : Place} {table : Table} : w.store = .database path →
    Database.connect w.tree w.here path = .ok ({ place := some place, content := some (some table) }, w.tree) →
    Database.refusedText? w.halves r = none → Accepts w r

theorem Accepts.sameStore (hr : w.Accepts r) (h : SameStore w v) : v.Accepts r := by
  cases hr with
  | memory hstore => exact .memory (h.store.trans hstore)
  | database hstore hopen htexts =>
    exact .database (h.store.trans hstore) (by rw [h.tree, h.here, hopen]) (by rw [h.halves, htexts])

/-- It is the texts of the record that matter, not its times. -/
theorem Accepts.congr {r' : Record} (hr : w.Accepts r) (h : r'.texts = r.texts) : w.Accepts r' := by
  obtain ⟨hid, hcontent, hdescription, hkeywords⟩ := Texts.mk.inj h
  cases hr with
  | memory hstore => exact .memory hstore
  | database hstore hopen htexts =>
    refine .database hstore hopen ?_
    rwa [Database.refusedText?, hid, hcontent, hdescription, hkeywords]

theorem upsert_of_connect (hstore : w.store = .database path)
    (hopen : Database.connect w.tree w.here path = .ok ({ place := some place, content := some (some table) }, w.tree))
    (htakes : Database.refusedText? w.halves r = none) (hupsert : table.upsert w.clock.now r = .ok (isNew, written)) : w.upsert r = (.ok isNew,
      { w with clock := w.clock.tick, tree := Database.kept (some place) (some written) w.tree }) := by
  obtain ⟨tree, here, store, clock, journal, halves⟩ := w
  obtain rfl : store = .database path := hstore
  dsimp only at hopen htakes hupsert
  simp only [upsert, readClock, onDatabase, hopen, Database.Connection.upsert, Database.Connection.writable,
    Database.Connection.readable, htakes, Database.upsert, hupsert, Except.map]

/-- A write that succeeds is one to a store in memory, or to a table that is kept in a file. -/
theorem upsert_cases (h : w.upsert r = (.ok isNew, w')) :
    (∃ m, w.store = .memory m ∧ isNew = (m.upsert w.clock.now r).1 ∧ w'.store = .memory (m.upsert w.clock.now r).2 ∧
      w'.tree = w.tree ∧ w'.here = w.here) ∨
    ∃ path place table written, w.store = .database path ∧
      Database.connect w.tree w.here path = .ok ({ place := some place, content := some (some table) }, w.tree) ∧
      Database.refusedText? w.halves r = none ∧ table.upsert w.clock.now r = .ok (isNew, written) ∧
      w' = { w with clock := w.clock.tick, tree := Database.kept (some place) (some written) w.tree } := by
  obtain ⟨m, hstore⟩ | ⟨path, hstore⟩ : (∃ m, w.store = .memory m) ∨ ∃ path, w.store = .database path := by
    cases w.store with
    | memory m => exact Or.inl ⟨m, rfl⟩
    | database path => exact Or.inr ⟨path, rfl⟩
  · obtain ⟨hanswer, hwritten⟩ := @upsert_in_memory w m r hstore
    have hplace : (w.upsert r).2.tree = w.tree ∧ (w.upsert r).2.here = w.here := by
      unfold upsert
      rw [hstore]
      dsimp only
      split <;> exact ⟨rfl, rfl⟩
    rw [h] at hanswer hwritten hplace
    exact Or.inl ⟨m, hstore, Except.ok.inj hanswer, hwritten, hplace⟩
  · have hwhole := h
    dsimp only [upsert] at h
    rw [hstore] at h
    dsimp only [readClock, onDatabase] at h
    cases hconnect : Database.connect w.tree w.here path with
    | error f =>
      rw [hconnect] at h
      cases h
    | ok opened =>
      obtain ⟨c, tree⟩ := opened
      rw [hconnect] at h
      dsimp only at h
      cases hdone : Database.Connection.upsert { c with halves := w.halves } w.clock.now r with
      | error f =>
        rw [hdone] at h
        cases h
      | ok done =>
        obtain ⟨found, db⟩ := done
        obtain ⟨table, written, hc, hfree, htakes, hupsert, rfl⟩ := Database.Connection.upsert_eq_ok hdone
        obtain ⟨rfl, place, rfl⟩ := Database.exists_place_of_connect hconnect hc hfree
        have heq := upsert_of_connect hstore hconnect htakes hupsert
        rw [hwhole] at heq
        obtain ⟨hnew, hafter⟩ := Prod.mk.inj heq
        obtain rfl := Except.ok.inj hnew
        exact Or.inr ⟨path, place, table, written, hstore, hconnect, htakes, hupsert, hafter⟩

/-- What is written was accepted. -/
theorem Accepts.of_upsert (h : w.upsert r = (.ok isNew, w')) : w.Accepts r := by
  obtain ⟨m, hstore, -, -, -, -⟩ | ⟨path, place, table, written, hstore, hopen, htexts, -, -⟩ := upsert_cases h
  · exact .memory hstore
  · exact .database hstore hopen htexts

/-- After a write that succeeds the next one can follow. -/
theorem Accepts.after_upsert {x : Record} (hx : w.Accepts x) (h : w.upsert r = (.ok isNew, w')) : w'.Accepts x := by
  obtain ⟨m, -, -, hafter, -, -⟩ | ⟨path, place, table, written, hstore, hopen, -, -, rfl⟩ := upsert_cases h
  · exact .memory hafter
  · cases hx with
    | memory hmemory => cases hstore.symm.trans hmemory
    | database _ _ htexts =>
      obtain ⟨-, -, hkept⟩ := Database.connect_kept hopen
      exact .database hstore (hkept (some written)) htexts

theorem Accepts.upsert (h : w.Accepts r) (hr : r.IsWhole) : ∃ isNew w', w.upsert r = (.ok isNew, w') := by
  cases h with
  | @memory m hstore =>
    obtain ⟨hanswer, -⟩ := @upsert_in_memory w m r hstore
    exact ⟨_, _, Prod.ext hanswer rfl⟩
  | @database path place table hstore hopen htexts =>
    obtain ⟨written, hupsert, -, -⟩ := table.exists_upsert_of_whole w.clock.now hr
    exact ⟨_, _, upsert_of_connect hstore hopen htexts hupsert⟩

/-- A store never fails exactly where it accepts every whole record. -/
theorem neverFails_iff : w.NeverFails ↔ ∀ r : Record, r.IsWhole → w.Accepts r := by
  refine ⟨fun h r hr => ?_, fun h r hr => (h r hr).upsert hr⟩
  obtain ⟨isNew, w', hwrite⟩ := h r hr
  exact .of_upsert hwrite

/-- A write goes to the store and nowhere else. -/
theorem alike_of_upsert (h : w.upsert r = (.ok isNew, w')) : Alike w.tree w'.tree ∧ w'.here = w.here := by
  obtain ⟨m, -, -, -, htree, hhere⟩ | ⟨path, place, table, written, -, hopen, -, -, rfl⟩ := upsert_cases h
  · exact ⟨htree ▸ .refl w.tree, hhere⟩
  · exact ⟨.put (Database.entry?_of_connect hopen) written, rfl⟩

/-- Of several records in memory with the id, all were made at the same time. -/
def Settled (w : Workspace) (id : Option String) : Prop := ∀ m, w.store = .memory m → m.Settled id

theorem Settled.sameStore (hw : w.Settled id) (h : SameStore w v) : v.Settled id := fun m hm => hw m (h.store ▸ hm)

theorem settled_of_upsert (h : w.upsert r = (.ok isNew, w')) (hid : id = r.id ∨ w.Settled id) : w'.Settled id := by
  intro m' hm'
  obtain ⟨m, hstore, -, hafter, -, -⟩ | ⟨path, place, table, written, hstore, -, -, -, rfl⟩ := upsert_cases h
  · obtain rfl := RecordStore.memory.inj (hm'.symm.trans hafter)
    exact Memory.settled_upsert (hid.imp_right fun hsettled => hsettled m hstore)
  · cases hstore.symm.trans hm'

/-- A write that finds its id leaves all times of creation as they are. -/
theorem created_of_upsert (h : w.upsert r = (.ok false, w')) (hsettled : w.Settled r.id) :
    w'.holdings.map Holding.created = w.holdings.map Holding.created := by
  obtain ⟨m, hstore, hknown, hafter, -, -⟩ | ⟨path, place, table, written, hstore, hopen, -, hupsert, rfl⟩ :=
    upsert_cases h
  · rw [holdings, holdings, hstore, hafter]
    exact Memory.created_upsert hknown.symm (hsettled m hstore)
  · obtain ⟨-, -, hkept⟩ := Database.connect_kept hopen
    rw [holdings, holdings, hstore]
    dsimp only
    rw [Database.holdings_of_connect hopen rfl, Database.holdings_of_connect (hkept (some written)) rfl]
    exact Table.created_upsert hupsert

end Workspace

end CodeAtlas
