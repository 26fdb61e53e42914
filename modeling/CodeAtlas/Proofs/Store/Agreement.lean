import CodeAtlas.Proofs.Store.Requests
import Mathlib

/-! Both kinds of stores answer alike. From a database that has just been prepared and from an empty store in
    memory the same requests get the same replies, and a store in memory that is made from a list answers as if
    the list had been written to it. -/

namespace CodeAtlas.Workspace

open Store

variable {w v : Workspace} {l : List Texts} {path : Path}

/-- The store is a database that has been prepared. Opening it finds a table without rows, nothing stands in the
    way of writing to it, and no text with halves of pairs has come in. -/
structure Fresh (w : Workspace) (path : Path) : Prop where
  store : w.store = .database path
  whole : w.halves = false
  prepared : ∃ before : Workspace, before.prepareStore = (.ok (), w)
  opened : ∃ c tree, Database.connect w.tree w.here path = .ok (c, tree) ∧ c.content = some (some {}) ∧
    c.hindrance = none

theorem isDirectory_of_prepareStore {before : Workspace} (hstore : w.store = .database path)
    (h : before.prepareStore = (.ok (), w)) : w.tree.isDirectory w.here path.parent = .ok true := by
  obtain ⟨tree, here, store, clock, journal, halves⟩ := before
  cases store with
  | memory m => cases (Prod.mk.inj h).1
  | database other =>
    dsimp only [prepareStore] at h
    obtain ⟨hdone, rfl⟩ := Prod.mk.inj h
    obtain rfl := RecordStore.database.inj hstore
    exact Database.isDirectory_of_prepare (Prod.ext hdone rfl)

theorem Fresh.exists_keeps (h : w.Fresh path) : ∃ place, Keeps w path place {} := by
  obtain ⟨before, hbefore⟩ := h.prepared
  obtain ⟨c, tree, hopened, hempty, hfree⟩ := h.opened
  obtain ⟨rfl, place, rfl⟩ := Database.exists_place_of_connect hopened hempty hfree
  exact ⟨place, h.store, h.whole, isDirectory_of_prepareStore h.store hbefore, hopened⟩

theorem Fresh.saysInDatabase (h : w.Fresh path) : SaysInDatabase w [] := by
  obtain ⟨place, hkeeps⟩ := h.exists_keeps
  exact ⟨path, place, {}, hkeeps, rfl, fun row hrow => by cases hrow⟩

/-- Records that are written in memory replace one another as those of a list do. -/
theorem saysInMemory_upsertAll : ∀ {rs : List Record} {w : Workspace} {l : List Texts}, SaysInMemory w l →
    (∀ r ∈ rs, r.Searchable) → SaysInMemory (w.upsertAll rs).2 ((rs.map Record.texts).foldl Texts.put l)
  | [], _, _, h, _ => h
  | r :: rs, w, l, h, hrs => by
    obtain ⟨hanswer, hsays⟩ := saysInMemory_upsert h (hrs r List.mem_cons_self)
    rw [upsertAll]
    split
    · rename_i hfailed
      rw [hfailed] at hanswer
      cases hanswer
    · rename_i hdone
      rw [hdone] at hsays
      exact saysInMemory_upsertAll hsays fun x hx => hrs x (List.mem_cons_of_mem r hx)

/-! ### A new database -/

/-- The path of a database in a directory. -/
def shelf : Path := ⟨.here, ["data", "shelf.db"]⟩

/-- A workspace with an empty database. -/
def newShelf : Workspace where
  tree := ⟨[(["data"], .directory), (["data", "shelf.db"], .file (.database (some {})))]⟩
  store := .database shelf

/-- Only a link could lead elsewhere. -/
theorem place?_shelf {t : FileTree} (hdata : t.entry? ["data"] = none ∨ t.entry? ["data"] = some .directory)
    (hfile : ∀ target, t.entry? ["data", "shelf.db"] ≠ some (.link target)) :
    Location.place? { file := "data/shelf.db" } t [] = some ["data", "shelf.db"] := by
  have hnames : FileTree.targetNames "data/shelf.db" = ["data", "shelf.db"] := by decide +kernel
  have hstart : FileTree.startsAtRoot "data/shelf.db" = false := by decide +kernel
  have hfirst : Location.admits t [] "data" = true := by
    rw [Location.admits, show t.entry? [] = some .directory from rfl]
    decide +kernel
  have hsecond : Location.admits t ["data"] "shelf.db" = true := by
    rcases hdata with hdata | hdata <;> rw [Location.admits, hdata] <;> decide +kernel
  have hnolink : ∀ target, t.entry? ["data"] ≠ some (.link target) := fun target htarget => by
    rcases hdata with hdata | hdata <;> rw [hdata] at htarget <;> cases htarget
  have hfrom : Location.placeFrom t Location.linkLimit [] ["data", "shelf.db"] = some ["data", "shelf.db"] := by
    rw [Location.placeFrom_name (by decide) (by decide) hfirst hnolink, List.nil_append,
      Location.placeFrom_name (by decide) (by decide) hsecond hfile, Location.placeFrom]
    rfl
  rw [Location.place?, hstart, hnames]
  change Option.filter _ (Location.placeFrom t Location.linkLimit [] _) = _
  rw [hfrom]
  decide +kernel

theorem connect_newShelf : Database.connect newShelf.tree newShelf.here shelf =
    .ok ({ place := some ["data", "shelf.db"], content := some (some {}) }, newShelf.tree) := by
  have hlocation : Location.ofText shelf.text = .ok { file := "data/shelf.db" } := rfl
  have hplace : Location.place? { file := "data/shelf.db" } newShelf.tree newShelf.here = some ["data", "shelf.db"] :=
    place?_shelf (Or.inr rfl) fun target htarget => by cases htarget
  rw [Database.connect_of_location (by decide +kernel) hlocation (by decide +kernel),
    Database.openFile_of_file hplace rfl]
  rfl

theorem fresh_newShelf : newShelf.Fresh shelf where
  store := rfl
  whole := rfl
  prepared := by
    have hkeeps : newShelf.Keeps shelf ["data", "shelf.db"] {} := ⟨rfl, rfl, rfl, connect_newShelf⟩
    exact ⟨newShelf, hkeeps.prepareStore_eq⟩
  opened := ⟨_, _, connect_newShelf, rfl, rfl⟩

def card (id content keywords : String) : Record where
  id := some id
  content := some content
  description := some ""
  keywords := some keywords
  created := ⟨2024, 1, 1, 0, 0, 0, 0, some 0⟩
  updated := ⟨2024, 1, 1, 0, 0, 0, 0, some 0⟩

theorem isWhole_card (id content keywords : String) : (card id content keywords).IsWhole := ⟨⟨rfl, rfl⟩, rfl, rfl⟩

theorem isUtc_start : ({} : Clock).start.IsUtc := by
  constructor <;> decide

/-- The writing of a card. -/
def writeCard (id content keywords : String) : Request :=
  .upsert {} (card id content keywords) isUtc_start (isWhole_card id content keywords)

/-! ### Agreement -/

/-- Whatever is asked, a fresh database and an empty store in memory reply the same and never fail; and a store in
    memory that is made from records replies as one that they have been written to in their order. -/
theorem stores_agree (w v : Workspace) (path : Path) (hw : w.Fresh path) (hv : v.store = .memory {}) :
    (∀ qs : List Request, (w.askAll qs).1 = (v.askAll qs).1 ∧ ∀ a ∈ (w.askAll qs).1, ∃ reply, a = .ok reply) ∧
      ∀ rs : List Record, (∀ r ∈ rs, r.Searchable) → ∀ qs : List Request,
        (askAll { v with store := .memory (Memory.ofList rs) } qs).1 = ((v.upsertAll rs).2.askAll qs).1 := by
  have hempty : SaysInMemory v [] := ⟨{}, hv, rfl, fun r hr => by cases hr⟩
  constructor
  · intro qs
    obtain ⟨hdatabase, -⟩ := askAll_eq (fun w l q => @saysInDatabase_ask w l q) qs w [] hw.saysInDatabase
    obtain ⟨hmemory, -⟩ := askAll_eq (fun w l q => @saysInMemory_ask w l q) qs v [] hempty
    rw [hdatabase, hmemory]
    refine ⟨rfl, fun a ha => ?_⟩
    obtain ⟨reply, -, rfl⟩ := List.mem_map.mp ha
    exact ⟨reply, rfl⟩
  · intro rs hrs qs
    have hlist : SaysInMemory { v with store := .memory (Memory.ofList rs) }
        ((rs.map Record.texts).foldl Texts.put []) :=
      ⟨_, rfl, Memory.texts_ofList rs, Memory.forall_records_foldl_put rs (fun r hr => by cases hr) hrs⟩
    obtain ⟨hmade, -⟩ := askAll_eq (fun w l q => @saysInMemory_ask w l q) qs _ _ hlist
    obtain ⟨hwritten, -⟩ :=
      askAll_eq (fun w l q => @saysInMemory_ask w l q) qs _ _ (saysInMemory_upsertAll hempty hrs)
    rw [hmade, hwritten]

/-- A record is written anew and keeps its place, and letters are found in either case. -/
theorem shelf_agrees_with_memory :
    let qs := [writeCard "x" "" "b", writeCard "y" "" "À", .prepare, writeCard "x" "" "à",
      .find "À" 2 (by decide), .get "z"]
    let replies : List Reply := [.wrote true, .wrote true, .ready, .wrote false,
      .found [(card "x" "" "à").texts, (card "y" "" "À").texts], .got none]
    (newShelf.askAll qs).1 = replies.map .ok ∧ (askAll {} qs).1 = replies.map .ok ∧
      (askAll { store := .memory (Memory.ofList [card "x" "" "b", card "x" "" "à"]) } [.get "x"]).1 =
        [.ok (.got (some (card "x" "" "à").texts))] := by
  intro qs replies
  obtain ⟨hagree, hlist⟩ := stores_agree newShelf {} shelf fresh_newShelf rfl
  have hmemory : (askAll {} qs).1 = replies.map .ok := by cbv
  refine ⟨(hagree qs).1.trans hmemory, hmemory, ?_⟩
  have hrs : ∀ r ∈ [card "x" "" "b", card "x" "" "à"], r.Searchable := by
    intro r hr
    rcases List.mem_pair.mp hr with rfl | rfl <;> exact ⟨rfl, rfl⟩
  refine (hlist _ hrs [.get "x"]).trans ?_
  cbv

end CodeAtlas.Workspace
