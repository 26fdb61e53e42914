import CodeAtlas.Proofs.Store.Attempts
import CodeAtlas.Proofs.Store.Failures
import CodeAtlas.Proofs.Store.Made
import CodeAtlas.Proofs.Store.Opened
import Mathlib

/-! Databases before they are prepared. Until then everything that is asked of them fails as a store does; an empty
    file may come into being, but it does not keep the database from being prepared, and what is prepared is empty. -/

namespace CodeAtlas

open FileTree Store

namespace Database

variable {t u made opened : FileTree} {here place : Place} {path : Path} {l : Location} {c : Connection} {table : Table}
  {db : Database}

/-- A table can be put at a place: its directories can be made, a database without a table can be opened there, and
    it is found there again. -/
structure Awaits (t : FileTree) (here : Place) (path : Path) (l : Location) (made opened : FileTree) (place : Place) :
    Prop where
  isKept : IsKeptAt path l
  directories : makeDirectories here path.names.length t path.parent = (.ok (), made)
  opens : openFile made here l = .ok ({ place := some place, content := some none }, opened)
  found : l.place? opened here = some place

theorem IsKeptAt.connect_eq_ok (h : IsKeptAt path l) :
    connect t here path = .ok (c, u) ↔ openFile t here l = .ok (c, u) := by
  rw [connect_of_location h.no_null h.location h.not_passing]
  cases openFile t here l <;> simp [Except.mapError]

/-- A database takes a table where it has none and nothing stands in the way, and keeps the one it has. -/
theorem Connection.withTable_eq_ok (h : c.withTable = .ok db) :
    (c.content = some none ∧ c.hindrance = none ∧ db = some {}) ∨
      ∃ table, c.content = some (some table) ∧ db = some table := by
  unfold Connection.withTable at h
  split at h
  · cases h
  · cases h
  · rename_i held hcontent hnotfree
    obtain rfl := Except.ok.inj h
    cases held with
    | some table => exact Or.inr ⟨table, hcontent, rfl⟩
    | none =>
      refine Or.inl ⟨hcontent, ?_, rfl⟩
      cases hfault : c.hindrance with
      | none => rfl
      | some fault => exact (hnotfree fault hfault rfl).elim

/-- A file that is opened without a table holds none, or it has been made. -/
theorem openFile_eq_ok_without (h : openFile t here l = .ok ({ place := some place, content := some none }, u)) :
    l.place? t here = some place ∧ hindranceAt l place = none ∧
      ((∃ content, t.entry? place = some (.file content) ∧ ofContent content = some none ∧ u = t) ∨
        t.entry? place = none ∧ u = t.put place (.file (.database none))) := by
  obtain ⟨found, hfound, ⟨content, hfile, rfl, hc⟩ | ⟨hentry, rfl, hc⟩⟩ := openFile_cases h
  · obtain ⟨hplace, hcontent, hhindrance, -⟩ := Connection.mk.inj hc
    obtain rfl := Option.some.inj hplace
    exact ⟨hfound, hhindrance.symm, Or.inl ⟨content, hfile, hcontent.symm, rfl⟩⟩
  · obtain ⟨hplace, -, hhindrance, -⟩ := Connection.mk.inj hc
    obtain rfl := Option.some.inj hplace
    exact ⟨hfound, hhindrance.symm, Or.inr ⟨hentry, rfl⟩⟩

namespace Awaits

/-- The place is found before the directories are made, too. -/
theorem place?_eq (h : Awaits t here path l made opened place) : l.place? t here = some place :=
  place?_of_makeDirectories h.directories (openFile_eq_ok_without h.opens).1

theorem entry?_eq_file_iff (h : Awaits t here path l made opened place) {content : Content} :
    made.entry? place = some (.file content) ↔ t.entry? place = some (.file content) := by
  refine ⟨file_of_makeDirectories h.directories, fun hfile => ?_⟩
  obtain ⟨e, he, hlike⟩ := extends_of_makeDirectories h.directories _ _ hfile
  obtain ⟨other, rfl⟩ := Entry.outline_eq_file.mp hlike
  rw [he, ← file_of_makeDirectories h.directories he, hfile]

/-- In the end a file without a table is open at the place. -/
theorem exists_file (h : Awaits t here path l made opened place) :
    ∃ content, opened.entry? place = some (.file content) ∧ ofContent content = some none := by
  obtain ⟨-, -, ⟨content, hfile, hempty, rfl⟩ | ⟨hnone, rfl⟩⟩ := openFile_eq_ok_without h.opens
  · exact ⟨content, hfile, hempty⟩
  · exact ⟨_, entry?_put_self (ne_nil_of_none hnone), rfl⟩

/-- Preparing puts an empty table at the place, and it is found there. -/
theorem prepare_eq (h : Awaits t here path l made opened place) :
    prepare t here path = (.ok (), kept (some place) (some {}) opened) ∧
      connect (kept (some place) (some {}) opened) here path =
        .ok ({ place := some place, content := some (some {}) }, kept (some place) (some {}) opened) := by
  obtain ⟨content, hfile, -⟩ := h.exists_file
  obtain ⟨-, hfree, -⟩ := openFile_eq_ok_without h.opens
  constructor
  · rw [prepare, h.directories]
    dsimp only
    rw [h.isKept.connect_eq_ok.mpr h.opens]
    rfl
  · have hfound : l.place? (opened.put place (.file (.database (some {})))) here = some place := by
      rw [place?_of_sameOutline (sameOutline_put hfile), h.found]
    rw [kept, h.isKept.connect_of_file hfound (entry?_put_self (ne_nil_of_file hfile)), hfree]
    rfl

end Awaits

/-- There is a place for a table. -/
def HasPlace (t : FileTree) (here : Place) (path : Path) : Prop :=
  ∃ l made opened place, Awaits t here path l made opened place

/-- Where no table is found and preparing gives the database one that is found, there is a place for it. -/
theorem HasNoTable.hasPlace {v : FileTree} (h : HasNoTable t here path) (hprepare : prepare t here path = (.ok (), u))
    (hconnect : connect u here path = .ok (c, v)) (hc : c.content = some (some table)) : HasPlace t here path := by
  obtain ⟨l, hnull, hlocation, hpassing, hagain⟩ := location_of_connect hconnect hc
  have hkept : IsKeptAt path l := ⟨hnull, hlocation, hpassing⟩
  obtain ⟨-, place', _, hplace', -, -⟩ := file_of_openFile hagain hc
  obtain ⟨made, c', opened, db, hmade, hopened, htable, rfl⟩ := prepare_eq_ok hprepare
  have hopens := hkept.connect_eq_ok.mp hopened
  rcases Connection.withTable_eq_ok htable with ⟨hcontent, hfree, -⟩ | ⟨held, hcontent, -⟩
  · obtain ⟨place, hplace, hcases⟩ := openFile_cases hopens
    have hc' : c' = { place := some place, content := some none } := by
      rcases hcases with ⟨_, -, -, rfl⟩ | ⟨-, -, rfl⟩ <;>
        exact congrArg₂ (Connection.mk (some place) · · false) hcontent hfree
    rw [hc'] at hopens hplace'
    refine ⟨l, made, opened, place, hkept, hmade, hopens, ?_⟩
    obtain ⟨-, -, ⟨content, hfile, -, rfl⟩ | ⟨hnone, rfl⟩⟩ := openFile_eq_ok_without hopens
    · exact hplace
    · -- The file has been made; the place it is found at now was the one of the path before.
      rw [kept, place?_of_sameOutline (sameOutline_put (entry?_put_self (ne_nil_of_none hnone)))] at hplace'
      have hbefore := Location.place?_of_put (fun _ => Entry.noConfusion) hnone hplace'
      rw [hplace', ← hbefore, hplace]
  · -- A table that is found when the directories have been made was found before.
    obtain ⟨rfl, found, content, hfound, hfile, rfl⟩ := file_of_openFile hopens hcontent
    exact absurd hcontent (h _ _ held (hkept.connect_of_file (place?_of_makeDirectories hmade hfound)
      (file_of_makeDirectories hmade hfile)))

/-- Opening the database before it is prepared may make an empty file, and leaves the rest to be done as it was. -/
theorem HasPlace.of_connect (h : HasPlace t here path) (hconnect : connect t here path = .ok (c, u)) :
    HasPlace u here path := by
  obtain ⟨l, made, opened, place, h⟩ := h
  obtain ⟨found, hfound, ⟨_, -, rfl, -⟩ | ⟨hnone, rfl, -⟩⟩ := openFile_cases (h.isKept.connect_eq_ok.mp hconnect)
  · exact ⟨l, made, opened, place, h⟩
  · obtain rfl : found = place := Option.some.inj (hfound.symm.trans h.place?_eq)
    obtain ⟨-, hfree, ⟨content, hfile, -⟩ | ⟨hmissing, rfl⟩⟩ := openFile_eq_ok_without h.opens
    · rw [h.entry?_eq_file_iff.mp hfile] at hnone
      cases hnone
    · have hnil := ne_nil_of_none hnone
      obtain ⟨made', hmade', hgains⟩ := makeDirectories_gains (gains_put hnil) hmissing
        (isDirectory_of_makeDirectories h.directories) h.directories (Extends.refl made)
      have hplace : l.place? made' here = some found := by
        rw [place?_of_sameOutline ((gains_put hnil).sameOutline hgains), h.found]
      refine ⟨l, made', made', found, h.isKept, hmade', ?_, hplace⟩
      rw [openFile_of_file hplace hgains.gained, hfree]
      rfl

namespace Connection
variable {r : Record} {now : Timestamp} {term id : Option String} {limit : Int}

/-- What is asked of a database without a table fails as a store does. -/
theorem readable_eq_error (h : ∀ table, c.content ≠ some (some table)) : ∃ fault, c.readable = .error fault := by
  unfold readable
  rcases hc : c.content with _ | _ | table
  · exact ⟨_, rfl⟩
  · exact ⟨_, rfl⟩
  · exact absurd hc (h table)

theorem find_eq_error (h : ∀ table, c.content ≠ some (some table)) :
    ∃ fault, c.find term limit = .error (.store fault) := by
  obtain ⟨fault, hfault⟩ := readable_eq_error h
  exact ⟨_, by rw [find, hfault]⟩

theorem get?_eq_error (h : ∀ table, c.content ≠ some (some table)) :
    ∃ fault, c.get? id = .error (.store fault) := by
  obtain ⟨fault, hfault⟩ := readable_eq_error h
  exact ⟨_, by rw [get?, hfault]⟩

theorem upsert_eq_error (h : ∀ table, c.content ≠ some (some table)) :
    ∃ fault, c.upsert now r = .error (.store fault) := by
  obtain ⟨fault, hfault⟩ := readable_eq_error h
  exact ⟨_, by rw [upsert, writable, hfault]⟩

end Connection

end Database

namespace Workspace

variable {w v x : Workspace} {path : Path}

/-- The store is a database at a path that a file can have, and it has no table yet. -/
structure IsUnprepared (w : Workspace) (path : Path) : Prop where
  store : w.store = .database path
  whole : w.halves = false
  no_null : path.HasNoNull
  no_table : Database.HasNoTable w.tree w.here path

/-- Preparing the database gives it a table that is found afterwards. So it is kept in a file, whose directories can
    be made. -/
def IsPreparable (w : Workspace) (path : Path) : Prop :=
  ∃ v table, w.prepareStore = (.ok (), v) ∧ v.Finds path table

/-- What was to be done has failed as a store does, and the database still is to be prepared and can be as before. -/
structure FailsBefore (w : Workspace) (path : Path) {α : Type} (outcome : Except Failure α × Workspace) : Prop where
  fails : ∃ fault, outcome.1 = .error (.store fault)
  unprepared : outcome.2.IsUnprepared path
  preparable : w.IsPreparable path → outcome.2.IsPreparable path

namespace IsUnprepared

/-- Where there is a place for a table, preparing the database puts it there and leaves a fresh database. -/
theorem exists_fresh (h : w.IsUnprepared path) (hplace : Database.HasPlace w.tree w.here path) :
    ∃ x, w.prepareStore = (.ok (), x) ∧ x.Fresh path := by
  obtain ⟨l, made, opened, place, hawaits⟩ := hplace
  obtain ⟨hprepare, hconnect⟩ := hawaits.prepare_eq
  have hprepared : w.prepareStore = (.ok (), { w with tree := Database.kept (some place) (some {}) opened }) := by
    unfold prepareStore
    rw [h.store]
    dsimp only
    rw [hprepare]
  exact ⟨_, hprepared, h.store, h.whole, ⟨w, hprepared⟩, _, _, hconnect, rfl, rfl⟩

/-- The database can be prepared exactly if there is a place for its table. -/
theorem isPreparable_iff (h : w.IsUnprepared path) :
    w.IsPreparable path ↔ Database.HasPlace w.tree w.here path := by
  constructor
  · rintro ⟨v, table, hprepare, c, u, hconnect, hc⟩
    unfold prepareStore at hprepare
    rw [h.store] at hprepare
    obtain ⟨hdone, rfl⟩ := Prod.mk.inj hprepare
    exact h.no_table.hasPlace (Prod.ext hdone rfl) hconnect hc
  · intro hplace
    obtain ⟨x, hprepare, hfresh⟩ := h.exists_fresh hplace
    obtain ⟨c, tree, hconnect, hc, -⟩ := hfresh.opened
    exact ⟨x, {}, hprepare, c, tree, hconnect, hc⟩

theorem withClock (h : w.IsUnprepared path) (clock : Clock) : IsUnprepared { w with clock } path :=
  ⟨h.store, h.whole, h.no_null, h.no_table⟩

/-- Work that needs a table fails. -/
theorem onDatabase {α : Type} {work : Database.Connection → Except Failure (α × Option Database)}
    (h : w.IsUnprepared path)
    (hwork : ∀ c, (∀ table, c.content ≠ some (some table)) → ∃ fault, work c = .error (.store fault)) :
    w.FailsBefore path (w.onDatabase path work) := by
  unfold Workspace.onDatabase
  cases hconnect : Database.connect w.tree w.here path with
  | error f =>
    obtain ⟨fault, rfl⟩ := Database.failsAsStore_connect_iff.mpr h.no_null f hconnect
    exact ⟨⟨fault, rfl⟩, h, id⟩
  | ok found =>
    obtain ⟨c, u⟩ := found
    obtain ⟨fault, hfault⟩ := hwork { c with halves := w.halves } fun table => h.no_table c u table hconnect
    dsimp only
    rw [hfault]
    have hleft : IsUnprepared { w with tree := u } path :=
      ⟨h.store, h.whole, h.no_null, h.no_table.of_connect hconnect⟩
    exact ⟨⟨fault, rfl⟩, hleft, fun hpreparable =>
      hleft.isPreparable_iff.mpr ((h.isPreparable_iff.mp hpreparable).of_connect hconnect)⟩

theorem find (h : w.IsUnprepared path) (term : Option String) (limit : Int) :
    w.FailsBefore path (w.find term limit) := by
  unfold Workspace.find
  rw [h.store]
  refine h.onDatabase fun c hc => ?_
  obtain ⟨fault, hfault⟩ := Database.Connection.find_eq_error hc
  exact ⟨fault, by rw [hfault]; rfl⟩

theorem get? (h : w.IsUnprepared path) (id : Option String) : w.FailsBefore path (w.get? id) := by
  unfold Workspace.get?
  rw [h.store]
  refine h.onDatabase fun c hc => ?_
  obtain ⟨fault, hfault⟩ := Database.Connection.get?_eq_error hc
  exact ⟨fault, by rw [hfault]; rfl⟩

theorem isPreparable_withClock (h : w.IsUnprepared path) (clock : Clock) (hw : w.IsPreparable path) :
    IsPreparable { w with clock } path :=
  (h.withClock clock).isPreparable_iff.mpr (h.isPreparable_iff.mp hw)

theorem upsert (h : w.IsUnprepared path) (clock : Clock) (r : Record) :
    w.FailsBefore path (upsert { w with clock } r) := by
  obtain ⟨tree, here, store, before, journal, halves⟩ := w
  obtain rfl : store = .database path := h.store
  have hfails : FailsBefore ⟨tree, here, .database path, clock.tick, journal, halves⟩ path
      (Workspace.upsert ⟨tree, here, .database path, clock, journal, halves⟩ r) := by
    dsimp only [Workspace.upsert, readClock]
    refine (h.withClock clock.tick).onDatabase fun c hc => ?_
    obtain ⟨fault, hfault⟩ := Database.Connection.upsert_eq_error hc
    exact ⟨fault, by rw [hfault]; rfl⟩
  exact ⟨hfails.fails, hfails.unprepared, fun hw => hfails.preparable (h.isPreparable_withClock clock.tick hw)⟩

end IsUnprepared

theorem FailsBefore.map {α β : Type} {outcome : Except Failure α × Workspace} (h : w.FailsBefore path outcome)
    (g : α → β) : w.FailsBefore path (outcome.1.map g, outcome.2) := by
  obtain ⟨⟨fault, hfault⟩, hunprepared, hpreparable⟩ := h
  exact ⟨⟨fault, congrArg (Except.map g) hfault⟩, hunprepared, hpreparable⟩

namespace IsUnprepared

/-- Whatever is tried before the database is prepared fails as a store does. -/
theorem attempt {a : Attempt} (h : w.IsUnprepared path) (ha : a ≠ .prepare) : w.FailsBefore path (w.attempt a) := by
  cases a with
  | upsert clock r => exact (h.upsert clock r).map _
  | find term limit => exact (h.find term limit).map _
  | get id => exact (h.get? id).map _
  | prepare => exact absurd rfl ha

theorem attemptAll {as : List Attempt} (h : w.IsUnprepared path) (has : .prepare ∉ as) :
    (w.attemptAll as).IsUnprepared path ∧ (w.IsPreparable path → (w.attemptAll as).IsPreparable path) := by
  induction as generalizing w with
  | nil => exact ⟨h, id⟩
  | cons a as ih =>
    rw [List.mem_cons, not_or] at has
    have hstep := h.attempt (Ne.symm has.1)
    obtain ⟨hleft, hpreparable⟩ := ih hstep.unprepared has.2
    exact ⟨hleft, hpreparable ∘ hstep.preparable⟩

end IsUnprepared

/-- A fresh database holds nothing. -/
theorem Fresh.finds_nothing (h : x.Fresh path) : (∀ id, (x.get? id).1 = .ok none) ∧
    ∀ term limit, fitsWord limit = true → (x.find term limit).1 = .ok [] := by
  obtain ⟨place, hkeeps⟩ := h.exists_keeps
  refine ⟨fun id => ?_, fun term limit hlimit => ?_⟩
  · rw [hkeeps.get?_eq]
    cases id <;> rfl
  · rw [hkeeps.find_eq]
    dsimp only [Database.find]
    rw [if_pos hlimit, Table.matching]
    dsimp only
    rw [List.filter_nil, List.take_nil, ite_self]
    rfl

/-- Failures leave a store as it is. Whatever has been tried with a database since it was prepared, a record that lacks
    a text is refused and nothing has changed then, nor when the database is prepared once more. And whatever is tried
    before a database is prepared fails as a store does, and if it could be prepared at first it still can be and is
    empty then. -/
theorem store_unchanged_by_failures {w v : Workspace} {path path' : Path} (hw : w.Fresh path)
    (hv : v.IsUnprepared path') :
    (∀ as : List Attempt,
      (∀ (clock : Clock) (r : Record), r.content = none ∨ r.description = none ∨ r.keywords = none →
        (∃ column, r.lacking? = some column ∧ (upsert { w.attemptAll as with clock } r).1 =
          .error (.store (.writing r.id (.violation (.absent column))))) ∧
        Unchanged path (w.attemptAll as) (upsert { w.attemptAll as with clock } r).2) ∧
      (∀ (clock : Clock) (r : Record), r.IsWhole → ∃ isNew, (upsert { w.attemptAll as with clock } r).1 = .ok isNew) ∧
      (w.attemptAll as).prepareStore.1 = .ok () ∧
      Unchanged path (w.attemptAll as) (w.attemptAll as).prepareStore.2) ∧
    ∀ as : List Attempt, .prepare ∉ as →
      (∀ a, a ≠ .prepare → ∃ fault, ((v.attemptAll as).attempt a).1 = .error (.store fault)) ∧
      (v.IsPreparable path' → ∃ x, (v.attemptAll as).prepareStore = (.ok (), x) ∧ x.Fresh path' ∧
        (∀ id, (x.get? id).1 = .ok none) ∧ ∀ term limit, fitsWord limit = true → (x.find term limit).1 = .ok []) := by
  refine ⟨fun as => ?_, fun as has => ?_⟩
  · obtain ⟨place, hfresh⟩ := hw.exists_keeps
    obtain ⟨table, hkeeps⟩ := hfresh.attemptAll as
    refine ⟨fun clock r hlacks => ?_, fun clock r hr => (hkeeps.withClock clock).exists_upsert_of_whole hr,
      hkeeps.prepareStore_keeps.1, hkeeps.unchanged hkeeps.prepareStore_keeps.2⟩
    obtain ⟨column, hcolumn⟩ := Record.exists_lacking hlacks
    rw [(hkeeps.withClock clock).upsert_of_lacking hcolumn]
    exact ⟨⟨column, hcolumn, rfl⟩, hkeeps.unchanged (hkeeps.withClock clock.tick)⟩
  · obtain ⟨hleft, hpreparable⟩ := hv.attemptAll has
    refine ⟨fun a ha => (hleft.attempt ha).fails, fun hbefore => ?_⟩
    obtain ⟨x, hprepare, hfresh⟩ := hleft.exists_fresh (hleft.isPreparable_iff.mp (hpreparable hbefore))
    exact ⟨x, hprepare, hfresh, hfresh.finds_nothing⟩

/-! ### A shelf before it is prepared -/

/-- A workspace in which nothing has been made yet. -/
def bareShelf : Workspace where
  store := .database shelf

theorem isKeptAt_shelf : Database.IsKeptAt shelf { file := "data/shelf.db" } :=
  ⟨by decide +kernel, rfl, by decide +kernel⟩

theorem isUnprepared_bareShelf : bareShelf.IsUnprepared shelf := by
  refine ⟨rfl, rfl, isKeptAt_shelf.no_null, fun c u table hconnect hc => ?_⟩
  have hplace : Location.place? { file := "data/shelf.db" } bareShelf.tree [] = some ["data", "shelf.db"] :=
    place?_shelf (Or.inl rfl) fun target htarget => by cases htarget
  have hopen := isKeptAt_shelf.connect_eq_ok.mp hconnect
  obtain ⟨-, place, content, hfound, hfile, -⟩ := Database.file_of_openFile hopen hc
  obtain rfl := Option.some.inj (hfound.symm.trans hplace)
  cases hfile

theorem isPreparable_bareShelf : bareShelf.IsPreparable shelf := by
  have hmade : Database.makeDirectories [] shelf.names.length {} shelf.parent =
      (.ok (), ⟨[(["data"], .directory)]⟩) := rfl
  have hplace : Location.place? { file := "data/shelf.db" } ⟨[(["data"], .directory)]⟩ [] = some ["data", "shelf.db"] :=
    place?_shelf (Or.inr rfl) fun target htarget => by cases htarget
  have hopens : Database.openFile ⟨[(["data"], .directory)]⟩ [] { file := "data/shelf.db" } =
      .ok ({ place := some ["data", "shelf.db"], content := some none },
        ⟨[(["data"], .directory), (["data", "shelf.db"], .file (.database none))]⟩) := by
    rw [Database.openFile, hplace]
    rfl
  exact isUnprepared_bareShelf.isPreparable_iff.mpr ⟨_, _, _, _, isKeptAt_shelf, hmade, hopens,
    place?_shelf (Or.inr rfl) fun target htarget => by cases htarget⟩

/-- A card that nothing is written on. -/
def blankCard : Record := { card "x" "" "k" with content := none }

/-- The blank card is refused on a shelf that has such a card, which can still be written again; and on a shelf that has
    not been prepared no card is found before, and none after that. -/
theorem shelf_unchanged_by_failures :
    let full := newShelf.attemptAll [.upsert {} (card "x" "c" "k")]
    let refused := upsert { full with clock := {} } blankCard
    (newShelf.Fresh shelf ∧ bareShelf.IsUnprepared shelf ∧ blankCard.content = none) ∧
    (∃ column, blankCard.lacking? = some column ∧
      refused.1 = .error (.store (.writing (some "x") (.violation (.absent column))))) ∧
    Unchanged shelf full refused.2 ∧
    (∃ isNew, (upsert { full with clock := {} } (card "x" "d" "k")).1 = .ok isNew) ∧
    (∃ fault, (bareShelf.attempt (.get (some "x"))).1 = .error (.store fault)) ∧
    ∃ x, (bareShelf.attemptAll [.get (some "x")]).prepareStore = (.ok (), x) ∧ (x.get? (some "x")).1 = .ok none := by
  intro full refused
  obtain ⟨hkept, hunprepared⟩ := store_unchanged_by_failures fresh_newShelf isUnprepared_bareShelf
  obtain ⟨hlacks, hwhole, -, -⟩ := hkept [.upsert {} (card "x" "c" "k")]
  obtain ⟨hrefused, hunchanged⟩ := hlacks {} blankCard (Or.inl rfl)
  have hget : Attempt.prepare ∉ [Attempt.get (some "x")] := by simp
  obtain ⟨x, hprepare, -, hnone, -⟩ := (hunprepared [.get (some "x")] hget).2 isPreparable_bareShelf
  exact ⟨⟨fresh_newShelf, isUnprepared_bareShelf, rfl⟩, hrefused, hunchanged,
    hwhole {} (card "x" "d" "k") (isWhole_card "x" "d" "k"),
    (hunprepared [] List.not_mem_nil).1 (.get (some "x")) (by simp), x, hprepare, hnone (some "x")⟩

end Workspace

end CodeAtlas
