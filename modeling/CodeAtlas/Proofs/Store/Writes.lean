import CodeAtlas.Proofs.Store.Requests

/-! What a store says, of whichever kind it is, and what a write does to it. A write that succeeds puts the texts of
    its record among those of the store; one that fails leaves them as they are, even where opening the database has
    made a file. -/

namespace CodeAtlas

open FileTree Store

/-! ### Places once something has been made -/

variable {t u : FileTree} {here place : Place} {path : Path} {content : Content} {e : Entry}

theorem Store.Location.admits_put (he : ∀ target, e ≠ .link target) (h : t.entry? place = none) (dir : Place)
    (name : String) : admits (t.put place e) dir name = false ∨ admits (t.put place e) dir name = admits t dir name := by
  have hplace := ne_nil_of_none h
  by_cases hdir : dir = place
  · rw [admits, admits, hdir, entry?_put_self hplace, h]
    cases e with
    | directory => by_cases hsize : name.utf8ByteSize ≤ nameLimit <;> simp [hsize]
    | file content => exact Or.inl (Bool.and_false _)
    | link target => exact absurd rfl (he target)
  · right
    rw [admits, admits, entry?_put_of_ne hdir]

/-- A new entry that is no link can only stand in the way to a place. -/
theorem Store.Location.placeFrom_put (he : ∀ target, e ≠ .link target) (h : t.entry? place = none) (links : Nat)
    (dir : Place) (names : List String) : placeFrom (t.put place e) links dir names = none ∨
      placeFrom (t.put place e) links dir names = placeFrom t links dir names := by
  have hplace := ne_nil_of_none h
  have hlink {p : Place} {target : String} :
      FileTree.entry? (t.put place e) p = some (.link target) ↔ t.entry? p = some (.link target) := by
    by_cases hp : p = place
    · rw [hp, entry?_put_self hplace, h]
      exact ⟨fun hnew => absurd (Option.some.inj hnew) (he target), fun hnone => (by cases hnone)⟩
    · rw [entry?_put_of_ne hp]
  -- The names are walked through in both trees; only a link could lead elsewhere, and the new entry is none.
  fun_induction placeFrom t links dir names with
  | case1 => exact Or.inr (by rw [placeFrom])
  | case2 links dir rest ih =>
    rw [placeFrom.eq_def (t.put place e)]
    exact ih
  | case3 links dir rest hdot ih =>
    rw [placeFrom.eq_def (t.put place e)]
    exact ih
  | case4 dir name rest hdot hdotdot hadmits target hentry =>
    rw [placeFrom.eq_def (t.put place e)]
    simp only [if_neg hdot, if_neg hdotdot, hlink.mpr hentry]
    exact Or.inl (by split <;> rfl)
  | case5 dir name rest hdot hdotdot hadmits target links hentry ih =>
    rw [placeFrom.eq_def (t.put place e)]
    simp only [if_neg hdot, if_neg hdotdot, hlink.mpr hentry]
    split
    · exact ih
    · exact Or.inl rfl
  | case6 dir name rest hdot hdotdot hadmits links hzero hsucc ih =>
    rw [placeFrom.eq_def (t.put place e)]
    simp only [if_neg hdot, if_neg hdotdot]
    split
    · split
      · rename_i hentry
        exact (hzero _ (hlink.mp hentry) rfl).elim
      · rename_i hentry
        exact (hsucc _ _ (hlink.mp hentry) rfl).elim
      · exact ih
    · exact Or.inl rfl
  | case7 links dir name rest hdot hdotdot hadmits =>
    rw [placeFrom.eq_def (t.put place e)]
    simp only [if_neg hdot, if_neg hdotdot]
    rcases admits_put he h dir name with hno | hsame
    · rw [hno]
      exact Or.inl rfl
    · rw [hsame, if_neg hadmits]
      exact Or.inl rfl

/-- A new entry that is no link leads to no other place. -/
theorem Store.Location.place?_of_put {l : Location} {found : Place} (he : ∀ target, e ≠ .link target)
    (h : t.entry? place = none) (hplace : l.place? (t.put place e) here = some found) :
    l.place? t here = some found := by
  unfold place? at hplace ⊢
  dsimp only at hplace ⊢
  rcases placeFrom_put he h linkLimit (if startsAtRoot l.file then [] else here) (targetNames l.file) with hnone | heq
  · rw [hnone] at hplace
    cases hplace
  · rwa [heq] at hplace

namespace Database

/-- What the database at a path says. Where none can be opened, or one without a table, nothing is said. -/
def texts (t : FileTree) (here : Place) (path : Path) : List Texts :=
  match connect t here path with
  | .error _ => []
  | .ok (c, _) => (c.content.join.map Table.texts).getD []

variable {c : Connection} {table : Table}

theorem texts_of_connect (h : connect t here path = .ok (c, u)) (hc : c.content = some (some table)) :
    texts t here path = table.texts := by
  rw [texts, h]
  dsimp only
  rw [hc]
  rfl

/-- The path means no table. -/
def HasNoTable (t : FileTree) (here : Place) (path : Path) : Prop :=
  ∀ c u table, connect t here path = .ok (c, u) → c.content ≠ some (some table)

theorem HasNoTable.texts_eq_nil (h : HasNoTable t here path) : texts t here path = [] := by
  rw [texts]
  split
  · rfl
  · rename_i c u hconnect
    rcases hc : c.content with _ | _ | table
    · rfl
    · rfl
    · exact absurd hc (h c u table hconnect)

/-- A file that was made to be opened holds nothing yet, and opening it again finds no table either. -/
theorem hasNoTable_of_made {l : Location} (hplace : l.place? t here = some place) (hentry : t.entry? place = none)
    (hlocation : Location.ofText path.text = .ok l) : HasNoTable (t.put place (.file (.database none))) here path := by
  intro c u table hconnect hc
  obtain ⟨l', -, hlocation', -, hopen⟩ := location_of_connect hconnect hc
  obtain rfl := Except.ok.inj (hlocation'.symm.trans hlocation)
  obtain ⟨-, place', content, hplace', hfile, rfl⟩ := file_of_openFile hopen hc
  have hbefore := Location.place?_of_put (fun _ => Entry.noConfusion) hentry hplace'
  have hsame : place' = place := Option.some.inj (hbefore.symm.trans hplace)
  rw [hsame, entry?_put_self (ne_nil_of_none hentry)] at hfile
  cases hfile
  cases hc

/-- Opening a database does not bring about a table. -/
theorem HasNoTable.of_connect (h : HasNoTable t here path) (hconnect : connect t here path = .ok (c, u)) :
    HasNoTable u here path := by
  obtain ⟨rfl, -⟩ | ⟨l, hlocation, hopen⟩ := connect_cases hconnect
  · exact h
  · obtain ⟨place, hplace, ⟨_, -, rfl, -⟩ | ⟨hentry, rfl, -⟩⟩ := openFile_cases hopen
    · exact h
    · exact hasNoTable_of_made hplace hentry hlocation

/-- Opening a database leaves what it says as it is. -/
theorem texts_of_opened (h : connect t here path = .ok (c, u)) : texts u here path = texts t here path := by
  obtain ⟨rfl, -⟩ | ⟨l, hlocation, hopen⟩ := connect_cases h
  · rfl
  · obtain ⟨place, hplace, ⟨content, hfile, rfl, -⟩ | ⟨hentry, rfl, rfl⟩⟩ := openFile_cases hopen
    · rfl
    · rw [(hasNoTable_of_made hplace hentry hlocation).texts_eq_nil, texts, h]
      rfl

/-- A record is written to a table that nothing stands in the way of, or nowhere. -/
theorem Connection.upsert_cases (c : Connection) (now : Timestamp) {r : Record} (hr : r.IsWhole) :
    (∃ f, c.upsert now r = .error f) ∨ ∃ table written, c.content = some (some table) ∧ c.hindrance = none ∧
      written.texts = Texts.put table.texts r.texts ∧
      c.upsert now r = .ok (!Texts.known table.texts r.id, some written) := by
  unfold Connection.upsert Connection.writable Connection.readable
  rcases hc : c.content with _ | _ | table
  · exact Or.inl ⟨_, rfl⟩
  · exact Or.inl ⟨_, rfl⟩
  · cases hrefused : refusedText? c.halves r with
    | some f => exact Or.inl ⟨f, rfl⟩
    | none =>
      cases hhindrance : c.hindrance with
      | some fault => exact Or.inl ⟨_, rfl⟩
      | none =>
        obtain ⟨written, hupsert, htexts, -⟩ := table.exists_upsert_of_whole now hr
        refine Or.inr ⟨table, written, rfl, rfl, htexts, ?_⟩
        simp only [Database.upsert, hupsert]

end Database

namespace Workspace

/-- What the store says, of whichever kind it is. -/
def texts (w : Workspace) : List Texts :=
  match w.store with
  | .memory m => m.texts
  | .database path => Database.texts w.tree w.here path

/-- The workspaces have the same store and the same files; their clocks and notes may differ. -/
structure SameStore (w v : Workspace) : Prop where
  tree : v.tree = w.tree
  here : v.here = w.here
  store : v.store = w.store
  halves : v.halves = w.halves

namespace SameStore
variable {w v x : Workspace}

theorem refl (w : Workspace) : SameStore w w := ⟨rfl, rfl, rfl, rfl⟩

theorem trans (h : SameStore w v) (h' : SameStore v x) : SameStore w x :=
  ⟨h'.tree.trans h.tree, h'.here.trans h.here, h'.store.trans h.store, h'.halves.trans h.halves⟩

theorem texts_eq (h : SameStore w v) : v.texts = w.texts := by
  rw [texts, texts, h.store, h.tree, h.here]

end SameStore

theorem sameStore_readClock (w : Workspace) : SameStore w w.readClock.2 := ⟨rfl, rfl, rfl, rfl⟩

variable {w w' : Workspace} {r : Record}

/-- A write that succeeds tells whether the id is new and puts the texts of the record, and one that fails changes
    nothing that is said. -/
theorem upsert_texts {outcome : Except Failure Bool} (hr : r.IsWhole) (h : w.upsert r = (outcome, w')) :
    match outcome with
    | .ok isNew => isNew = !Texts.known w.texts r.id ∧ w'.texts = Texts.put w.texts r.texts
    | .error _ => w'.texts = w.texts := by
  cases hstore : w.store with
  | memory m =>
    obtain ⟨hanswer, hwritten⟩ := @upsert_in_memory w m r hstore
    rw [h] at hanswer hwritten
    obtain rfl : outcome = _ := hanswer
    dsimp only at hwritten ⊢
    rw [texts, texts, hwritten, hstore]
    exact ⟨Memory.upsert_isNew, Memory.texts_upsert⟩
  | database path =>
    dsimp only [upsert] at h
    rw [hstore] at h
    dsimp only [readClock, onDatabase] at h
    have htexts : w.texts = Database.texts w.tree w.here path := by rw [texts, hstore]
    cases hconnect : Database.connect w.tree w.here path with
    | error f =>
      rw [hconnect] at h
      cases h
      exact (sameStore_readClock w).texts_eq
    | ok opened =>
      obtain ⟨c, tree⟩ := opened
      rw [hconnect] at h
      dsimp only at h
      obtain ⟨f, hfails⟩ | ⟨table, written, hc, hfree, hwritten, hupsert⟩ :=
        Database.Connection.upsert_cases { c with halves := w.halves } w.clock.now hr
      · rw [hfails] at h
        cases h
        dsimp only
        rw [htexts, texts, hstore]
        exact Database.texts_of_opened hconnect
      · obtain ⟨rfl, place, rfl⟩ := Database.exists_place_of_connect hconnect hc hfree
        obtain ⟨-, -, hkept⟩ := Database.connect_kept hconnect
        rw [hupsert] at h
        cases h
        have htable : w.texts = table.texts := htexts.trans (Database.texts_of_connect hconnect rfl)
        refine ⟨by rw [htable], ?_⟩
        rw [htable, texts, hstore, ← hwritten]
        exact Database.texts_of_connect (hkept (some written)) rfl

end Workspace

end CodeAtlas
