import CodeAtlas.Proofs.Store.Agreement
import CodeAtlas.Proofs.Store.Directories

/-! How a store in a database fails. The failures of the database itself are all told as those of a store; what is not
    are paths that no file can have, directories that cannot be made, texts that cannot be handed over, and times that
    cannot be read. -/

namespace CodeAtlas

open FileTree Store

/-- The work is done, or it fails as a store does. -/
def FailsAsStore {α : Type} (outcome : Except Failure α) : Prop := ∀ f, outcome = .error f → ∃ fault, f = .store fault

section Outcomes
variable {α : Type} {f : Failure}

theorem failsAsStore_ok (a : α) : FailsAsStore (.ok a : Except Failure α) := fun _ h => by cases h

theorem failsAsStore_error_iff : FailsAsStore (.error f : Except Failure α) ↔ ∃ fault, f = .store fault :=
  ⟨fun h => h f rfl, fun h _ hf => Except.error.inj hf ▸ h⟩

theorem failsAsStore_store (fault : Store.Fault) : FailsAsStore (.error (.store fault) : Except Failure α) :=
  failsAsStore_error_iff.mpr ⟨fault, rfl⟩

theorem not_failsAsStore_error (h : ∀ fault, f ≠ .store fault) : ¬FailsAsStore (.error f : Except Failure α) :=
  fun hfails => (failsAsStore_error_iff.mp hfails).elim h

theorem failsAsStore_map_iff {β : Type} {g : α → β} {outcome : Except Failure α} :
    FailsAsStore (outcome.map g) ↔ FailsAsStore outcome := by
  cases outcome with
  | ok a => exact iff_of_true (failsAsStore_ok (g a)) (failsAsStore_ok a)
  | error f => exact failsAsStore_error_iff.trans failsAsStore_error_iff.symm

end Outcomes

/-- No name of the path ends the text that the system is handed. -/
def Path.HasNoNull (p : Path) : Prop := p.text.toList.contains '\x00' = false

instance (p : Path) : Decidable p.HasNoNull := inferInstanceAs (Decidable (_ = false))

variable {t u : FileTree} {here : Place} {path : Path} {table : Table}

/-! ### Rows -/

namespace Store.Table

theorem isTimed_of_record {row : Row} {r : Record} (h : record row = .ok r) : row.IsTimed := by
  unfold record at h
  split at h
  · cases h
  · rename_i created hcreated
    split at h
    · cases h
    · rename_i updated hupdated
      exact ⟨⟨created, hcreated⟩, ⟨updated, hupdated⟩⟩

theorem isTimed_of_records : ∀ {rows : List Row} {rs : List Record}, records rows = .ok rs → ∀ row ∈ rows, row.IsTimed
  | [], _, _ => fun _ h => by cases h
  | row :: rows, rs, h => by
    unfold records at h
    split at h
    · cases h
    · rename_i r hr
      split at h
      · cases h
      · rename_i rest hrest
        exact List.forall_mem_cons.mpr ⟨isTimed_of_record hr, isTimed_of_records hrest⟩

end Store.Table

namespace Database

theorem failsAsStore_get?_iff {id : String} : FailsAsStore (Database.get? (some table) (some id)) ↔
    ∀ row, table.row? (some id) = some row → row.IsTimed := by
  unfold Database.get?
  dsimp only
  cases hrow : table.row? (some id) with
  | none => exact iff_of_true (failsAsStore_ok none) fun _ h => by cases h
  | some row =>
    dsimp only
    cases hr : Table.record row with
    | ok r => exact iff_of_true (failsAsStore_ok (some r)) fun row' h => Option.some.inj h ▸ Table.isTimed_of_record hr
    | error refusal =>
      refine iff_of_false (not_failsAsStore_error fun _ h => by cases h) fun h => ?_
      obtain ⟨r, hread, -⟩ := Table.record_of_timed (h row rfl)
      rw [hr] at hread
      cases hread

theorem handed_eq {halves : Bool} {s : String} :
    (if halves then (Text.Surrogate.refusal? s.toList).map Failure.unencodable else none) =
      (if halves then Text.Surrogate.refusal? s.toList else none).map Failure.unencodable := by
  cases halves <;> rfl

theorem failsAsStore_find_iff {term : String} {limit : Nat} (hlimit : limit < 2 ^ 63) :
    FailsAsStore (Database.find (some table) (some term) limit) ↔
      ∀ row ∈ table.matching (some term) limit, row.IsTimed := by
  unfold Database.find
  dsimp only
  rw [if_pos (fitsWord_natCast hlimit)]
  cases hrs : Table.records (table.matching (some term) limit) with
  | ok rs => exact iff_of_true (failsAsStore_ok rs) (Table.isTimed_of_records hrs)
  | error refusal =>
    refine iff_of_false (not_failsAsStore_error fun _ h => by cases h) fun h => ?_
    obtain ⟨rs, hread, -⟩ := Table.records_of_timed h
    rw [hrs] at hread
    cases hread

/-! ### Opening -/

theorem failsAsStore_connect_iff : FailsAsStore (connect t here path) ↔ path.HasNoNull := by
  unfold connect Path.HasNoNull
  cases hnull : path.text.toList.contains '\x00' with
  | true =>
    rw [if_pos rfl]
    exact iff_of_false (not_failsAsStore_error fun _ h => by cases h) Bool.noConfusion
  | false =>
    rw [if_neg Bool.false_ne_true]
    refine iff_of_true (fun f hf => ?_) rfl
    cases hopen : openText t here path.text with
    | ok opened =>
      rw [hopen] at hf
      cases hf
    | error fault =>
      rw [hopen] at hf
      exact ⟨_, (Except.error.inj hf).symm⟩

/-- Preparing is done or fails as a store does exactly if some file can have the path and its directory is there then. -/
theorem failsAsStore_prepare_iff : FailsAsStore (prepare t here path).1 ↔
    path.HasNoNull ∧ (prepare t here path).2.isDirectory here path.parent = .ok true := by
  obtain ⟨made, u, hmade⟩ : ∃ made u, makeDirectories here path.names.length t path.parent = (made, u) := ⟨_, _, rfl⟩
  cases made with
  | error f =>
    have hprepare : prepare t here path = (.error (.file f), u) := by rw [prepare, hmade]
    rw [hprepare]
    exact iff_of_false (not_failsAsStore_error fun _ h => by cases h) fun h => not_isDirectory_of_makeDirectories hmade h.2
  | ok done =>
    have hdirectory := isDirectory_of_makeDirectories hmade
    cases hconnect : connect u here path with
    | error f =>
      have hprepare : prepare t here path = (.error f, u) := by
        rw [prepare, hmade]
        dsimp only
        rw [hconnect]
      have hopen := @failsAsStore_connect_iff u here path
      rw [hconnect] at hopen
      rw [hprepare, and_iff_left hdirectory, ← hopen]
      exact failsAsStore_error_iff.trans failsAsStore_error_iff.symm
    | ok opened =>
      obtain ⟨c, v⟩ := opened
      have hnull : path.HasNoNull := by
        rw [← @failsAsStore_connect_iff u here, hconnect]
        exact failsAsStore_ok (c, v)
      cases htable : c.withTable with
      | error fault =>
        have hprepare : prepare t here path = (.error (.store (.initializing fault)), v) := by
          rw [prepare, hmade]
          dsimp only
          rw [hconnect]
          dsimp only
          rw [htable]
        rw [hprepare]
        exact iff_of_true (failsAsStore_store _)
          ⟨hnull, isDirectory_of_extends (extends_of_connect hconnect).1 hdirectory⟩
      | ok db =>
        have hprepare : prepare t here path = (.ok (), kept c.place db v) := by
          rw [prepare, hmade]
          dsimp only
          rw [hconnect]
          dsimp only
          rw [htable]
        have hprepared := isDirectory_of_prepare hprepare
        rw [hprepare]
        exact iff_of_true (failsAsStore_ok ()) ⟨hnull, hprepared⟩

/-! ### Open databases -/

namespace Connection
variable {c : Connection}

/-- A text with halves of pairs cannot be handed to a database. -/
def Takes (halves : Bool) (s : String) : Prop := halves = true → Text.Surrogate.refusal? s.toList = none

theorem takes_iff {halves : Bool} {s : String} :
    Takes halves s ↔ (if halves then Text.Surrogate.refusal? s.toList else none) = none := by
  cases halves with
  | true => exact ⟨fun h => h rfl, fun h _ => h⟩
  | false => exact iff_of_true (fun h => by cases h) rfl

theorem failsAsStore_find_iff {term : String} {limit : Nat} (hlimit : limit < 2 ^ 63) :
    FailsAsStore (c.find (some term) limit) ↔ ∀ table, c.content = some (some table) →
      Takes c.halves term ∧ ∀ row ∈ table.matching (some term) limit, row.IsTimed := by
  obtain ⟨place, content, hindrance, halves⟩ := c
  unfold find
  rcases content with _ | _ | table
  · exact iff_of_true (failsAsStore_store _) fun _ h => by cases h
  · exact iff_of_true (failsAsStore_store _) fun _ h => by cases h
  · simp only [readable, handingFault?, Option.bind_some, handed_eq, Option.some.injEq, forall_eq', takes_iff]
    cases (if halves = true then Text.Surrogate.refusal? term.toList else none) with
    | some refusal => exact iff_of_false (not_failsAsStore_error fun _ h => by cases h) fun h => by cases h.1
    | none => exact (Database.failsAsStore_find_iff hlimit).trans (and_iff_right rfl).symm

theorem failsAsStore_idOfDatabase_iff {id : String} :
    FailsAsStore (Query.idOfDatabase (.text id) c) ↔ ∀ table, c.content = some (some table) →
      Takes c.halves id ∧ ∀ row, table.row? (some id) = some row → row.IsTimed := by
  obtain ⟨place, content, hindrance, halves⟩ := c
  unfold Query.idOfDatabase
  rcases content with _ | _ | table
  · exact iff_of_true (failsAsStore_store _) fun _ h => by cases h
  · exact iff_of_true (failsAsStore_store _) fun _ h => by cases h
  · simp only [readable, Query.handingFault?, handed_eq, Option.some.injEq, forall_eq', takes_iff]
    cases (if halves = true then Text.Surrogate.refusal? id.toList else none) with
    | some refusal => exact iff_of_false (not_failsAsStore_error fun _ h => by cases h) fun h => by cases h.1
    | none => exact Database.failsAsStore_get?_iff.trans (and_iff_right rfl).symm

end Connection

end Database

namespace Workspace

open Database

variable {w : Workspace} {α : Type} {work : Connection → Except Failure (α × Option Database)}

theorem failsAsStore_onDatabase_iff : FailsAsStore (w.onDatabase path work).1 ↔
    path.HasNoNull ∧ ∀ c u, connect w.tree w.here path = .ok (c, u) → FailsAsStore (work { c with halves := w.halves }) := by
  have hopen := @failsAsStore_connect_iff w.tree w.here path
  unfold onDatabase
  cases hconnect : connect w.tree w.here path with
  | error f =>
    rw [hconnect] at hopen
    rw [← hopen, and_iff_left fun c u h => by cases h]
    exact failsAsStore_error_iff.trans failsAsStore_error_iff.symm
  | ok opened =>
    obtain ⟨c, u⟩ := opened
    rw [hconnect] at hopen
    have honly : (∀ c' u', (Except.ok (c, u) : Except Failure _) = .ok (c', u') →
        FailsAsStore (work { c' with halves := w.halves })) ↔ FailsAsStore (work { c with halves := w.halves }) := by
      refine ⟨fun h => h c u rfl, fun h c' u' heq => ?_⟩
      obtain ⟨rfl, rfl⟩ := Prod.mk.inj (Except.ok.inj heq)
      exact h
    rw [honly, and_iff_right (hopen.mp (failsAsStore_ok _))]
    dsimp only
    cases hwork : work { c with halves := w.halves } with
    | error f => exact failsAsStore_error_iff.trans failsAsStore_error_iff.symm
    | ok done =>
      obtain ⟨a, _ | db⟩ := done
      · exact iff_of_true (failsAsStore_ok a) (failsAsStore_ok _)
      · exact iff_of_true (failsAsStore_ok a) (failsAsStore_ok _)

/-- Opening the path finds the table. -/
def Finds (w : Workspace) (path : Path) (table : Table) : Prop :=
  ∃ c u, connect w.tree w.here path = .ok (c, u) ∧ c.content = some (some table)

theorem forall_finds_iff {p : Table → Prop} :
    (∀ c u, connect w.tree w.here path = .ok (c, u) → ∀ table, c.content = some (some table) → p table) ↔
      ∀ table, w.Finds path table → p table :=
  ⟨fun h table ⟨c, u, hconnect, hcontent⟩ => h c u hconnect table hcontent,
    fun h c u hconnect table hcontent => h table ⟨c, u, hconnect, hcontent⟩⟩

/-- Where a table is kept it is the one that is found. -/
theorem Keeps.finds_iff {place : Place} (h : Keeps w path place table) {found : Table} :
    w.Finds path found ↔ found = table := by
  constructor
  · rintro ⟨c, u, hconnect, hcontent⟩
    rw [h.opened] at hconnect
    obtain ⟨rfl, -⟩ := Prod.mk.inj (Except.ok.inj hconnect)
    exact (Option.some.inj (Option.some.inj hcontent)).symm
  · rintro rfl
    exact ⟨_, _, h.opened, rfl⟩

/-- When a store in a database does what it is asked or fails as a store does: to be prepared, if some file can have its
    path and its directory is there in the end; to look up, if besides, where a table is found, the database takes the
    text that is looked for and the times can be read of all rows that are to be given. -/
theorem database_fails_as_store (hstore : w.store = .database path) :
    (FailsAsStore w.prepareStore.1 ↔
      path.HasNoNull ∧ w.prepareStore.2.tree.isDirectory w.here path.parent = .ok true) ∧
    (∀ id, FailsAsStore (w.getBy (.text id)).1 ↔ path.HasNoNull ∧ ∀ table, w.Finds path table →
      Connection.Takes w.halves id ∧ ∀ row, table.row? (some id) = some row → row.IsTimed) ∧
    ∀ (term : String) (limit : Nat), limit < 2 ^ 63 → (FailsAsStore (w.find (some term) limit).1 ↔
      path.HasNoNull ∧ ∀ table, w.Finds path table →
        Connection.Takes w.halves term ∧ ∀ row ∈ table.matching (some term) limit, row.IsTimed) := by
  obtain ⟨tree, here, store, clock, journal, halves⟩ := w
  obtain rfl : store = .database path := hstore
  refine ⟨failsAsStore_prepare_iff, fun id => ?_, fun term limit hlimit => ?_⟩
  · refine failsAsStore_onDatabase_iff.trans (and_congr_right fun _ => ?_)
    simp only [failsAsStore_map_iff, Connection.failsAsStore_idOfDatabase_iff]
    exact forall_finds_iff (w := ⟨tree, here, .database path, clock, journal, halves⟩)
  · refine failsAsStore_onDatabase_iff.trans (and_congr_right fun _ => ?_)
    simp only [failsAsStore_map_iff, Connection.failsAsStore_find_iff hlimit]
    exact forall_finds_iff (w := ⟨tree, here, .database path, clock, journal, halves⟩)

/-- A card that was put into the table without the store. -/
def timedCard : Row := ⟨some "x", "", "", "k", "2024-01-01T00:00:00", "2024-01-01T00:00:00"⟩

/-- Another one, with times that are none. -/
def untimedCard : Row := ⟨some "y", "", "", "l", "yesterday", "yesterday"⟩

def foreignCards : Table := ⟨[timedCard, untimedCard]⟩

/-- The shelf with foreign cards. -/
def foreignShelf : Workspace :=
  { newShelf with tree := kept (some ["data", "shelf.db"]) (some foreignCards) newShelf.tree }

theorem connect_foreignShelf : connect foreignShelf.tree foreignShelf.here shelf =
    .ok ({ place := some ["data", "shelf.db"], content := some (some foreignCards) }, foreignShelf.tree) := by
  obtain ⟨content, -, hkept⟩ := connect_kept connect_newShelf
  exact hkept (some foreignCards)

theorem keeps_foreignShelf : foreignShelf.Keeps shelf ["data", "shelf.db"] foreignCards :=
  ⟨rfl, rfl, rfl, connect_foreignShelf⟩

theorem finds_foreignShelf_iff {table : Table} : foreignShelf.Finds shelf table ↔ table = foreignCards :=
  keeps_foreignShelf.finds_iff

theorem isTimed_timedCard : timedCard.IsTimed :=
  ⟨⟨⟨2024, 1, 1, 0, 0, 0, 0, none⟩, by decide +kernel⟩, ⟨⟨2024, 1, 1, 0, 0, 0, 0, none⟩, by decide +kernel⟩⟩

theorem ofText_yesterday : Timestamp.ofText "yesterday" = .error (.malformed "yesterday") := by decide +kernel

theorem not_isTimed_untimedCard : ¬untimedCard.IsTimed := fun h => by
  obtain ⟨t, ht⟩ := h.created
  rw [untimedCard, ofText_yesterday] at ht
  cases ht

theorem foreignShelf_fails_as_store : FailsAsStore foreignShelf.prepareStore.1 ∧
    FailsAsStore (foreignShelf.getBy (.text "x")).1 ∧ ¬FailsAsStore (foreignShelf.getBy (.text "y")).1 ∧
    FailsAsStore (foreignShelf.find (some "k") 3).1 ∧ ¬FailsAsStore (foreignShelf.find (some "l") 3).1 := by
  obtain ⟨hprepare, hget, hfind⟩ := @database_fails_as_store shelf foreignShelf rfl
  have hnull : shelf.HasNoNull := by decide +kernel
  have htakes : ∀ s, Connection.Takes foreignShelf.halves s := fun s h => absurd h Bool.false_ne_true
  have hmatching : foreignCards.matching (some "k") 3 = [timedCard] ∧
      foreignCards.matching (some "l") 3 = [untimedCard] := by decide +kernel
  simp only [finds_foreignShelf_iff, forall_eq, htakes, true_and, hnull] at hget hfind
  refine ⟨hprepare.mpr ⟨hnull, ?_⟩, (hget "x").mpr fun row hrow => ?_, fun h => ?_,
    (hfind "k" 3 (by decide)).mpr fun row hrow => ?_, fun h => ?_⟩
  · rw [keeps_foreignShelf.prepareStore_eq]
    exact (keeps_foreignShelf.write foreignCards).directory
  · cases hrow
    exact isTimed_timedCard
  · exact not_isTimed_untimedCard ((hget "y").mp h _ rfl)
  · obtain rfl := List.mem_singleton.mp (hmatching.1 ▸ hrow)
    exact isTimed_timedCard
  · exact not_isTimed_untimedCard ((hfind "l" 3 (by decide)).mp h _ (hmatching.2 ▸ List.mem_singleton_self _))

/-- A card whose times cannot be read, and a file where the directory of the database should be: neither failure is one
    of a store. -/
theorem exists_other_failures :
    (foreignShelf.getBy (.text "y")).1 = .error (.timestamp (.malformed "yesterday")) ∧
    (foreignShelf.find (some "l") 3).1 = .error (.timestamp (.malformed "yesterday")) ∧
    (prepareStore { tree := ⟨[(["data"], .file (.octets []))]⟩, store := .database shelf }).1 =
      .error (.file ⟨.exists, "data"⟩) := by
  refine ⟨?_, ?_, rfl⟩
  · change (foreignShelf.onDatabase shelf _).1 = _
    unfold onDatabase
    rw [connect_foreignShelf]
    cbv
  · change (foreignShelf.onDatabase shelf _).1 = _
    unfold onDatabase
    rw [connect_foreignShelf]
    cbv

end Workspace

end CodeAtlas
