import CodeAtlas.Proofs.FileTree.Follow
import CodeAtlas.Proofs.Store.Texts
import CodeAtlas.Store.Database

/-! A database in a file of a tree. Once it has been prepared, preparing it again finds everything in its place,
    and what is left in the file is what is opened the next time. -/

namespace CodeAtlas

open FileTree Store

variable {t u : FileTree} {here : Place} {path : Path}

/-! ### Directories -/

theorem Path.names_eq (h : path.names ≠ []) : path.parent.names ++ [path.name] = path.names := by
  rw [parent, name, List.getLast?_eq_some_getLast h]
  exact List.dropLast_concat_getLast h

namespace Database

/-- A directory is made in one that is there, under a name that stands for itself and has not been given yet. -/
theorem makeDirectory_eq_ok (h : makeDirectory t here path = .ok u) : ∃ place text,
    t.locate here false path = .error ⟨.missing, text⟩ ∧ t.locate here true path.parent = .ok ⟨place, .directory⟩ ∧
      path.names ≠ [] ∧ t.entry? (place ++ [path.name]) = none ∧ path.name ≠ "." ∧ path.name ≠ ".." ∧
      path.name.utf8ByteSize ≤ nameLimit ∧ u = t.put (place ++ [path.name]) .directory := by
  unfold makeDirectory at h
  split at h
  · cases h
  · rename_i text hmissing
    obtain ⟨-, -, hfollow⟩ := locate_eq_missing hmissing
    split at h
    · rename_i place hlocate
      obtain ⟨-, -, hparent⟩ := locate_eq_ok_iff.mp hlocate
      split at h
      · cases h
      · obtain rfl := Except.ok.inj h
        have hnames : path.names ≠ [] := fun hnil => by
          rw [hnil] at hfollow
          cases hfollow
        rw [← Path.names_eq hnames] at hfollow
        obtain ⟨hnone, hdot, hdotdot, hsize⟩ := entry?_of_last_missing hparent hfollow
        exact ⟨place, text, hmissing, hlocate, hnames, hnone, hdot, hdotdot, hsize, rfl⟩
    · cases h
    · cases h
  · cases h

/-- A directory that was made is there. -/
theorem isDirectory_of_makeDirectory (h : makeDirectory t here path = .ok u) :
    u.isDirectory here path = .ok true := by
  obtain ⟨place, text, hmissing, hparent, hnames, hnone, hdot, hdotdot, hsize, rfl⟩ := makeDirectory_eq_ok h
  obtain ⟨hnull, hlong, -⟩ := locate_eq_missing hmissing
  obtain ⟨-, -, hparent⟩ := locate_eq_ok_iff.mp hparent
  -- The last name was missing in a directory, where the new one is found under it now.
  have hplace : place ++ [path.name] ≠ [] := List.append_ne_nil_of_right_ne_nil _ (List.cons_ne_nil _ _)
  obtain ⟨⟨place', e⟩, hparent', hlike, hentry⟩ := follow_kept (extends_put hnone) hparent
  obtain rfl : place' = place := hlike
  obtain rfl : e = .directory := Entry.outline_eq_directory.mp hentry
  have hfound := follow_last hparent' hdot hdotdot hsize (entry?_put_self hplace)
  rw [Path.names_eq hnames] at hfound
  exact isDirectory_eq_true_iff.mpr ⟨_, locate_eq_ok_iff.mpr ⟨hnull, hlong, hfound⟩⟩

theorem isDirectory_of_unlessDirectory {f : FileFault} (h : unlessDirectory t here path f = .ok ()) :
    t.isDirectory here path = .ok true := by
  unfold unlessDirectory at h
  split at h
  · assumption
  · cases h
  · cases h

theorem isDirectory_of_makeDirectories {depth : Nat} (h : makeDirectories here depth t path = (.ok (), u)) :
    u.isDirectory here path = .ok true := by
  unfold makeDirectories at h
  split at h
  · rename_i made
    cases h
    exact isDirectory_of_makeDirectory made
  · split at h
    · cases h
    · split at h
      · cases h
      · split at h
        · cases h
        · split at h
          · rename_i made
            cases h
            exact isDirectory_of_makeDirectory made
          · cases h
          · obtain ⟨hdone, rfl⟩ := Prod.mk.inj h
            exact isDirectory_of_unlessDirectory hdone
  · obtain ⟨hdone, rfl⟩ := Prod.mk.inj h
    exact isDirectory_of_unlessDirectory hdone

/-- Where a directory is, none has to be made. -/
theorem makeDirectories_of_isDirectory (h : t.isDirectory here path = .ok true) (depth : Nat) :
    makeDirectories here depth t path = (.ok (), t) := by
  obtain ⟨a, ha⟩ := exists_locate_of_isDirectory h
  have hexists : makeDirectory t here path = .error ⟨.exists, path.text⟩ := by rw [makeDirectory, ha]
  unfold makeDirectories
  rw [hexists]
  simp only [unlessDirectory, h]

end Database

/-! ### The place of the file -/

/-- A name that stands for itself leads on, unless there is a link. -/
theorem Store.Location.placeFrom_name {links : Nat} {dir : Place} {name : String} {rest : List String}
    (hdot : name ≠ ".") (hdotdot : name ≠ "..") (hadmits : admits t dir name = true)
    (hlink : ∀ target, t.entry? (dir ++ [name]) ≠ some (.link target)) :
    placeFrom t links dir (name :: rest) = placeFrom t links (dir ++ [name]) rest := by
  rw [placeFrom.eq_def]
  simp only [if_neg hdot, if_neg hdotdot, if_pos hadmits]
  split
  · exact absurd ‹_› (hlink _)
  · exact absurd ‹_› (hlink _)
  · rfl

theorem Store.Location.admits_of_sameOutline (h : SameOutline t u) (dir : Place) (name : String) :
    admits u dir name = admits t dir name := by
  have hdir := h dir
  unfold admits
  cases ht : t.entry? dir with
  | none =>
    rw [ht] at hdir
    rw [Option.map_eq_none_iff.mp hdir]
  | some e =>
    rw [ht] at hdir
    obtain ⟨e', he', hlike⟩ := Option.map_eq_some_iff.mp hdir
    rw [he']
    cases e <;> cases e' <;> first | rfl | cases hlike

theorem Store.Location.placeFrom_of_sameOutline (h : SameOutline t u) (links : Nat) (dir : Place)
    (names : List String) : placeFrom u links dir names = placeFrom t links dir names := by
  fun_induction placeFrom t links dir names with
  | case1 => rw [placeFrom]
  | case2 links dir rest ih =>
    rw [placeFrom.eq_def u]
    exact ih
  | case3 links dir rest hdot ih =>
    rw [placeFrom.eq_def u]
    exact ih
  | case4 dir name rest hdot hdotdot hadmits target hlink =>
    rw [placeFrom.eq_def u]
    simp only [if_neg hdot, if_neg hdotdot, admits_of_sameOutline h, if_pos hadmits, h.link_iff.mpr hlink]
  | case5 dir name rest hdot hdotdot hadmits target links hlink ih =>
    rw [placeFrom.eq_def u]
    simp only [if_neg hdot, if_neg hdotdot, admits_of_sameOutline h, if_pos hadmits, h.link_iff.mpr hlink]
    exact ih
  | case6 dir name rest hdot hdotdot hadmits links hzero hsucc ih =>
    rw [placeFrom.eq_def u]
    simp only [if_neg hdot, if_neg hdotdot, admits_of_sameOutline h, if_pos hadmits]
    split
    · rename_i hlink
      exact (hzero _ (h.link_iff.mp hlink) rfl).elim
    · rename_i hlink
      exact (hsucc _ _ (h.link_iff.mp hlink) rfl).elim
    · exact ih
  | case7 links dir name rest hdot hdotdot hadmits =>
    rw [placeFrom.eq_def u]
    simp only [if_neg hdot, if_neg hdotdot, admits_of_sameOutline h, if_neg hadmits]

namespace Database

variable {place : Place} {table : Table}

/-- Why nothing can be written to the file of a location at a place, if so. -/
def hindranceAt (l : Location) (place : Place) : Option DatabaseFault :=
  (if l.access = .readOnly || l.isFixed then some DatabaseFault.readOnly else none).or
    (if Location.hasRoomBeside place then none else some .unavailable)

theorem openFile_of_file {l : Location} {content : Content} (hplace : l.place? t here = some place)
    (hfile : t.entry? place = some (.file content)) : openFile t here l =
      .ok ({ place := some place, content := ofContent content, hindrance := hindranceAt l place }, t) := by
  unfold openFile
  rw [hplace]
  dsimp only
  rw [hfile]
  rfl

/-- A file is opened as it is, or it is made and holds nothing yet. -/
theorem openFile_cases {l : Location} {c : Connection} (h : openFile t here l = .ok (c, u)) :
    ∃ place, l.place? t here = some place ∧
      ((∃ content, t.entry? place = some (.file content) ∧ u = t ∧
        c = { place := some place, content := ofContent content, hindrance := hindranceAt l place }) ∨
      t.entry? place = none ∧ u = t.put place (.file (.database none)) ∧
        c = { place := some place, content := some none, hindrance := hindranceAt l place }) := by
  unfold openFile at h
  cases hplace : l.place? t here with
  | none =>
    rw [hplace] at h
    cases h
  | some place =>
    rw [hplace] at h
    dsimp only at h
    refine ⟨place, rfl, ?_⟩
    cases hentry : t.entry? place with
    | none =>
      rw [hentry] at h
      dsimp only at h
      split at h
      · cases h
        exact Or.inr ⟨rfl, rfl, rfl⟩
      · cases h
    | some e =>
      rw [hentry] at h
      cases e with
      | file content =>
        cases h
        exact Or.inl ⟨content, rfl, rfl, rfl⟩
      | directory | link target => cases h

/-- Where a table is opened there is a file, and nothing is changed by opening it. -/
theorem file_of_openFile {l : Location} {c : Connection} (h : openFile t here l = .ok (c, u))
    (hc : c.content = some (some table)) : u = t ∧ ∃ place content, l.place? t here = some place ∧
      t.entry? place = some (.file content) ∧
      c = { place := some place, content := ofContent content, hindrance := hindranceAt l place } := by
  obtain ⟨place, hplace, ⟨content, hfile, rfl, rfl⟩ | ⟨-, -, rfl⟩⟩ := openFile_cases h
  · exact ⟨rfl, place, content, hplace, hfile, rfl⟩
  · cases hc

theorem place?_of_sameOutline (h : SameOutline t u) (l : Location) : l.place? u here = l.place? t here := by
  unfold Location.place?
  dsimp only
  rw [Location.placeFrom_of_sameOutline h]

theorem connect_of_location {l : Location} (hnull : path.text.toList.contains '\x00' = false)
    (hlocation : Location.ofText path.text = .ok l) (hkept : l.isPassing = false) :
    connect t here path = (openFile t here l).mapError fun fault => .store (.opening path fault) := by
  unfold connect openText
  rw [hnull, hlocation]
  dsimp only
  rw [hkept]
  rfl

/-- A table is found only in a location that is not forgotten. -/
theorem location_of_connect {c : Connection} (h : connect t here path = .ok (c, u))
    (hc : c.content = some (some table)) : ∃ l, path.text.toList.contains '\x00' = false ∧
      Location.ofText path.text = .ok l ∧ l.isPassing = false ∧ openFile t here l = .ok (c, u) := by
  cases hnull : path.text.toList.contains '\x00' with
  | true =>
    rw [connect, if_pos hnull] at h
    cases h
  | false =>
    cases hlocation : Location.ofText path.text with
    | error fault =>
      rw [connect, hnull, openText, hlocation] at h
      cases h
    | ok l =>
      cases hpassing : l.isPassing with
      | true =>
        rw [connect, hnull, openText, hlocation] at h
        dsimp only at h
        rw [hpassing] at h
        obtain ⟨rfl, -⟩ := Prod.mk.inj (Except.ok.inj h)
        cases hc
      | false =>
        rw [connect_of_location hnull hlocation hpassing] at h
        cases hopen : openFile t here l with
        | error fault =>
          rw [hopen] at h
          cases h
        | ok opened =>
          rw [hopen] at h
          exact ⟨l, rfl, rfl, hpassing, hopen.trans (congrArg Except.ok (Except.ok.inj h))⟩

theorem exists_place_of_connect {c : Connection} (h : connect t here path = .ok (c, u))
    (hc : c.content = some (some table)) (hw : c.hindrance = none) :
    u = t ∧ ∃ place, c = { place := some place, content := some (some table) } := by
  obtain ⟨l, -, -, -, hopen⟩ := location_of_connect h hc
  obtain ⟨rfl, place, content, -, -, rfl⟩ := file_of_openFile hopen hc
  have hcontent : ofContent content = some (some table) := hc
  have hhindrance : hindranceAt l place = none := hw
  exact ⟨rfl, place, by rw [hcontent, hhindrance]⟩

/-- What is left in a file is in it when it is opened the next time. -/
theorem connect_kept (h : connect t here path = .ok ({ place := some place, content := some (some table) }, t)) :
    ∃ content, t.entry? place = some (.file content) ∧ ∀ db, connect (kept (some place) db t) here path =
      .ok ({ place := some place, content := some db }, kept (some place) db t) := by
  obtain ⟨l, hnull, hlocation, hpassing, hopen⟩ := location_of_connect h rfl
  obtain ⟨-, found, content, hplace, hfile, hconnection⟩ := file_of_openFile hopen rfl
  obtain ⟨hfound, -, hhindrance, -⟩ := Connection.mk.inj hconnection
  obtain rfl := Option.some.inj hfound
  refine ⟨content, hfile, fun db => ?_⟩
  have hplace' : l.place? (kept (some place) db t) here = some place := by
    rw [kept, place?_of_sameOutline (sameOutline_put hfile), hplace]
  have hfile' : FileTree.entry? (kept (some place) db t) place = some (.file (.database db)) :=
    entry?_put_self (ne_nil_of_file hfile)
  rw [connect_of_location hnull hlocation hpassing, openFile_of_file hplace' hfile', ← hhindrance]
  rfl

/-- A database is opened nowhere, or in a file. -/
theorem connect_cases {c : Connection} (h : connect t here path = .ok (c, u)) : (u = t ∧ c.place = none) ∨
    ∃ l, Location.ofText path.text = .ok l ∧ openFile t here l = .ok (c, u) := by
  unfold connect at h
  split at h
  · cases h
  · cases hopen : openText t here path.text with
    | error fault =>
      rw [hopen] at h
      cases h
    | ok opened =>
      rw [hopen] at h
      obtain rfl := Except.ok.inj h
      unfold openText at hopen
      split at hopen
      · cases hopen
      · rename_i l hlocation
        split at hopen
        · cases hopen
          exact Or.inl ⟨rfl, rfl⟩
        · exact Or.inr ⟨l, hlocation, hopen⟩

/-- Opening takes nothing away, and a place that is opened is one of a file. -/
theorem extends_of_connect {c : Connection} (h : connect t here path = .ok (c, u)) :
    Extends t u ∧ ∀ place, c.place = some place → ∃ content, u.entry? place = some (.file content) := by
  obtain ⟨rfl, hnowhere⟩ | ⟨l, -, hopen⟩ := connect_cases h
  · exact ⟨Extends.refl u, fun place hplace => by rw [hnowhere] at hplace; cases hplace⟩
  · obtain ⟨place, -, ⟨content, hfile, rfl, rfl⟩ | ⟨hentry, rfl, rfl⟩⟩ := openFile_cases hopen
    · exact ⟨Extends.refl u, fun found hfound => Option.some.inj hfound ▸ ⟨content, hfile⟩⟩
    · exact ⟨extends_put hentry, fun found hfound => Option.some.inj hfound ▸
        ⟨_, entry?_put_self (ne_nil_of_none hentry)⟩⟩

/-! ### Looking up -/

theorem fitsWord_natCast {n : Nat} (h : n < 2 ^ 63) : fitsWord n = true := by
  have hlow : -(2 ^ 63 : Int) ≤ n := Int.le_trans (by decide) (Int.natCast_nonneg n)
  have hhigh : (n : Int) < 2 ^ 63 := by exact_mod_cast h
  rw [fitsWord, decide_eq_true hlow, decide_eq_true hhigh]
  rfl

theorem find_of_timed {term : String} {limit : Nat} (h : ∀ row ∈ table.rows, row.IsTimed) (hlimit : limit < 2 ^ 63) :
    ∃ rs, Database.find (some table) (some term) limit = .ok rs ∧
      rs.map Record.texts = Texts.find table.texts term limit := by
  obtain ⟨rs, hrs, hmap⟩ := Table.records_of_timed fun row hrow => h row (Table.mem_of_mem_matching hrow)
  refine ⟨rs, ?_, hmap.trans Table.texts_matching⟩
  unfold Database.find
  dsimp only
  rw [if_pos (fitsWord_natCast hlimit), hrs]
  rfl

theorem get?_of_timed (id : String) (h : ∀ row ∈ table.rows, row.IsTimed) :
    ∃ found, Database.get? (some table) (some id) = .ok found ∧
      found.map Record.texts = Texts.get? table.texts (some id) := by
  rw [← Table.texts_row?]
  unfold Database.get?
  dsimp only
  cases hrow : table.row? (some id) with
  | none => exact ⟨none, rfl, rfl⟩
  | some row =>
    obtain ⟨r, hr, htexts⟩ := Table.record_of_timed (h row (Table.mem_of_row? hrow))
    refine ⟨some r, ?_, congrArg some htexts⟩
    dsimp only
    rw [hr]
    rfl

/-! ### Preparing -/

/-- A database has been prepared when its directory could be made, it could be opened there and took its table. -/
theorem prepare_eq_ok (h : prepare t here path = (.ok (), u)) : ∃ made c opened db,
    makeDirectories here path.names.length t path.parent = (.ok (), made) ∧
      connect made here path = .ok (c, opened) ∧ c.withTable = .ok db ∧ u = kept c.place db opened := by
  unfold prepare at h
  split at h
  · cases h
  · rename_i made hmade
    split at h
    · cases h
    · rename_i c opened hconnect
      split at h
      · cases h
      · rename_i db htable
        cases h
        exact ⟨made, c, opened, db, hmade, hconnect, htable, rfl⟩

/-- Where a database has been prepared its directory is there. -/
theorem isDirectory_of_prepare (h : prepare t here path = (.ok (), u)) :
    u.isDirectory here path.parent = .ok true := by
  obtain ⟨made, c, opened, db, hmade, hconnect, -, rfl⟩ := prepare_eq_ok h
  -- Neither opening the file nor writing it takes the directory away.
  obtain ⟨hextends, hfile⟩ := extends_of_connect hconnect
  have hopened := isDirectory_of_extends hextends (isDirectory_of_makeDirectories hmade)
  cases hplace : c.place with
  | none => exact hopened
  | some place =>
    obtain ⟨content, hcontent⟩ := hfile place hplace
    exact isDirectory_of_extends (sameOutline_put hcontent).extends hopened

/-- Preparing a database again leaves its table as it is. -/
theorem prepare_of_connect (hdir : t.isDirectory here path.parent = .ok true)
    (h : connect t here path = .ok ({ place := some place, content := some (some table) }, t)) :
    prepare t here path = (.ok (), kept (some place) (some table) t) := by
  rw [prepare, makeDirectories_of_isDirectory hdir]
  dsimp only
  rw [h]
  rfl

end Database

end CodeAtlas
