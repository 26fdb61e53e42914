import CodeAtlas.Proofs.FileTree.SameBut
import CodeAtlas.Proofs.Store.Writes

/-! The same database in two trees. Trees that differ only in what files hold keep a database at the same place; if it
    is opened as the same there, so it is after each write, wherever else the trees differ. -/

namespace CodeAtlas

open FileTree Store

variable {may : Place → Content → Content → Prop} {t u : FileTree} {here place : Place} {path : Path}
  {content old new : Content} {l : Location}

theorem FileTree.SameOutline.directory_iff (h : SameOutline t u) :
    u.entry? place = some .directory ↔ t.entry? place = some .directory := by
  have houtline : ∀ t : FileTree, t.entry? place = some .directory ↔
      (t.entry? place).map Entry.outline = some .directory := fun t => by
    simp [Option.map_eq_some_iff, Entry.outline_eq_directory]
  rw [houtline u, h place, ← houtline t]

namespace Database

/-- The path means the same database in both trees. -/
def OpensAlike (t u : FileTree) (here : Place) (path : Path) : Prop :=
  (connect u here path).map (·.1) = (connect t here path).map (·.1)

/-- The path means a database that is kept in a file. -/
structure IsKeptAt (path : Path) (l : Location) : Prop where
  no_null : path.text.toList.contains '\x00' = false
  location : Location.ofText path.text = .ok l
  not_passing : l.isPassing = false

theorem IsKeptAt.connect_of_file (h : IsKeptAt path l) (hplace : l.place? t here = some place)
    (hfile : t.entry? place = some (.file content)) : connect t here path =
      .ok ({ place := some place, content := ofContent content, hindrance := hindranceAt l place }, t) := by
  rw [connect_of_location h.no_null h.location h.not_passing, openFile_of_file hplace hfile]
  rfl

/-- A file at the same place is opened as the same database if it holds the same one, and where no file is there is
    nothing to be told apart. -/
theorem openFile_alike (h : SameOutline t u) (hsame : ∀ place old new, l.place? t here = some place →
      t.entry? place = some (.file old) → u.entry? place = some (.file new) → ofContent new = ofContent old) :
    (openFile u here l).map (·.1) = (openFile t here l).map (·.1) := by
  have hplaces : l.place? u here = l.place? t here := place?_of_sameOutline h l
  cases hplace : l.place? t here with
  | none =>
    rw [openFile, openFile, hplaces, hplace]
  | some place =>
    have houtline := h place
    rcases hentry : t.entry? place with _ | _ | old | target <;> rw [hentry] at houtline
    · have hnone : u.entry? place = none := Option.map_eq_none_iff.mp houtline
      simp only [openFile, hplaces, hplace, hentry, hnone, h.directory_iff]
      split <;> rfl
    · simp only [openFile, hplaces, hplace, hentry, h.directory_iff.mpr hentry, Except.map]
    · obtain ⟨e, hnew, hfile⟩ := Option.map_eq_some_iff.mp houtline
      obtain ⟨new, rfl⟩ := Entry.outline_eq_file.mp hfile
      rw [openFile_of_file hplace hentry, openFile_of_file (hplaces.trans hplace) hnew, hsame place old new hplace hentry hnew]
      rfl
    · simp only [openFile, hplaces, hplace, hentry, h.link_iff.mpr hentry, Except.map]

theorem opensAlike_iff (h : SameOutline t u) : OpensAlike t u here path ↔ ∀ l place old new, IsKeptAt path l →
    l.place? t here = some place → t.entry? place = some (.file old) → u.entry? place = some (.file new) →
      ofContent new = ofContent old := by
  constructor
  · intro hopens l place old new hkept hplace hold hnew
    rw [OpensAlike, hkept.connect_of_file hplace hold,
      hkept.connect_of_file ((place?_of_sameOutline h l).trans hplace) hnew] at hopens
    exact congrArg Connection.content (Except.ok.inj hopens)
  · intro hsame
    unfold OpensAlike
    cases hnull : path.text.toList.contains '\x00' with
    | true => simp only [connect, hnull, if_true, Except.map]
    | false =>
      cases hlocation : Location.ofText path.text with
      | error fault => simp only [connect, openText, hnull, hlocation, Except.mapError, Except.map]
      | ok l =>
        cases hpassing : l.isPassing with
        | true =>
          simp only [connect, openText, hnull, hlocation, hpassing, if_true, Except.mapError, Except.map]
          rfl
        | false =>
          have hfiles := openFile_alike h fun place old new => hsame l place old new ⟨hnull, hlocation, hpassing⟩
          rw [connect_of_location hnull hlocation hpassing, connect_of_location hnull hlocation hpassing]
          rcases ht : openFile t here l with f | ⟨c, t'⟩ <;> rcases hu : openFile u here l with f' | ⟨c', u'⟩ <;>
            rw [ht, hu] at hfiles <;> cases hfiles <;> rfl

/-- A file that is written at the same place of both trees, or made there, keeps the databases alike. -/
theorem OpensAlike.put (h : SameOutline t u) (hopens : OpensAlike t u here path)
    (hentry : t.entry? place = none ∨ ∃ old, t.entry? place = some (.file old)) (content : Content)
    (hput : SameOutline (t.put place (.file content)) (u.put place (.file content))) :
    OpensAlike (t.put place (.file content)) (u.put place (.file content)) here path := by
  have hnil : place ≠ [] := hentry.elim ne_nil_of_none fun ⟨_, hfile⟩ => ne_nil_of_file hfile
  refine (opensAlike_iff hput).mpr fun l found old new hkept hfound hold hnew => ?_
  have hfound' : l.place? t here = some found := by
    rcases hentry with hnone | ⟨_, hfile⟩
    · exact Location.place?_of_put (fun _ => Entry.noConfusion) hnone hfound
    · rwa [place?_of_sameOutline (sameOutline_put hfile)] at hfound
  by_cases heq : found = place
  · rw [heq, entry?_put_self hnil] at hold hnew
    rw [← Entry.file.inj (Option.some.inj hold), ← Entry.file.inj (Option.some.inj hnew)]
  · rw [entry?_put_of_ne heq] at hold hnew
    exact (opensAlike_iff h).mp hopens l found old new hkept hfound' hold hnew

/-- The trees differ in files only where that is allowed, and the path means the same database in both. -/
structure SameDatabase (may : Place → Content → Content → Prop) (t u : FileTree) (here : Place) (path : Path) : Prop where
  tree : SameBut may t u
  opens : OpensAlike t u here path

theorem SameDatabase.put (h : SameDatabase may t u here path)
    (hentry : t.entry? place = none ∨ ∃ old, t.entry? place = some (.file old)) (content : Content) :
    SameDatabase may (t.put place (.file content)) (u.put place (.file content)) here path := by
  have hput := h.tree.put (hentry.elim ne_nil_of_none fun ⟨_, hfile⟩ => ne_nil_of_file hfile) (.file content)
  exact ⟨hput, h.opens.put h.tree.sameOutline hentry content hput.sameOutline⟩

/-- In both trees the database is opened the same way or not at all, and whatever is left in it afterwards, the path
    means the same database in both of them again. -/
theorem SameDatabase.connect_cases (h : SameDatabase may t u here path) :
    (∃ f, connect t here path = .error f ∧ connect u here path = .error f) ∨
    ∃ c t' u', connect t here path = .ok (c, t') ∧ connect u here path = .ok (c, u') ∧
      SameDatabase may t' u' here path ∧
      ∀ db, SameDatabase may (kept c.place db t') (kept c.place db u') here path := by
  have hopens := h.opens
  unfold OpensAlike at hopens
  rcases ht : connect t here path with f | ⟨c, t'⟩ <;> rcases hu : connect u here path with f' | ⟨c', u'⟩ <;>
    rw [ht, hu] at hopens <;> cases hopens
  · exact Or.inl ⟨f, rfl, rfl⟩
  · refine Or.inr ⟨c, t', u', rfl, rfl, ?_⟩
    obtain ⟨rfl, hnowhere⟩ | ⟨l, hlocation, hopen⟩ := Database.connect_cases ht <;>
      obtain ⟨rfl, hnowhere'⟩ | ⟨l', hlocation', hopen'⟩ := Database.connect_cases hu
    · exact ⟨h, fun db => by rwa [hnowhere]⟩
    · obtain ⟨place, -, ⟨_, -, -, rfl⟩ | ⟨-, -, rfl⟩⟩ := openFile_cases hopen' <;> cases hnowhere
    · obtain ⟨place, -, ⟨_, -, -, rfl⟩ | ⟨-, -, rfl⟩⟩ := openFile_cases hopen <;> cases hnowhere'
    · obtain rfl := Except.ok.inj (hlocation.symm.trans hlocation')
      obtain ⟨place, hplace, hfound⟩ := openFile_cases hopen
      obtain ⟨place', hplace', hfound'⟩ := openFile_cases hopen'
      obtain rfl : place' = place := Option.some.inj
        (hplace'.symm.trans ((place?_of_sameOutline h.tree.sameOutline l).trans hplace))
      have houtline := h.tree.sameOutline place'
      rcases hfound with ⟨old, hold, rfl, rfl⟩ | ⟨hold, rfl, rfl⟩ <;>
        rcases hfound' with ⟨new, hnew, rfl, -⟩ | ⟨hnew, rfl, -⟩
      · exact ⟨h, fun db => h.put (Or.inr ⟨old, hold⟩) _⟩
      · rw [hold, hnew] at houtline
        cases houtline
      · rw [hold, hnew] at houtline
        cases houtline
      · have hmade := h.put (Or.inl hold) (.database none)
        exact ⟨hmade, fun db => hmade.put (Or.inr ⟨_, entry?_put_self (ne_nil_of_none hold)⟩) _⟩

end Database

end CodeAtlas
