import CodeAtlas.Proofs.FileTree.SameBut

/-! Trees that cannot be told apart by walking through them. A database that has its table is no text, whatever is in
    the table, so that trees that differ only there have the same paths, the same texts and the same collections. -/

namespace CodeAtlas

/-- A file with a table of records. -/
def Entry.ofTable (table : Store.Table) : Entry := .file (.database (some table))

namespace FileTree

/-- The trees have the same entries but for what is in the tables of their databases. -/
structure Alike (t u : FileTree) : Prop where
  places : u.entries.map (·.1) = t.entries.map (·.1)
  entry : ∀ p, u.entry? p = t.entry? p ∨
    ∃ old new, t.entry? p = some (.ofTable old) ∧ u.entry? p = some (.ofTable new)

/-- A file may hold another table of records. -/
def TablesOnly (_ : Place) (old new : Content) : Prop := ∃ a b, old = .database (some a) ∧ new = .database (some b)

variable {t u v : FileTree} {place : Place}

namespace Alike

theorem refl (t : FileTree) : Alike t t := ⟨rfl, fun _ => Or.inl rfl⟩

theorem trans (h : Alike t u) (h' : Alike u v) : Alike t v := by
  refine ⟨h'.places.trans h.places, fun p => ?_⟩
  rcases h.entry p with heq | ⟨old, mid, hold, hmid⟩
  · rw [← heq]
    exact h'.entry p
  · rcases h'.entry p with heq | ⟨_, new, -, hnew⟩
    · exact Or.inr ⟨old, mid, hold, heq.trans hmid⟩
    · exact Or.inr ⟨old, new, hold, hnew⟩

theorem sameBut (h : Alike t u) : SameBut TablesOnly t u :=
  ⟨h.places, fun p => (h.entry p).imp_right fun ⟨old, new, hold, hnew⟩ =>
    ⟨_, _, ⟨old, new, rfl, rfl⟩, hold, hnew⟩⟩

theorem of_sameBut (h : SameBut TablesOnly t u) : Alike t u :=
  ⟨h.places, fun p => (h.entry p).imp_right fun ⟨_, _, ⟨old, new, hold, hnew⟩, ht, hu⟩ =>
    ⟨old, new, by rw [ht, hold, Entry.ofTable], by rw [hu, hnew, Entry.ofTable]⟩⟩

/-- A table that is written anew is still a table. -/
theorem put {old : Store.Table} (h : t.entry? place = some (.ofTable old)) (new : Store.Table) :
    Alike t (t.put place (.ofTable new)) := .of_sameBut (.of_put h ⟨old, new, rfl, rfl⟩)

/-! ### Walks -/

theorem realPath (h : Alike t u) (here : Place) (path : Path) : u.realPath here path = t.realPath here path :=
  h.sameBut.realPath here path

theorem readText (h : Alike t u) (here : Place) (path : Path) : u.readText here path = t.readText here path := by
  rcases h.sameBut.readText here path with heq | ⟨place, _, _, ⟨old, new, rfl, rfl⟩, hold, hnew⟩
  · exact heq
  · rw [FileTree.readText, FileTree.readText, hold, hnew]
    rfl

theorem collect (h : Alike t u) (here : Place) (root : String) (suffixes : List String) :
    u.collect here root suffixes = t.collect here root suffixes := h.sameBut.collect here root suffixes

end Alike

end FileTree

end CodeAtlas
