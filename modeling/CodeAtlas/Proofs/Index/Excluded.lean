import CodeAtlas.Proofs.FileTree.PlainNames
import CodeAtlas.Proofs.Index.Mirrored
import CodeAtlas.Proofs.Store.Opened

/-! What is left out of a run stays out of it. Over a tree in which the files to leave out hold something else a run asks
    the same questions, writes the same records and ends in the same way, whether these files are met by their own names
    or through links; and none of them gives its name to anything. -/

namespace CodeAtlas

open FileTree Store

/-- A file may hold something else where its place is that of one of the paths. -/
def OnlyAt (paths : List Path) (place : Place) (_ _ : Content) : Prop := ⟨.root, place⟩ ∈ paths

variable {paths : List Path} {w : Workspace} {t u : FileTree} {here : Place} {p real : Path}

/-! ### Trees in each other's stead -/

namespace Workspace

/-- The workspace with another tree. -/
def onTree (w : Workspace) (u : FileTree) : Workspace := { w with tree := u }

/-- The tree could be that of the workspace, as far as can be seen without a look into the files at the paths: it differs
    nowhere else, and the store is the same. -/
structure CouldHave (paths : List Path) (w : Workspace) (u : FileTree) : Prop where
  tree : SameBut (OnlyAt paths) w.tree u
  opens : ∀ path, w.store = .database path → Database.OpensAlike w.tree u w.here path

theorem CouldHave.sameDatabase {path : Path} (h : w.CouldHave paths u) (hstore : w.store = .database path) :
    Database.SameDatabase (OnlyAt paths) w.tree u w.here path := ⟨h.tree, h.opens path hstore⟩

theorem CouldHave.of_database {path : Path} (hstore : w.store = .database path)
    (h : Database.SameDatabase (OnlyAt paths) w.tree u w.here path) : w.CouldHave paths u :=
  ⟨h.tree, fun other hother => by
    obtain rfl := RecordStore.database.inj (hstore.symm.trans hother)
    exact h.opens⟩

/-- Work on the database does the same in the other tree. -/
theorem CouldHave.onDatabase {α : Type} {path : Path} (h : w.CouldHave paths u) (hstore : w.store = .database path)
    (work : Database.Connection → Except Failure (α × Option Database)) :
    ∃ found after u', w.onDatabase path work = (found, after) ∧
      (w.onTree u).onDatabase path work = (found, after.onTree u') ∧ after.CouldHave paths u' := by
  unfold Workspace.onDatabase
  rcases (h.sameDatabase hstore).connect_cases with ⟨f, ht, hu⟩ | ⟨c, t', u', ht, hu, hopened, hkept⟩
  · simp only [onTree, ht, hu]
    exact ⟨_, w, u, rfl, rfl, h⟩
  · simp only [onTree, ht, hu]
    rcases work { c with halves := w.halves } with f | ⟨a, _ | db⟩
    · exact ⟨_, _, u', rfl, rfl, .of_database hstore hopened⟩
    · exact ⟨_, _, u', rfl, rfl, .of_database hstore hopened⟩
    · exact ⟨_, _, _, rfl, rfl, .of_database hstore (hkept db)⟩

theorem CouldHave.upsert (h : w.CouldHave paths u) (r : Record) : ∃ found after u',
    w.upsert r = (found, after) ∧ (w.onTree u).upsert r = (found, after.onTree u') ∧ after.CouldHave paths u' := by
  have hsame : (w.onTree u).store = w.store := rfl
  cases hstore : w.store with
  | memory m =>
    have hmemory : ∀ after : Workspace, after.tree = w.tree → (∃ m', after.store = .memory m') →
        after.CouldHave paths u := fun after htree ⟨m', hm'⟩ =>
      ⟨htree ▸ h.tree, fun path hpath => by rw [hm'] at hpath; cases hpath⟩
    rw [Workspace.upsert, Workspace.upsert, hsame, hstore]
    dsimp only
    split
    · exact ⟨_, _, u, rfl, rfl, hmemory _ rfl ⟨_, rfl⟩⟩
    · exact ⟨_, _, u, rfl, rfl, hmemory _ rfl ⟨_, rfl⟩⟩
  | database path =>
    have hread : w.readClock.2.CouldHave paths u := ⟨h.tree, h.opens⟩
    rw [Workspace.upsert, Workspace.upsert, hsame, hstore]
    exact hread.onDatabase hstore _

/-- Whatever is asked of the store has the same answer. -/
theorem CouldHave.answers_eq (h : w.CouldHave paths u) :
    (∀ id, ((w.onTree u).get? id).1 = (w.get? id).1) ∧
      ∀ term limit, ((w.onTree u).find term limit).1 = (w.find term limit).1 := by
  have hsame : (w.onTree u).store = w.store := rfl
  have hdatabase : ∀ {α : Type} path, w.store = .database path → ∀ work,
      ((w.onTree u).onDatabase path work).1 = ((w.onDatabase path work).1 : Except Failure α) := fun path hstore work => by
    obtain ⟨found, after, u', hw, hu, -⟩ := h.onDatabase hstore work
    rw [hw, hu]
  refine ⟨fun id => ?_, fun term limit => ?_⟩
  · unfold Workspace.get?
    rw [hsame]
    cases hstore : w.store with
    | memory m => rfl
    | database path => exact hdatabase path hstore _
  · unfold Workspace.find
    rw [hsame]
    cases hstore : w.store with
    | memory m => rfl
    | database path => exact hdatabase path hstore _

end Workspace

namespace Index

variable {μ : Type} {x : Indexer} {m : Models μ} {s z : Session μ} {given : List String} {files : List Path} {root : String}

/-! ### Steps of a run -/

/-- The same session, with a tree that it could have in the stead of its own. -/
def OnTree (paths : List Path) (s z : Session μ) : Prop :=
  ∃ u, z = { s with workspace := s.workspace.onTree u } ∧ s.workspace.CouldHave paths u

/-- Neither models nor the clock nor the store show what the files at the paths hold. -/
theorem mirrors_onTree (paths : List Path) (m : Models μ) (ids : String → Prop) :
    Mirrors (OnTree paths) ids (Session.means m) (Session.means m) where
  ask := by
    rintro q s _ ⟨u, rfl, h⟩
    exact ⟨rfl, u, rfl, h⟩
  write := by
    rintro _ r s _ - - ⟨u, rfl, h⟩
    obtain ⟨found, after, u', hw, hu, hafter⟩ := h.upsert r
    simp only [Session.means, Session.inWorkspace, hw, hu]
    exact ⟨rfl, u', rfl, hafter⟩
  now := by
    rintro s _ ⟨u, rfl, h⟩
    exact ⟨rfl, u, rfl, h.tree, h.opens⟩
  add := by
    rintro notes s _ ⟨u, rfl, h⟩
    exact ⟨u, rfl, h.tree, h.opens⟩

/-! ### Files that are not left out -/

/-- None of the paths has the text. -/
def IsNoneOf (paths : List Path) (id : String) : Prop := ∀ e ∈ paths, e.text ≠ id

/-- A file that is not left out is none of those that may hold something else. -/
theorem readSource_eq_of_kept (h : SameBut (OnlyAt x.excluded) t u) (hhere : Straight t here)
    (hreal : t.realPath here p = .ok real) (hkept : real ∉ x.excluded) : readSource u here p = readSource t here p := by
  rcases h.readText here p with heq | ⟨place, old, new, hplace, hlocate, -⟩
  · rw [readSource, readSource, heq]
  · rw [realPath_of_locate hhere hlocate] at hreal
    exact absurd (Except.ok.inj hreal ▸ hplace) hkept

/-- Nor does it go by the name of one that is left out. -/
theorem text_ne_of_kept (hsound : t.IsSound here) (hhere : t.entry? here = some .directory)
    (hgiven : realPaths t here (given.map Path.ofText) = .ok x.excluded) (hp : ArePlain p.names)
    (hreal : t.realPath here p = .ok real) (hkept : real ∉ x.excluded) : IsNoneOf x.excluded real.text := by
  intro e he htext
  obtain ⟨_, hmem, hresolved⟩ := (mem_realPaths_iff hgiven).mp he
  obtain ⟨word, -, rfl⟩ := List.mem_map.mp hmem
  have hplain : ArePlain here := hsound.arePlain hhere
  exact hkept (realPath_eq_of_text hplain (Path.arePlain_ofText word) hp hresolved hreal htext ▸ he)

theorem readsAlike_of_collect (hsound : t.IsSound here) (hhere : t.entry? here = some .directory)
    (hgiven : realPaths t here (given.map Path.ofText) = .ok x.excluded) (h : SameBut (OnlyAt x.excluded) t u)
    (hfiles : t.collect here root x.config.includeSuffixes = .ok files) :
    ∀ p ∈ files, ReadsAlike x (IsNoneOf x.excluded) t u here p := fun p hp =>
  ⟨h.realPath here p, fun _ hreal hkept =>
    ⟨text_ne_of_kept hsound hhere hgiven (arePlain_of_mem_collect hsound hfiles p hp) hreal hkept,
      readSource_eq_of_kept h hsound.here hreal hkept⟩⟩

/-- Writing down the calls of a run changes nothing else about it. -/
theorem run_logged (x : Indexer) (m : Models μ) (t : FileTree) (here : Place) (root : String) (s : Session μ)
    (calls : List Call) : x.run (Session.means m) t here root s =
      ((x.run (Session.means m).logged t here root (s, calls)).1,
        (x.run (Session.means m).logged t here root (s, calls)).2.1) := by
  have hruns : Matches (fun s (z : Session μ × List Call) => z.1 = s) (x.run (Session.means m) t here root s)
      (x.run (Session.means m).logged t here root (s, calls)) :=
    (mirrors_logged (Session.means m)).run rfl (fun _ _ _ _ => ⟨rfl, fun _ _ _ => ⟨trivial, rfl⟩⟩) rfl
  exact Prod.ext hruns.1.symm hruns.2.symm

/-! ### Whole runs -/

/-- Where files to leave out hold something else, the paths given for them still lead to them, and a run puts the same
    questions to the model and hands the same records to the store, ends with the same report or failure, and leaves the
    same store, clock and notes. Neither the report nor any record has the real path of a file that is left out. -/
theorem run_without_excluded (x : Indexer) (m : Models μ) (root : String) (given : List String) (s : Session μ)
    (u : FileTree) (hsound : s.workspace.tree.IsSound s.workspace.here)
    (hhere : s.workspace.tree.entry? s.workspace.here = some .directory)
    (hgiven : realPaths s.workspace.tree s.workspace.here (given.map Path.ofText) = .ok x.excluded)
    (hother : s.workspace.CouldHave x.excluded u) :
    realPaths u s.workspace.here (given.map Path.ofText) = .ok x.excluded ∧ ∃ outcome w k calls u',
      x.run (Session.means m).logged s.workspace.tree s.workspace.here root (s, []) = (outcome, ⟨w, k⟩, calls) ∧
      x.run (Session.means m).logged u s.workspace.here root (⟨s.workspace.onTree u, s.model⟩, []) =
        (outcome, ⟨w.onTree u', k⟩, calls) ∧
      x.run (Session.means m) s.workspace.tree s.workspace.here root s = (outcome, ⟨w, k⟩) ∧
      x.run (Session.means m) u s.workspace.here root ⟨s.workspace.onTree u, s.model⟩ = (outcome, ⟨w.onTree u', k⟩) ∧
      w.CouldHave x.excluded u' ∧ (∀ id, ((w.onTree u').get? id).1 = (w.get? id).1) ∧
      (∀ term limit, ((w.onTree u').find term limit).1 = (w.find term limit).1) ∧
      ∀ e ∈ x.excluded, (∀ report, outcome = .ok report → e.text ∉ report.ids) ∧
        ∀ r, .wrote r ∈ calls → r.id ≠ some e.text := by
  have hreads : ∀ files, s.workspace.tree.collect s.workspace.here root x.config.includeSuffixes = .ok files →
      ∀ p ∈ files, ReadsAlike x (IsNoneOf x.excluded) s.workspace.tree u s.workspace.here p := fun files hfiles =>
    readsAlike_of_collect hsound hhere hgiven hother.tree hfiles
  have hmirrors := (mirrors_onTree x.excluded m (IsNoneOf x.excluded)).logged
  have hstart : Logged (OnTree x.excluded) (IsNoneOf x.excluded) (s, []) (⟨s.workspace.onTree u, s.model⟩, []) := ⟨⟨u, rfl, hother⟩, rfl, fun r hr => absurd hr List.not_mem_nil⟩
  obtain ⟨houtcome, hend⟩ := hmirrors.run (hother.tree.collect s.workspace.here root _) hreads hstart
  rcases hrun : x.run (Session.means m).logged s.workspace.tree s.workspace.here root (s, []) with ⟨outcome, ⟨w, k⟩, calls⟩
  rcases hrun' : x.run (Session.means m).logged u s.workspace.here root (⟨s.workspace.onTree u, s.model⟩, []) with
    ⟨outcome', z, calls'⟩
  rw [hrun, hrun'] at houtcome hend
  obtain ⟨⟨u', hz, hafter⟩, hcalls, hwrote⟩ := hend
  dsimp only at houtcome hz hcalls hafter hwrote
  subst houtcome hz hcalls
  obtain ⟨hget, hfind⟩ := hafter.answers_eq
  refine ⟨(realPaths_sameBut hother.tree _).trans hgiven, outcome', w, k, calls', u', rfl, rfl, ?_, ?_, hafter, hget, hfind,
    fun e he => ⟨fun report hreport hmem => ?_, fun r hr hid => ?_⟩⟩
  · rw [run_logged x m _ _ _ s [], hrun]
  · rw [run_logged x m _ _ _ ⟨s.workspace.onTree u, s.model⟩ [], hrun']
  · subst hreport
    exact ids_of_run hreads hrun e.text hmem e he rfl
  · obtain ⟨id, hrid, hids⟩ := hwrote r hr
    exact hids e he (Option.some.inj (hid.symm.trans hrid))

/-- A place with a file to leave out, a link to its directory, and another one that leads through that to the file. -/
def vault : Workspace where
  tree := ⟨[(["src"], .directory), (["src", "a.py"], .file (.octets [120])), (["src", "b.py"], .link "../to/key.py"),
    (["keys"], .directory), (["keys", "key.py"], .file (.octets [121])), (["to"], .link "keys")]⟩

/-- An indexer that leaves the file out. -/
def besideKey (config : Config) : Indexer := ⟨config, [⟨.root, ["keys", "key.py"]⟩]⟩

theorem realPath_key {p : Path} (h : vault.tree.locate vault.here true p =
    .ok ⟨["keys", "key.py"], .file (.octets [121])⟩) : vault.tree.realPath vault.here p = .ok ⟨.root, ["keys", "key.py"]⟩ :=
  realPath_of_locate (straight_nil _) h

/-- The file that holds something else, which is not even a text, is met through the links and left out. -/
theorem run_vault : vault.tree.IsSound vault.here ∧
    realPaths vault.tree vault.here (["src/../to/key.py"].map Path.ofText) = .ok (besideKey {}).excluded ∧
    ∃ u, FileTree.entry? u ["keys", "key.py"] = some (.file (.octets [255])) ∧
      vault.CouldHave (besideKey {}).excluded u ∧ ∃ w calls u',
      (besideKey {}).run (Session.means saysTheSame).logged vault.tree vault.here "src" (⟨vault, ()⟩, []) =
        (.ok ⟨["/src/a.py"], [], []⟩, ⟨w, ()⟩, calls) ∧
      (besideKey {}).run (Session.means saysTheSame).logged u vault.here "src" (⟨vault.onTree u, ()⟩, []) =
        (.ok ⟨["/src/a.py"], [], []⟩, ⟨w.onTree u', ()⟩, calls) ∧
      ∀ r, .wrote r ∈ calls → r.id ≠ some "/keys/key.py" := by
  have hkey : vault.tree.entry? ["keys", "key.py"] = some (.file (.octets [121])) := rfl
  have hother : vault.CouldHave (besideKey {}).excluded (vault.tree.put ["keys", "key.py"] (.file (.octets [255]))) :=
    ⟨.of_put hkey (List.mem_singleton_self _), fun path hpath => by cases hpath⟩
  have hsound : vault.tree.IsSound vault.here := ⟨by decide, by decide, straight_nil _⟩
  have hgiven : realPaths vault.tree vault.here (["src/../to/key.py"].map Path.ofText) = .ok (besideKey {}).excluded := by
    rw [List.map_singleton, realPaths, realPath_key rfl]
    rfl
  have hfiles : vault.tree.collect vault.here "src" (besideKey {}).config.includeSuffixes =
      .ok [Path.ofText "src/a.py", Path.ofText "src/b.py"] := (collect_of_sorted rfl rfl (by decide)).trans rfl
  have houtcome : ((besideKey {}).run (Session.means saysTheSame) vault.tree vault.here "src" ⟨vault, ()⟩).1 =
      .ok ⟨["/src/a.py"], [], []⟩ := by
    have hsource : vault.tree.realPath vault.here (Path.ofText "src/a.py") = .ok ⟨.root, ["src", "a.py"]⟩ := rfl
    have hlink : vault.tree.realPath vault.here (Path.ofText "src/b.py") = .ok ⟨.root, ["keys", "key.py"]⟩ :=
      realPath_key rfl
    rw [run_of_collect hfiles]
    simp only [Indexer.handleAll, hsource, hlink]
    rfl
  obtain ⟨-, outcome, w, k, calls, u', hrun, hrun', hplain, -, -, -, -, hunseen⟩ :=
    run_without_excluded (besideKey {}) saysTheSame "src" ["src/../to/key.py"] ⟨vault, ()⟩ _ hsound rfl hgiven hother
  rw [hplain] at houtcome
  obtain rfl : outcome = _ := houtcome
  exact ⟨hsound, hgiven, _, rfl, hother, w, calls, u', hrun, hrun', (hunseen _ (List.mem_singleton_self _)).2⟩

end Index

end CodeAtlas
