import CodeAtlas.Proofs.FileTree.Collecting

/-! Trees that differ in nothing but what some of their files hold. A walk through them does not show it: the same paths
    lead to the same places and have the same real paths, and the same files are collected. Only where a file that
    differs is found, something else may be read. -/

namespace CodeAtlas.FileTree

/-- The trees have the same entries, but a file may hold something else where `may` allows it, by its place and by
    what it holds in either tree. -/
structure SameBut (may : Place → Content → Content → Prop) (t u : FileTree) : Prop where
  places : u.entries.map (·.1) = t.entries.map (·.1)
  entry : ∀ p, u.entry? p = t.entry? p ∨
    ∃ old new, may p old new ∧ t.entry? p = some (.file old) ∧ u.entry? p = some (.file new)

/-- The second outcome is the first one, but for what the file that has been found holds. -/
def FindsSame {α : Type} (may : Place → Content → Content → Prop) (found : Located → α) (a b : α) : Prop :=
  b = a ∨ ∃ place old new, may place old new ∧ a = found ⟨place, .file old⟩ ∧ b = found ⟨place, .file new⟩

variable {may : Place → Content → Content → Prop} {t u : FileTree} {here place : Place} {e : Entry}

/-- Where something is put there is an entry, and no other is new. -/
theorem places_put (t : FileTree) (place : Place) (e : Entry) : (t.put place e).entries.map (·.1) =
    if place ∈ t.entries.map (·.1) then t.entries.map (·.1) else t.entries.map (·.1) ++ [place] := by
  have hany : (t.entries.any fun old => old.1 == place) = true ↔ place ∈ t.entries.map (·.1) := by
    simp only [List.any_eq_true, beq_iff_eq, List.mem_map]
  unfold put
  by_cases hmem : place ∈ t.entries.map (·.1)
  · rw [if_pos (hany.mpr hmem), if_pos hmem, List.map_map]
    refine List.map_congr_left fun old _ => ?_
    by_cases heq : old.1 = place <;> simp [heq]
  · rw [if_neg (mt hany.mp hmem), if_neg hmem, List.map_append]
    rfl

namespace SameBut

theorem refl (may : Place → Content → Content → Prop) (t : FileTree) : SameBut may t t := ⟨rfl, fun _ => Or.inl rfl⟩

theorem sameOutline (h : SameBut may t u) : SameOutline t u := fun p => by
  rcases h.entry p with heq | ⟨old, new, -, hold, hnew⟩
  · rw [heq]
  · rw [hold, hnew]
    rfl

/-- What is put at the same place of both trees is the same afterwards. -/
theorem put (h : SameBut may t u) (hplace : place ≠ []) (e : Entry) : SameBut may (t.put place e) (u.put place e) := by
  refine ⟨by rw [places_put, places_put, h.places], fun p => ?_⟩
  by_cases heq : p = place
  · rw [heq, entry?_put_self hplace, entry?_put_self hplace]
    exact Or.inl rfl
  · rw [entry?_put_of_ne heq, entry?_put_of_ne heq]
    exact h.entry p

/-- A file that is written anew may make all the difference. -/
theorem of_put {old new : Content} (h : t.entry? place = some (.file old)) (hmay : may place old new) :
    SameBut may t (t.put place (.file new)) := by
  have hplace : place ≠ [] := ne_nil_of_file h
  refine ⟨by rw [places_put, if_pos (mem_places_of_entry hplace h)], fun p => ?_⟩
  by_cases heq : p = place
  · rw [heq, h, entry?_put_self hplace]
    exact Or.inr ⟨old, new, hmay, rfl, rfl⟩
  · exact Or.inl (entry?_put_of_ne heq)

/-! ### Looking up -/

theorem children (h : SameBut may t u) (dir : Place) : u.children dir = t.children dir := by
  rw [children_eq, children_eq, h.places]

theorem length_entries (h : SameBut may t u) : u.entries.length = t.entries.length := by
  have hplaces := congrArg List.length h.places
  rwa [List.length_map, List.length_map] at hplaces

theorem stride (h : SameBut may t u) (last : Bool) (dir : Place) (names : List String) :
    FindsSame may .arrived (FileTree.stride t last dir names) (FileTree.stride u last dir names) := by
  induction dir, names using stride_induction with
  | nil dir => exact Or.inl rfl
  | dot dir rest ih => exact ih
  | dotdot dir rest ih => exact ih
  | name dir name rest hdot hdotdot ih =>
    rw [stride_name hdot hdotdot, stride_name hdot hdotdot]
    split
    · exact Or.inl rfl
    · rcases h.entry (dir ++ [name]) with heq | ⟨old, new, hmay, hold, hnew⟩
      · rw [heq]
        split
        · exact Or.inl rfl
        · exact ih _
        · exact Or.inl rfl
        · exact Or.inl rfl
      · rw [hold, hnew]
        -- A file ends the walk, and if more names follow the walk fails in both trees.
        cases rest with
        | nil => exact Or.inr ⟨_, old, new, hmay, rfl, rfl⟩
        | cons second rest => exact Or.inl rfl

theorem follow (h : SameBut may t u) (last : Bool) : ∀ (links : Nat) (dir : Place) (names : List String),
    FindsSame may .ok (FileTree.follow t last links dir names) (FileTree.follow u last links dir names)
  | links, dir, names => by
    rw [FileTree.follow.eq_def t, FileTree.follow.eq_def u]
    dsimp only
    rcases h.stride last dir names with heq | ⟨place, old, new, hmay, hold, hnew⟩
    · rw [heq]
      split
      · exact Or.inl rfl
      · exact Or.inl rfl
      · cases links with
        | zero => exact Or.inl rfl
        | succ links => exact follow h last links _ _
    · rw [hold, hnew]
      exact Or.inr ⟨place, old, new, hmay, rfl, rfl⟩

theorem locate (h : SameBut may t u) (here : Place) (last : Bool) (path : Path) :
    FindsSame may .ok (t.locate here last path) (u.locate here last path) := by
  unfold FileTree.locate
  split
  · exact Or.inl rfl
  · split
    · exact Or.inl rfl
    · rcases h.follow last linkLimit (if path.isAbsolute then [] else here) path.names with
        heq | ⟨place, old, new, hmay, hold, hnew⟩
      · rw [heq]
        exact Or.inl rfl
      · rw [hold, hnew]
        exact Or.inr ⟨place, old, new, hmay, rfl, rfl⟩

theorem isDirectory (h : SameBut may t u) (here : Place) (path : Path) :
    u.isDirectory here path = t.isDirectory here path := by
  unfold FileTree.isDirectory probe
  rcases h.locate here true path with heq | ⟨place, old, new, -, hold, hnew⟩
  · rw [heq]
  · rw [hold, hnew]
    rfl

/-- Something else is read only where a file that may differ is found. -/
theorem readText (h : SameBut may t u) (here : Place) (path : Path) : u.readText here path = t.readText here path ∨
    ∃ place old new, may place old new ∧ t.locate here true path = .ok ⟨place, .file old⟩ ∧
      u.locate here true path = .ok ⟨place, .file new⟩ := by
  rcases h.locate here true path with heq | hfound
  · unfold FileTree.readText
    rw [heq]
    exact Or.inl rfl
  · exact Or.inr hfound

/-! ### Real paths and collections -/

theorem resolveNames (h : SameBut may t u) (enter : Place → List String → Seen → Resolved) (dir : Place)
    (names : List String) :
    ∀ seen, FileTree.resolveNames u enter dir names seen = FileTree.resolveNames t enter dir names seen := by
  induction dir, names using stride_induction with
  | nil dir => exact fun seen => rfl
  | dot dir rest ih => exact ih
  | dotdot dir rest ih => exact ih
  | name dir name rest hdot hdotdot ih =>
    intro seen
    by_cases hlink : ∃ target, t.entry? (dir ++ [name]) = some (.link target)
    · obtain ⟨target, hlink⟩ := hlink
      rw [resolveNames_link hdot hdotdot (h.sameOutline.link_iff.mpr hlink), resolveNames_link hdot hdotdot hlink]
      dsimp only
      split
      · exact ih _ seen
      · rfl
      · rw [ih]
    · have hno : ∀ target, t.entry? (dir ++ [name]) ≠ some (.link target) := fun target hentry => hlink ⟨target, hentry⟩
      rw [resolveNames_name hdot hdotdot fun target hentry => hno target (h.sameOutline.link_iff.mp hentry),
        resolveNames_name hdot hdotdot hno]
      exact ih _ seen

theorem resolveWithin (h : SameBut may t u) (depth : Nat) : u.resolveWithin depth = t.resolveWithin depth := by
  induction depth with
  | zero =>
    funext dir names seen
    exact h.resolveNames _ dir names seen
  | succ depth ih =>
    funext dir names seen
    rw [FileTree.resolveWithin, FileTree.resolveWithin, ih]
    exact h.resolveNames _ dir names seen

theorem realPath (h : SameBut may t u) (here : Place) (path : Path) : u.realPath here path = t.realPath here path := by
  have hplace : u.realPlace here path = t.realPlace here path := by
    rw [realPlace, realPlace, h.length_entries, h.resolveWithin]
  unfold FileTree.realPath
  rw [hplace]
  split
  · rfl
  · rcases h.locate here true ⟨.root, t.realPlace here path⟩ with heq | ⟨place, old, new, -, hold, hnew⟩
    · dsimp only
      rw [heq]
    · dsimp only
      rw [hold, hnew]

theorem sortedNames (h : SameBut may t u) (here : Place) (dir : Path) : u.sortedNames here dir = t.sortedNames here dir := by
  unfold FileTree.sortedNames
  rcases h.locate here true dir with heq | ⟨place, old, new, -, hold, hnew⟩
  · rw [heq]
    split
    · rfl
    · rw [h.children]
    · rfl
  · rw [hold, hnew]

theorem collectBelow (h : SameBut may t u) (here : Place) (suffixes : Suffixes) : ∀ (depth : Nat) (dir : Path),
    FileTree.collectBelow u here suffixes depth dir = FileTree.collectBelow t here suffixes depth dir := by
  intro depth
  induction depth with
  | zero => exact fun dir => rfl
  | succ depth ih =>
    intro dir
    rw [FileTree.collectBelow, FileTree.collectBelow, h.sortedNames]
    simp only [h.isDirectory, ih]

theorem collect (h : SameBut may t u) (here : Place) (root : String) (suffixes : List String) :
    u.collect here root suffixes = t.collect here root suffixes := by
  unfold FileTree.collect
  split
  · rfl
  · unfold probe
    dsimp only
    rcases h.locate here true (Path.ofText root) with heq | ⟨place, old, new, -, hold, hnew⟩
    · rw [heq, h.collectBelow]
    · rw [hold, hnew]

end SameBut

end CodeAtlas.FileTree
