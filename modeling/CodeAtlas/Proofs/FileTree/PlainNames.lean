import CodeAtlas.Proofs.FileTree.Collecting

/-! Names as they stand between slashes. Real paths are made of them, whatever links have been on the way, and so each
    real path is known by its text. -/

namespace CodeAtlas

/-- The name can stand between two slashes. -/
structure IsPlainName (name : String) : Prop where
  ne_empty : name ≠ ""
  no_slash : '/' ∉ name.toList

theorem IsLegalName.isPlain {name : String} (h : IsLegalName name) : IsPlainName name := ⟨h.ne_empty, h.no_slash⟩

/-- Every one of the names can stand between slashes. -/
def ArePlain (names : List String) : Prop := ∀ name ∈ names, IsPlainName name

namespace ArePlain
variable {names more : List String}

theorem nil : ArePlain [] := fun _ h => absurd h List.not_mem_nil

theorem append (h : ArePlain names) (h' : ArePlain more) : ArePlain (names ++ more) :=
  List.forall_mem_append.mpr ⟨h, h'⟩

theorem dropLast (h : ArePlain names) : ArePlain names.dropLast :=
  fun name hname => h name ((List.dropLast_prefix names).subset hname)

/-- The parts of a text between its slashes are plain where they are not empty. -/
theorem of_parts {s : String} {parts : List (List Char)}
    (h : ∀ part ∈ parts, part ∈ Text.splitWhere (· == '/') s.toList ∧ part ≠ []) : ArePlain (parts.map String.ofList) := by
  intro name hname
  obtain ⟨part, hpart, rfl⟩ := List.mem_map.mp hname
  obtain ⟨hsplit, hne⟩ := h part hpart
  refine ⟨fun hempty => hne (by simpa using congrArg String.toList hempty), fun hslash => ?_⟩
  rw [String.toList_ofList] at hslash
  exact absurd (Text.mem_of_mem_splitWhere hsplit _ hslash).2 (by decide)

end ArePlain

namespace Path
variable {p q : Place}

theorem arePlain_ofText (s : String) : ArePlain (ofText s).names :=
  fun _ h => ⟨(isPart_of_mem_ofText h).ne_empty, (isPart_of_mem_ofText h).no_slash⟩

theorem text_root_ne (h : ArePlain p) (hp : p ≠ []) : text ⟨.root, p⟩ ≠ text ⟨.root, []⟩ := by
  intro heq
  have hsize := length_le_joined fun name hname => (h name hname).ne_empty
  rw [text_of_names_ne_nil hp, show text ⟨.root, []⟩ = Start.root.text ++ "" from rfl, String.append_right_inj] at heq
  rw [heq] at hsize
  exact hp (List.length_eq_zero_iff.mp (Nat.le_zero.mp hsize))

/-- A path from the root is known by its text. -/
theorem text_root_injective (hp : ArePlain p) (hq : ArePlain q) (heq : text ⟨.root, p⟩ = text ⟨.root, q⟩) : p = q := by
  by_cases hpnil : p = []
  · by_contra hne
    subst hpnil
    exact text_root_ne hq (Ne.symm hne) heq.symm
  · by_cases hqnil : q = []
    · subst hqnil
      exact absurd heq (text_root_ne hp hpnil)
    · exact @text_append_injective .root p q [] hpnil hqnil (fun name hname => (hp name hname).no_slash)
        (fun name hname => (hq name hname).no_slash) heq

end Path

namespace FileTree

variable {t : FileTree} {here dir place : Place} {path real : Path} {names : List String} {seen : Seen}

theorem arePlain_targetNames (target : String) : ArePlain (targetNames target) := by
  have hparts : ArePlain (((Text.splitWhere (· == '/') target.toList).filter fun part => !part.isEmpty).map
      String.ofList) := ArePlain.of_parts fun part hpart => by
    obtain ⟨hsplit, hkept⟩ := List.mem_filter.mp hpart
    exact ⟨hsplit, fun hnil => by simp [hnil] at hkept⟩
  unfold targetNames
  dsimp only
  split
  · exact hparts.append (List.forall_mem_singleton.mpr ⟨by decide, by decide⟩)
  · exact hparts

/-- Links are known to lead to plain places only. -/
def Seen.LeadsPlain (seen : Seen) : Prop := ∀ link place, lookUp seen link = some (some place) → ArePlain place

theorem Seen.LeadsPlain.cons {link : Place} {known : Option Place} (h : Seen.LeadsPlain seen)
    (hknown : ∀ place, known = some place → ArePlain place) : Seen.LeadsPlain ((link, known) :: seen) := by
  intro other place hother
  by_cases heq : other = link
  · rw [heq, lookUp_cons_self] at hother
    exact hknown place (Option.some.inj hother)
  · rw [lookUp_cons_of_ne heq] at hother
    exact h other place hother

/-- Where names have been resolved to is plain, and so is what has become known on the way. -/
structure Resolved.IsPlain (r : Resolved) : Prop where
  place : ArePlain r.place
  seen : Seen.LeadsPlain r.seen

/-- Resolution of plain names from a plain place stays among plain names. -/
def KeepsPlain (enter : Place → List String → Seen → Resolved) : Prop := ∀ place names seen,
  ArePlain place → ArePlain names → Seen.LeadsPlain seen → (enter place names seen).IsPlain

theorem keepsPlain_resolveNames {enter : Place → List String → Seen → Resolved} (henter : KeepsPlain enter) :
    KeepsPlain (resolveNames t enter) := by
  intro dir names
  induction dir, names using stride_induction with
  | nil dir => exact fun seen hdir _ hseen => ⟨hdir, hseen⟩
  | dot dir rest ih => exact fun seen hdir hnames => ih seen hdir (List.forall_mem_cons.mp hnames).2
  | dotdot dir rest ih => exact fun seen hdir hnames => ih seen hdir.dropLast (List.forall_mem_cons.mp hnames).2
  | name dir name rest hdot hdotdot ih =>
    intro seen hdir hnames hseen
    obtain ⟨hname, hrest⟩ := List.forall_mem_cons.mp hnames
    have hnext : ArePlain (dir ++ [name]) := hdir.append (List.forall_mem_singleton.mpr hname)
    by_cases hlink : ∃ target, t.entry? (dir ++ [name]) = some (.link target)
    · obtain ⟨target, hlink⟩ := hlink
      have hstart : ArePlain (linkStart dir target) := by
        unfold linkStart
        split
        · exact .nil
        · exact hdir
      have hinner := henter _ _ ((dir ++ [name], none) :: seen) hstart (arePlain_targetNames target)
        (hseen.cons fun _ h => by cases h)
      rw [resolveNames_link hdot hdotdot hlink]
      dsimp only
      split
      · rename_i known hknown
        exact ih known seen (hseen _ _ hknown) hrest hseen
      · exact ⟨hnext.append hrest, hseen⟩
      · split
        · exact ih _ _ hinner.place hrest (hinner.seen.cons fun place h => Option.some.inj h ▸ hinner.place)
        · exact ⟨hinner.place.append hrest, hinner.seen⟩
    · rw [resolveNames_name hdot hdotdot fun target hentry => hlink ⟨target, hentry⟩]
      exact ih _ seen hnext hrest hseen

theorem keepsPlain_resolveWithin (t : FileTree) (depth : Nat) : KeepsPlain (resolveWithin t depth) := by
  induction depth with
  | zero => exact keepsPlain_resolveNames fun place names seen hplace hnames hseen => ⟨hplace.append hnames, hseen⟩
  | succ depth ih => exact keepsPlain_resolveNames ih

theorem arePlain_flatten (h : ArePlain names) : ArePlain (flatten names) := by
  unfold flatten
  refine List.foldlRecOn names _ ArePlain.nil fun place hplace name hname => ?_
  split
  · exact hplace
  · split
    · exact hplace.dropLast
    · exact hplace.append (List.forall_mem_singleton.mpr (h name hname))

/-- A real path is one from the root with plain names. -/
theorem arePlain_of_realPath (hhere : ArePlain here) (hpath : ArePlain path.names) (h : t.realPath here path = .ok real) :
    ∃ place, real = ⟨.root, place⟩ ∧ ArePlain place := by
  have hstart : ArePlain (if path.isAbsolute then [] else here) := by
    split
    · exact .nil
    · exact hhere
  have hresolved := keepsPlain_resolveWithin t t.entries.length _ _ [] hstart hpath fun _ _ hseen => by cases hseen
  refine ⟨t.realPlace here path, ?_, arePlain_flatten hresolved.place⟩
  unfold realPath at h
  split at h
  · cases h
  · dsimp only at h
    split at h
    · cases h
    · exact (Except.ok.inj h).symm

/-- Real paths with the same text are the same. -/
theorem realPath_eq_of_text {path' real' : Path} (hhere : ArePlain here) (hpath : ArePlain path.names)
    (hpath' : ArePlain path'.names) (h : t.realPath here path = .ok real) (h' : t.realPath here path' = .ok real')
    (htext : real.text = real'.text) : real = real' := by
  obtain ⟨place, rfl, hplace⟩ := arePlain_of_realPath hhere hpath h
  obtain ⟨place', rfl, hplace'⟩ := arePlain_of_realPath hhere hpath' h'
  rw [Path.text_root_injective hplace hplace' htext]

/-- A directory that is in the tree has plain names. -/
theorem IsSound.arePlain {e : Entry} (h : t.IsSound here) (hentry : t.entry? place = some e) : ArePlain place := by
  by_cases hnil : place = []
  · rw [hnil]
    exact .nil
  · obtain ⟨found, hfound, rfl⟩ := List.mem_map.mp (mem_places_of_entry hnil hentry)
    exact fun name hname => (h.legal found hfound name hname).isPlain

/-- What is collected has plain names. -/
theorem arePlain_of_mem_collect {root : String} {given : List String} {files : List Path} (hsound : t.IsSound here)
    (h : t.collect here root given = .ok files) : ∀ p ∈ files, ArePlain p.names := by
  rcases collect_cases h with rfl | ⟨_, -, hbelow⟩
  · exact List.forall_mem_singleton.mpr (Path.arePlain_ofText root)
  · intro p hp
    obtain ⟨name, hname⟩ := exists_below_of_mem hsound hbelow p hp
    obtain ⟨more, hmore, hlegal⟩ := hname.names
    rw [hmore]
    exact (Path.arePlain_ofText root).append fun other hother => (hlegal other hother).isPlain

end FileTree

end CodeAtlas
