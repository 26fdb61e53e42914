import CodeAtlas.Proofs.FileTree.Listed

/-! The files below the current directory, asked for by `.` and by its absolute path. Both walks go through the same
    places in the same order, and so they collect the same files. They can only differ in whether they get through: the
    absolute paths are longer, and the relative path of a directory in the current one is no more than its name, which
    may be blank. -/

namespace CodeAtlas

/-- The path with more names below it. -/
def Path.under (dir : Path) (more : List String) : Path := ⟨dir.start, dir.names ++ more⟩

theorem Path.under_child (dir : Path) (name : String) (more : List String) :
    (dir.child name).under more = dir.under (name :: more) := by
  simp [under, child]

theorem Path.suffix_child (dir : Path) (name : String) :
    (dir.child name).suffix = String.ofList (suffixChars name.toList) := by
  simp [suffix, Path.name, child]

namespace FileTree

variable {t : FileTree} {here place : Place} {suffixes : Suffixes} {given : List String} {depth depth' : Nat}
  {dir dir' : Path} {name root : String} {e : Entry} {files part part' : List Path}

/-! ### The same files -/

theorem admit_child (dir dir' : Path) (name : String) :
    suffixes.admit (dir'.child name) = suffixes.admit (dir.child name) := by
  rw [ Suffixes.admit, Suffixes.admit, Path.suffix_child, Path.suffix_child]

/-- What one name has to be collected is the same below both paths of the directory, but for the path. -/
theorem Yields.alike (h : Yields t here suffixes depth dir place name part)
    (h' : Yields t here suffixes depth' dir' place name part')
    (hbelow : ∀ files files', t.locate here true (dir.child name) = .ok ⟨place ++ [name], .directory⟩ →
      t.locate here true (dir'.child name) = .ok ⟨place ++ [name], .directory⟩ →
      collectBelow t here suffixes depth (dir.child name) = .ok files →
      collectBelow t here suffixes depth' (dir'.child name) = .ok files' →
      ∃ mores : List (List String),
        files = mores.map (dir.child name).under ∧ files' = mores.map (dir'.child name).under) :
    ∃ mores : List (List String), part = mores.map dir.under ∧ part' = mores.map dir'.under := by
  cases h with
  | skipped hentry hskipped =>
    cases h' with
    | skipped => exact ⟨[], rfl, rfl⟩
    | entered _ hne => exact absurd hskipped hne
    | file hentry' =>
      rw [hentry] at hentry'
      cases hentry'
  | entered hentry hskipped hchild hpart =>
    cases h' with
    | skipped _ hmem => exact absurd hmem hskipped
    | entered _ _ hchild' hpart' =>
      obtain ⟨mores, rfl, rfl⟩ := hbelow _ _ hchild hchild' hpart hpart'
      refine ⟨mores.map (name :: ·), ?_, ?_⟩
      · simp [Function.comp_def, Path.under_child]
      · simp [Function.comp_def, Path.under_child]
    | file hentry' =>
      rw [hentry] at hentry'
      cases hentry'
  | file hentry =>
    cases h' with
    | skipped hentry' | entered hentry' =>
      rw [hentry] at hentry'
      cases hentry'
    | file =>
      rw [admit_child dir dir']
      by_cases hadmit : suffixes.admit (dir.child name) = true
      · exact ⟨[[name]], by rw [if_pos hadmit]; rfl, by rw [if_pos hadmit]; rfl⟩
      · exact ⟨[], by rw [if_neg hadmit]; rfl, by rw [if_neg hadmit]; rfl⟩

/-- Below two paths of one directory the same files are collected, in the same order. -/
theorem collectBelow_alike (hsound : t.IsSound here) (hlinks : t.HasNoLinks) : ∀ {depth depth' : Nat} {dir dir' : Path}
    {place : Place} {files files' : List Path}, t.locate here true dir = .ok ⟨place, .directory⟩ →
    t.locate here true dir' = .ok ⟨place, .directory⟩ → collectBelow t here suffixes depth dir = .ok files →
    collectBelow t here suffixes depth' dir' = .ok files' →
    ∃ mores : List (List String), files = mores.map dir.under ∧ files' = mores.map dir'.under := by
  intro depth
  induction depth with
  | zero =>
    intro depth' dir dir' place files files' _ _ h
    cases h
  | succ depth ih =>
    intro depth' dir dir' place files files' hlocate hlocate' h h'
    obtain ⟨less, found, part, hless, hfound, hparts, rfl⟩ := collectBelow_cases h
    obtain ⟨less', found', part', -, hfound', hparts', rfl⟩ := collectBelow_cases h'
    obtain rfl := Nat.succ.inj hless
    obtain rfl : found = place := congrArg Located.place (Except.ok.inj (hfound.symm.trans hlocate))
    obtain rfl : found' = found := congrArg Located.place (Except.ok.inj (hfound'.symm.trans hlocate'))
    have hnames : ∀ name ∈ t.children found', ∃ mores : List (List String),
        part name = mores.map dir.under ∧ part' name = mores.map dir'.under := fun name hname =>
      (yields_of_filesOf hsound hlinks hlocate hname (hparts name hname)).alike
        (yields_of_filesOf hsound hlinks hlocate' hname (hparts' name hname)) fun _ _ => ih
    choose! mores hmores using hnames
    refine ⟨((t.children found').mergeSort fun a b => a ≤ b).flatMap mores, ?_, ?_⟩
    · rw [List.map_flatMap]
      exact List.flatMap_congr fun name hname => (hmores name (List.mem_mergeSort.mp hname)).1
    · rw [List.map_flatMap]
      exact List.flatMap_congr fun name hname => (hmores name (List.mem_mergeSort.mp hname)).2

/-! ### Getting through -/

/-- A path that is short enough to be looked up, as a whole and name by name. -/
structure Fits (p : Path) : Prop where
  whole : p.text.utf8ByteSize ≤ pathLimit
  names : ∀ name ∈ p.names, name.utf8ByteSize ≤ nameLimit

/-- The names lead from `place` to an entry, and on the way to it no directory is a skipped one. -/
structure IsVisited (t : FileTree) (place : Place) (more : List String) : Prop where
  ne_nil : more ≠ []
  entry : ∃ e, t.entry? (place ++ more) = some e
  way : ∀ name ∈ more.dropLast, name ∉ skippedDirectories

/-- Nothing stops a walk below a directory: whatever it comes to can be looked up, and no directory in this one has a
    path with a blank text. -/
structure IsClear (t : FileTree) (dir : Path) (place : Place) : Prop where
  fits : ∀ more, IsVisited t place more → Fits (dir.under more)
  notBlank : ∀ name, t.entry? (place ++ [name]) = some .directory → Text.isBlankText (dir.child name).text = false

theorem Fits.child_iff (hnames : ∀ other ∈ dir.names, other.utf8ByteSize ≤ nameLimit) : Fits (dir.child name) ↔
    (dir.child name).text.utf8ByteSize ≤ pathLimit ∧ name.utf8ByteSize ≤ nameLimit := by
  constructor
  · intro h
    exact ⟨h.whole, h.names name (List.mem_append_right _ (List.mem_singleton.mpr rfl))⟩
  · rintro ⟨hwhole, hname⟩
    exact ⟨hwhole, List.forall_mem_append.mpr ⟨hnames, List.forall_mem_singleton.mpr hname⟩⟩

theorem isVisited_cons_iff (hlinks : t.HasNoLinks) {rest : List String} (hrest : rest ≠ []) :
    IsVisited t place (name :: rest) ↔ t.entry? (place ++ [name]) = some .directory ∧ name ∉ skippedDirectories ∧
      IsVisited t (place ++ [name]) rest := by
  have hplace : place ++ name :: rest = place ++ [name] ++ rest := List.append_cons _ _ _
  constructor
  · rintro ⟨-, ⟨e, hentry⟩, hway⟩
    rw [hplace] at hentry
    rw [List.dropLast_cons_of_ne_nil hrest] at hway
    obtain ⟨hname, hway⟩ := List.forall_mem_cons.mp hway
    exact ⟨hlinks.entry?_of_append hrest hentry, hname, hrest, ⟨e, hentry⟩, hway⟩
  · rintro ⟨-, hname, -, ⟨e, hentry⟩, hway⟩
    refine ⟨List.cons_ne_nil _ _, ⟨e, hplace ▸ hentry⟩, ?_⟩
    rw [List.dropLast_cons_of_ne_nil hrest]
    exact List.forall_mem_cons.mpr ⟨hname, hway⟩

theorem isVisited_singleton (hentry : t.entry? (place ++ [name]) = some e) : IsVisited t place [name] :=
  ⟨List.cons_ne_nil _ _, ⟨e, hentry⟩, by simp⟩

/-- No skipped directory has a path with a blank text, and none below another directory has. -/
theorem not_blank_of_skipped (h : name ∈ skippedDirectories) : Text.isBlankText (dir.child name).text = false := by
  have hnames : ∀ name ∈ skippedDirectories, Text.isBlankText name = false := by decide
  cases hblank : Text.isBlankText (dir.child name).text with
  | false => rfl
  | true =>
    exact absurd (Path.eq_here_of_isBlankText hblank).2 (by simp [hnames name h])

theorem not_blank_below (dir : Path) (name other : String) :
    Text.isBlankText ((dir.child name).child other).text = false := by
  cases hblank : Text.isBlankText ((dir.child name).child other).text with
  | false => rfl
  | true =>
    exact absurd (congrArg Path.names (Path.eq_here_of_isBlankText hblank).1) (Path.child_names_ne_nil dir name)

theorem exists_joinOutcomes_iff {ε α β : Type} {f : α → Except ε (List β)} {l : List α} :
    (∃ found, joinOutcomes (l.map f) = .ok found) ↔ ∀ a ∈ l, ∃ part, f a = .ok part := by
  constructor
  · rintro ⟨found, h⟩ a ha
    obtain ⟨part, hparts, -⟩ := joinOutcomes_eq_ok h
    exact ⟨part a, hparts a ha⟩
  · intro h
    cases hjoined : joinOutcomes (l.map f) with
    | ok found => exact ⟨found, rfl⟩
    | error e =>
      obtain ⟨a, ha, hfails⟩ := exists_of_joinOutcomes_eq_error hjoined
      obtain ⟨part, hpart⟩ := h a ha
      rw [hpart] at hfails
      cases hfails

/-- The files of a name can be collected where its path fits and, if they are below it, where they can be collected. -/
theorem exists_filesOf_iff (hsound : t.IsSound here) (hlinks : t.HasNoLinks)
    (hlocate : t.locate here true dir = .ok ⟨place, .directory⟩)
    (hfits : ∀ other ∈ dir.names, other.utf8ByteSize ≤ nameLimit) (hentry : t.entry? (place ++ [name]) = some e) :
    (∃ part, filesOf t here suffixes depth dir name = .ok part) ↔ Fits (dir.child name) ∧
      (e = .directory → name ∉ skippedDirectories → Text.isBlankText (dir.child name).text = false ∧
        ∃ part, collectBelow t here suffixes depth (dir.child name) = .ok part) := by
  have hlegal := isLegalName_of_mem_children hsound (mem_children_of_entry hentry)
  have hchild := locate_child_eq hlegal hlocate hentry (hlinks.entry?_ne_link hentry)
  by_cases hfit : Fits (dir.child name)
  · rw [if_pos ((Fits.child_iff hfits).mp hfit)] at hchild
    cases e with
    | directory =>
      rw [filesOf_of_directory hchild]
      by_cases hskipped : name ∈ skippedDirectories
      · simp [hfit, hskipped]
      · cases hblank : Text.isBlankText (dir.child name).text <;> simp [hfit, hskipped]
    | file content => simp [filesOf_of_file hchild, hfit]
    | link target => exact absurd rfl (hlinks.entry?_ne_link hentry target)
  · rw [if_neg (mt (Fits.child_iff hfits).mpr hfit)] at hchild
    rw [filesOf_of_tooLong hchild rfl]
    simp [hfit]

/-- Nothing stops a walk where none of the names in the directory does, nor anything below those that are entered. -/
theorem isClear_iff (hlinks : t.HasNoLinks) : IsClear t dir place ↔ ∀ name e, t.entry? (place ++ [name]) = some e →
    Fits (dir.child name) ∧ (e = .directory → name ∉ skippedDirectories →
      Text.isBlankText (dir.child name).text = false ∧ IsClear t (dir.child name) (place ++ [name])) := by
  constructor
  · intro h name e hentry
    refine ⟨h.fits [name] (isVisited_singleton hentry), ?_⟩
    rintro rfl hskipped
    refine ⟨h.notBlank name hentry, fun rest hrest => ?_, fun other _ => not_blank_below dir name other⟩
    rw [Path.under_child]
    exact h.fits _ ((isVisited_cons_iff hlinks hrest.ne_nil).mpr ⟨hentry, hskipped, hrest⟩)
  · intro h
    refine ⟨fun more hmore => ?_, fun name hentry => ?_⟩
    · obtain ⟨name, rest, rfl⟩ := List.exists_cons_of_ne_nil hmore.ne_nil
      by_cases hrest : rest = []
      · subst hrest
        obtain ⟨e, hentry⟩ := hmore.entry
        exact (h name e hentry).1
      · obtain ⟨hentry, hskipped, hrest⟩ := (isVisited_cons_iff hlinks hrest).mp hmore
        rw [← Path.under_child]
        exact ((h name _ hentry).2 rfl hskipped).2.fits rest hrest
    · by_cases hskipped : name ∈ skippedDirectories
      · exact not_blank_of_skipped hskipped
      · exact ((h name _ hentry).2 rfl hskipped).1

/-- The files below a directory can be collected exactly where nothing stops the walk. -/
theorem exists_collectBelow_iff (hsound : t.IsSound here) (hlinks : t.HasNoLinks) :
    ∀ {depth : Nat} {dir : Path} {place : Place}, t.locate here true dir = .ok ⟨place, .directory⟩ →
    (∀ name ∈ dir.names, name ≠ "") →
    (∀ name ∈ dir.names, name.utf8ByteSize ≤ nameLimit) → pathLimit < dir.names.length + depth →
    ((∃ files, collectBelow t here suffixes depth dir = .ok files) ↔ IsClear t dir place) := by
  intro depth
  induction depth with
  | zero =>
    -- A path of that many names would be too long to be looked up.
    intro dir place hlocate hnames _ hdepth
    have hlong := (locate_eq_ok_iff.mp hlocate).2.1
    have hcount := Path.length_names_le hnames
    omega
  | succ depth ih =>
    intro dir place hlocate hnames hfits hdepth
    have hbelow : ∀ name, t.entry? (place ++ [name]) = some .directory → Fits (dir.child name) →
        ((∃ files, collectBelow t here suffixes depth (dir.child name) = .ok files) ↔
          IsClear t (dir.child name) (place ++ [name])) := fun name hentry hfit => by
      have hlegal := isLegalName_of_mem_children hsound (mem_children_of_entry hentry)
      refine ih ?_ ?_ hfit.names ?_
      · rw [locate_child_eq hlegal hlocate hentry (hlinks.entry?_ne_link hentry), if_pos ((Fits.child_iff hfits).mp hfit)]
      · exact List.forall_mem_append.mpr ⟨hnames, List.forall_mem_singleton.mpr hlegal.ne_empty⟩
      · rw [Path.child, List.length_append, List.length_singleton]
        omega
    rw [isClear_iff hlinks, collectBelow_succ (sortedNames_of_locate hlocate), exists_joinOutcomes_iff]
    constructor
    · intro h name e hentry
      obtain ⟨hfit, hdir⟩ := (exists_filesOf_iff hsound hlinks hlocate hfits hentry).mp
        (h name (List.mem_mergeSort.mpr (mem_children_of_entry hentry)))
      refine ⟨hfit, ?_⟩
      rintro rfl hskipped
      exact (hdir rfl hskipped).imp_right (hbelow name hentry hfit).mp
    · intro h name hname
      obtain ⟨e, hentry⟩ := exists_entry_of_mem_children (List.mem_mergeSort.mp hname)
      obtain ⟨hfit, hdir⟩ := h name e hentry
      refine (exists_filesOf_iff hsound hlinks hlocate hfits hentry).mpr ⟨hfit, ?_⟩
      rintro rfl hskipped
      exact (hdir rfl hskipped).imp_right (hbelow name hentry hfit).mpr

/-! ### The absolute path of a directory -/

theorem stride_of_directory (hlinks : t.HasNoLinks) {names : List String} {dir : Place}
    (hnames : ∀ name ∈ names, IsLegalName name) (hentry : t.entry? (dir ++ names) = some .directory) :
    (∀ name ∈ names, name.utf8ByteSize ≤ nameLimit) ∧ stride t true dir names = .arrived ⟨dir ++ names, .directory⟩ ∨
      ¬(∀ name ∈ names, name.utf8ByteSize ≤ nameLimit) ∧ stride t true dir names = .fault .nameTooLong := by
  induction names generalizing dir with
  | nil =>
    refine Or.inl ⟨fun name hname => absurd hname List.not_mem_nil, ?_⟩
    rw [stride, List.append_nil]
  | cons name rest ih =>
    obtain ⟨hname, hrest⟩ := List.forall_mem_cons.mp hnames
    have hplace : dir ++ name :: rest = dir ++ [name] ++ rest := List.append_cons _ _ _
    rw [hplace] at hentry ⊢
    rw [stride_name hname.ne_dot hname.ne_dotdot, List.forall_mem_cons]
    by_cases hsize : nameLimit < name.utf8ByteSize
    · rw [if_pos hsize]
      exact Or.inr ⟨fun h => Nat.not_le.mpr hsize h.1, rfl⟩
    · have hdir : t.entry? (dir ++ [name]) = some .directory := by
        by_cases hnil : rest = []
        · rwa [hnil, List.append_nil] at hentry
        · exact hlinks.entry?_of_append hnil hentry
      rw [if_neg hsize, hdir]
      obtain ⟨hsizes, hstride⟩ | ⟨hsizes, hstride⟩ := ih hrest hentry
      · exact Or.inl ⟨⟨Nat.not_lt.mp hsize, hsizes⟩, hstride⟩
      · exact Or.inr ⟨fun h => hsizes h.2, hstride⟩

theorem IsSound.legal_of_entry (hsound : t.IsSound here) (hentry : t.entry? place = some e) :
    ∀ name ∈ place, IsLegalName name := by
  by_cases hnil : place = []
  · rw [hnil]
    exact fun name hname => absurd hname List.not_mem_nil
  · exact hsound.legal _ (mem_entries_of_entry hnil hentry)

/-- A directory is found under its absolute path, unless that is too long. -/
theorem locate_root (hsound : t.IsSound here) (hlinks : t.HasNoLinks) (hentry : t.entry? place = some .directory) :
    Fits ⟨.root, place⟩ ∧ t.locate here true ⟨.root, place⟩ = .ok ⟨place, .directory⟩ ∨
      ¬Fits ⟨.root, place⟩ ∧ ∃ f, t.locate here true ⟨.root, place⟩ = .error f := by
  have hlegal := hsound.legal_of_entry hentry
  have hnull : (Path.text ⟨.root, place⟩).toList.contains '\x00' = false :=
    @Path.no_null_append place (fun name hname => (hlegal name hname).no_null) ⟨.root, []⟩ (by decide)
  have hstride := @stride_of_directory t hlinks place [] hlegal hentry
  by_cases hfit : Fits ⟨.root, place⟩
  · refine Or.inl ⟨hfit, locate_eq_ok_iff.mpr ⟨hnull, hfit.whole, ?_⟩⟩
    obtain ⟨-, hstride⟩ | ⟨hsizes, -⟩ := hstride
    · rw [show startOf here ⟨.root, place⟩ = [] from rfl, follow, hstride]
      rfl
    · exact absurd hfit.names hsizes
  · refine Or.inr ⟨hfit, ?_⟩
    cases hlocate : t.locate here true ⟨.root, place⟩ with
    | error f => exact ⟨f, rfl⟩
    | ok a =>
      obtain ⟨-, hwhole, hfollow⟩ := locate_eq_ok_iff.mp hlocate
      obtain ⟨hsizes, -⟩ | ⟨-, hstride⟩ := hstride
      · exact absurd ⟨hwhole, hsizes⟩ hfit
      · rw [show startOf here ⟨.root, place⟩ = [] from rfl, follow, hstride] at hfollow
        cases hfollow

/-! ### Both spellings -/

theorem not_blank_root (names : List String) : Text.isBlankText (Path.text ⟨.root, names⟩) = false := by
  by_cases hnil : names = []
  · rw [hnil]
    decide
  · rw [Path.text_of_names_ne_nil hnil, Text.isBlankText, String.toList_append, List.all_append]
    rfl

/-- Where nothing is found at a path, nothing is collected. -/
theorem collect_ne_ok {f : FileFault} (h : t.locate here true (Path.ofText root) = .error f) :
    t.collect here root given ≠ .ok files := by
  unfold collect probe
  dsimp only
  rw [h]
  cases Text.isBlankText root with
  | true => simp
  | false => cases habsent : f.kind.meansAbsent <;> simp [habsent]

theorem locate_here (t : FileTree) (here : Place) : t.locate here true ⟨.here, []⟩ = .ok ⟨here, .directory⟩ :=
  locate_eq_ok_iff.mpr ⟨by decide, by decide, by rw [follow, stride]; rfl⟩

theorem collect_here (t : FileTree) (here : Place) (given : List String) :
    t.collect here "." given = collectBelow t here (given.map Text.lower) (pathLimit + 1) ⟨.here, []⟩ :=
  collect_of_isDirectory (by decide) (isDirectory_eq_true_iff.mpr ⟨here, locate_here t here⟩)

theorem isClear_here_iff : IsClear t ⟨.here, []⟩ place ↔ (∀ more, IsVisited t place more → Fits ⟨.here, more⟩) ∧
    ∀ name, t.entry? (place ++ [name]) = some .directory → Text.isBlankText name = false := by
  have htext : ∀ name, (Path.child ⟨.here, []⟩ name).text = name := Path.text_name
  constructor
  · intro h
    exact ⟨h.fits, fun name hentry => htext name ▸ h.notBlank name hentry⟩
  · rintro ⟨hfits, hnames⟩
    exact ⟨hfits, fun name hentry => (htext name).symm ▸ hnames name hentry⟩

theorem isClear_root_iff : IsClear t ⟨.root, place⟩ place ↔
    ∀ more, IsVisited t place more → Fits ⟨.root, place ++ more⟩ :=
  ⟨fun h => h.fits, fun h => ⟨h, fun name _ => not_blank_root (place ++ [name])⟩⟩

theorem exists_collect_here_iff (hsound : t.IsSound here) (hlinks : t.HasNoLinks) (given : List String) :
    (∃ files, t.collect here "." given = .ok files) ↔ (∀ more, IsVisited t here more → Fits ⟨.here, more⟩) ∧
      ∀ name, t.entry? (here ++ [name]) = some .directory → Text.isBlankText name = false := by
  rw [collect_here, ← isClear_here_iff]
  exact exists_collectBelow_iff hsound hlinks (locate_here t here) (by simp) (by simp) (by simp)

/-- Where the files below a directory are collected by its absolute path, this path leads to it. -/
theorem collect_root (hsound : t.IsSound here) (hlinks : t.HasNoLinks) (hentry : t.entry? place = some .directory)
    (h : t.collect here (Path.text ⟨.root, place⟩) given = .ok files) : Fits ⟨.root, place⟩ ∧
      t.locate here true ⟨.root, place⟩ = .ok ⟨place, .directory⟩ := by
  refine (locate_root hsound hlinks hentry).resolve_right ?_
  rintro ⟨-, f, hfails⟩
  rw [← @Path.ofText_text .root place fun name hname => (hsound.legal_of_entry hentry name hname).isPart] at hfails
  exact collect_ne_ok hfails h

theorem collect_of_locate_root (hsound : t.IsSound here) (hentry : t.entry? place = some .directory)
    (h : t.locate here true ⟨.root, place⟩ = .ok ⟨place, .directory⟩) (given : List String) :
    t.collect here (Path.text ⟨.root, place⟩) given =
      collectBelow t here (given.map Text.lower) (pathLimit + 1) ⟨.root, place⟩ := by
  have hpath := @Path.ofText_text .root place fun name hname => (hsound.legal_of_entry hentry name hname).isPart
  rw [collect_of_isDirectory (not_blank_root place) (isDirectory_eq_true_iff.mpr ⟨place, hpath.symm ▸ h⟩), hpath]

theorem exists_collect_root_iff (hsound : t.IsSound here) (hlinks : t.HasNoLinks)
    (hentry : t.entry? place = some .directory) (given : List String) :
    (∃ files, t.collect here (Path.text ⟨.root, place⟩) given = .ok files) ↔ Fits ⟨.root, place⟩ ∧
      ∀ more, IsVisited t place more → Fits ⟨.root, place ++ more⟩ := by
  have hlegal := hsound.legal_of_entry hentry
  have hbelow : Fits ⟨.root, place⟩ → t.locate here true ⟨.root, place⟩ = .ok ⟨place, .directory⟩ →
      ((∃ files, t.collect here (Path.text ⟨.root, place⟩) given = .ok files) ↔
        ∀ more, IsVisited t place more → Fits ⟨.root, place ++ more⟩) := fun hfit hlocate => by
    rw [collect_of_locate_root hsound hentry hlocate, ← isClear_root_iff]
    exact exists_collectBelow_iff hsound hlinks hlocate (fun name hname => (hlegal name hname).ne_empty) hfit.names
      (by omega)
  constructor
  · rintro ⟨files, h⟩
    obtain ⟨hfit, hlocate⟩ := collect_root hsound hlinks hentry h
    exact ⟨hfit, (hbelow hfit hlocate).mp ⟨files, h⟩⟩
  · rintro ⟨hfit, hfits⟩
    obtain ⟨-, hlocate⟩ := (locate_root hsound hlinks hentry).resolve_right fun h => h.1 hfit
    exact (hbelow hfit hlocate).mpr hfits

/-- The files of the current directory can be collected by `.` where each relative path that the walk comes to fits and
    no directory there has a blank name, and by the absolute path where this fits and each absolute path does. Where both
    can be done, both list the same files in the same order, the one relative to the current directory and the other
    below its absolute path. -/
theorem collect_spelled (hsound : t.IsSound here) (hlinks : t.HasNoLinks) (hhere : t.entry? here = some .directory)
    (given : List String) :
    ((∃ files, t.collect here "." given = .ok files) ↔ (∀ more, IsVisited t here more → Fits ⟨.here, more⟩) ∧
      ∀ name, t.entry? (here ++ [name]) = some .directory → Text.isBlankText name = false) ∧
    ((∃ files, t.collect here (Path.text ⟨.root, here⟩) given = .ok files) ↔ Fits ⟨.root, here⟩ ∧
      ∀ more, IsVisited t here more → Fits ⟨.root, here ++ more⟩) ∧
    ∀ files files', t.collect here "." given = .ok files → t.collect here (Path.text ⟨.root, here⟩) given = .ok files' →
      ∃ mores : List (List String), files = mores.map (fun more => ⟨.here, more⟩) ∧
        files' = mores.map fun more => ⟨.root, here ++ more⟩ := by
  refine ⟨exists_collect_here_iff hsound hlinks given, exists_collect_root_iff hsound hlinks hhere given, ?_⟩
  intro files files' h h'
  obtain ⟨-, hlocate⟩ := collect_root hsound hlinks hhere h'
  rw [collect_here] at h
  rw [collect_of_locate_root hsound hhere hlocate] at h'
  exact collectBelow_alike hsound hlinks (locate_here t here) hlocate h h'

/-- A file in a directory whose name is a blank. -/
def blankNamed : FileTree :=
  ⟨[(["work"], .directory), (["work", " "], .directory), (["work", " ", "a.py"], .file (.octets []))]⟩

theorem isSound_blankNamed : blankNamed.IsSound ["work"] := by
  exact ⟨by decide, by decide, (straight_nil _).concat (by decide) (by decide) (by simp [ entry?, blankNamed])⟩

theorem hasNoLinks_blankNamed : blankNamed.HasNoLinks := ⟨by decide, by simp [blankNamed]⟩

/-- The directory with the blank name is entered by the absolute path only. -/
theorem collect_blankNamed : blankNamed.collect ["work"] "." [] = .error .blankPath ∧
    blankNamed.collect ["work"] (Path.text ⟨.root, ["work"]⟩) [] = .ok [⟨.root, ["work", " ", "a.py"]⟩] := by
  constructor
  · decide +kernel
  · decide +kernel

theorem collect_spelled_blankNamed : blankNamed.IsSound ["work"] ∧ blankNamed.HasNoLinks ∧
    blankNamed.entry? ["work"] = some .directory ∧ Text.isBlankText " " = true ∧
    ¬∃ files, blankNamed.collect ["work"] "." [] = .ok files := by
  refine ⟨isSound_blankNamed, hasNoLinks_blankNamed, rfl, by decide, fun h => ?_⟩
  obtain ⟨-, hnames⟩ := (collect_spelled isSound_blankNamed hasNoLinks_blankNamed rfl []).1.mp h
  exact absurd (hnames " " rfl) (by decide)

end FileTree

end CodeAtlas
