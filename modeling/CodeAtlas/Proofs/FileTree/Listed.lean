import CodeAtlas.Proofs.FileTree.Collecting
import CodeAtlas.Proofs.Text.Lower
import Mathlib

/-! What is listed of a tree without links. Below a directory these are all the regular files that no skipped directory
    is on the way to and whose suffix is asked for, each under the path of the directory with the names that lead to it,
    and no others. They stand in the order of their names, one component after the other: the names in a directory are
    sorted, and everything below one of them differs from what is below another in that very component. -/

namespace CodeAtlas.FileTree

/-- A tree of directories and regular files only, in which whatever holds an entry is a directory. -/
structure HasNoLinks (t : FileTree) : Prop where
  above : ∀ e ∈ t.entries, t.entry? e.1.dropLast = some .directory
  no_link : ∀ e ∈ t.entries, ∀ target, e.2 ≠ .link target

/-- The path is that of a regular file at some depth below the directory `dir`, which is at `place`; no directory on the
    way from there is a skipped one. -/
def IsSource (t : FileTree) (place : Place) (dir p : Path) : Prop :=
  ∃ more content, more ≠ [] ∧ p = ⟨dir.start, dir.names ++ more⟩ ∧ t.entry? (place ++ more) = some (.file content) ∧
    ∀ name ∈ more.dropLast, name ∉ skippedDirectories

variable {t : FileTree} {here place : Place} {suffixes : Suffixes} {given : List String} {depth : Nat} {dir p : Path}
  {name root : String} {e : Entry} {files part : List Path}

/-! ### Suffixes -/

theorem lower_lower (s : String) : Text.lower (Text.lower s) = Text.lower s := by
  simp [Text.lower, Text.lowerChars_lowerChars]

/-- A suffix is compared with those asked for in lower case. -/
theorem admit_lower_iff : Suffixes.admit (given.map Text.lower) p = true ↔
    given ≠ [] → ∃ s ∈ given, Text.lower s = Text.lower p.suffix := by
  cases given with
  | nil => simp [ Suffixes.admit]
  | cons s rest => simp [ Suffixes.admit, @eq_comm _ (Text.lower p.suffix)]

/-- Suffixes may have been put in lower case before, as often as one likes. -/
theorem collect_lower (t : FileTree) (here : Place) (root : String) (given : List String) :
    t.collect here root (given.map Text.lower) = t.collect here root given := by
  simp only [collect, List.map_map, Function.comp_def, lower_lower]

/-! ### Directories in directories -/

/-- It does not matter how many directories down one may go, if it is more than any path leads. -/
theorem collectBelow_eq_of_lt (hsound : t.IsSound here) : ∀ {depth depth' : Nat} {dir : Path},
    t.isDirectory here dir = .ok true → (∀ name ∈ dir.names, name ≠ "") → pathLimit < dir.names.length + depth →
    pathLimit < dir.names.length + depth' →
    collectBelow t here suffixes depth dir = collectBelow t here suffixes depth' dir := by
  intro depth
  induction depth with
  | zero =>
    intro depth' dir hdir hnames hdepth _
    have hfits := length_names_le_pathLimit hdir hnames
    omega
  | succ depth ih =>
    intro depth' dir hdir hnames hdepth hdepth'
    cases depth' with
    | zero =>
      have hfits := length_names_le_pathLimit hdir hnames
      omega
    | succ depth' =>
      obtain ⟨place, hlocate⟩ := isDirectory_eq_true_iff.mp hdir
      rw [collectBelow_succ (sortedNames_of_locate hlocate), collectBelow_succ (sortedNames_of_locate hlocate)]
      refine congrArg joinOutcomes (List.map_congr_left fun name hname => ?_)
      have hlegal := isLegalName_of_mem_children hsound (List.mem_mergeSort.mp hname)
      unfold filesOf
      cases hitem : t.isDirectory here (dir.child name) with
      | error f => rfl
      | ok isDir =>
        cases isDir with
        | false => rfl
        | true =>
          have hlength : (dir.child name).names.length = dir.names.length + 1 := List.length_append
          have hchild : ∀ other ∈ (dir.child name).names, other ≠ "" :=
            List.forall_mem_append.mpr ⟨hnames, List.forall_mem_singleton.mpr hlegal.ne_empty⟩
          simp only [@ih depth' _ hitem hchild (by omega) (by omega)]

/-- A directory in a directory is collected as by a path of its own, with the suffixes in lower case by then. -/
theorem collect_of_names (hsound : t.IsSound here) (hblank : Text.isBlankText root = false)
    (hroot : t.isDirectory here (Path.ofText root) = .ok true) {names : List String}
    (hnames : t.sortedNames here (Path.ofText root) = .ok names) (given : List String) :
    t.collect here root given = joinOutcomes (names.map fun name =>
      let item := (Path.ofText root).child name
      match t.isDirectory here item with
      | .error f => .error (.listing (Path.ofText root) f)
      | .ok true => if skippedDirectories.contains name then .ok [] else t.collect here item.text (given.map Text.lower)
      | .ok false => .ok (if Suffixes.admit (given.map Text.lower) item then [item] else [])) := by
  obtain ⟨place, -, rfl⟩ := sortedNames_eq_ok hnames
  rw [collect_of_isDirectory hblank hroot, collectBelow_succ hnames]
  refine congrArg joinOutcomes (List.map_congr_left fun name hname => ?_)
  have hlegal := isLegalName_of_mem_children hsound (List.mem_mergeSort.mp hname)
  have hparts : ∀ other ∈ ((Path.ofText root).child name).names, IsPart other :=
    List.forall_mem_append.mpr ⟨fun _ h => Path.isPart_of_mem_ofText h, List.forall_mem_singleton.mpr hlegal.isPart⟩
  have hread : Path.ofText ((Path.ofText root).child name).text = (Path.ofText root).child name := Path.ofText_text hparts
  unfold filesOf
  dsimp only
  cases hitem : t.isDirectory here ((Path.ofText root).child name) with
  | error f => rfl
  | ok isDir =>
    cases isDir with
    | false => rfl
    | true =>
      dsimp only
      split
      · rfl
      · rw [collect_lower]
        cases hchild : Text.isBlankText ((Path.ofText root).child name).text with
        | true => rw [collect, if_pos hchild, if_pos rfl]
        | false =>
          rw [collect_of_isDirectory hchild (hread.symm ▸ hitem), hread, if_neg Bool.false_ne_true]
          exact collectBelow_eq_of_lt hsound hitem (fun other h => (hparts other h).ne_empty)
            (by rw [Path.child, List.length_append, List.length_singleton]; omega) (by omega)

/-! ### Entries -/

theorem mem_entries_of_entry (hplace : place ≠ []) (h : t.entry? place = some e) : (place, e) ∈ t.entries := by
  rw [entry?_of_ne_nil hplace, Option.map_eq_some_iff] at h
  obtain ⟨⟨found, e⟩, hfind, rfl⟩ := h
  obtain rfl : found = place := by simpa using List.find?_some hfind
  exact List.mem_of_find?_eq_some hfind

theorem HasNoLinks.entry?_ne_link (h : t.HasNoLinks) (hentry : t.entry? (place ++ [name]) = some e) (target : String) :
    e ≠ .link target :=
  h.no_link _ (mem_entries_of_entry (Path.child_names_ne_nil ⟨.here, place⟩ name) hentry) target

/-- On the way to an entry there are only directories. -/
theorem HasNoLinks.entry?_of_append (h : t.HasNoLinks) {more : List String} (hmore : more ≠ []) :
    ∀ {e : Entry}, t.entry? (place ++ more) = some e → t.entry? place = some .directory := by
  induction more using List.reverseRecOn with
  | nil => exact absurd rfl hmore
  | append_singleton more last ih =>
    intro e hentry
    rw [← List.append_assoc] at hentry
    have habove := h.above _ (mem_entries_of_entry (Path.child_names_ne_nil ⟨.here, place ++ more⟩ last) hentry)
    rw [List.dropLast_concat] at habove
    by_cases hnil : more = []
    · rwa [hnil, List.append_nil] at habove
    · exact ih hnil habove

theorem exists_entry_of_mem_children (h : name ∈ t.children place) : ∃ e, t.entry? (place ++ [name]) = some e := by
  obtain ⟨old, hold, hplace⟩ := List.mem_map.mp (mem_places_of_mem_children h)
  rw [entry?_of_ne_nil (Path.child_names_ne_nil ⟨.here, place⟩ name)]
  cases hfind : t.entries.find? fun e => e.1 == place ++ [name] with
  | none => exact absurd hplace (by simpa using List.find?_eq_none.mp hfind old hold)
  | some found => exact ⟨found.2, rfl⟩

theorem mem_children_of_entry (h : t.entry? (place ++ [name]) = some e) : name ∈ t.children place := by
  rw [children_eq, List.mem_filterMap]
  exact ⟨_, mem_places_of_entry (Path.child_names_ne_nil ⟨.here, place⟩ name) h, by simp [nameIn]⟩

/-! ### Single names -/

/-- What is under a name in a directory is found there, unless the name is too long or the path with it. -/
theorem locate_child_eq (hlegal : IsLegalName name) (hlocate : t.locate here true dir = .ok ⟨place, .directory⟩)
    (hentry : t.entry? (place ++ [name]) = some e) (hlink : ∀ target, e ≠ .link target) :
    t.locate here true (dir.child name) =
      if (dir.child name).text.utf8ByteSize ≤ pathLimit ∧ name.utf8ByteSize ≤ nameLimit then .ok ⟨place ++ [name], e⟩
      else .error ⟨.nameTooLong, (dir.child name).text⟩ := by
  obtain ⟨hnull, -, hfollow⟩ := locate_eq_ok_iff.mp hlocate
  have hnull' := Path.no_null_child hnull hlegal.no_null
  obtain ⟨left, hleft⟩ := follow_append hfollow
  have hlast : follow t true linkLimit (startOf here dir) (dir.child name).names = follow t true left place [name] :=
    hleft [name] true (List.cons_ne_nil _ _)
  rw [follow.eq_def t true left] at hlast
  dsimp only at hlast
  rw [stride_name hlegal.ne_dot hlegal.ne_dotdot, hentry] at hlast
  by_cases hlong : pathLimit < (dir.child name).text.utf8ByteSize
  · rw [locate, hnull', if_neg Bool.false_ne_true, if_pos hlong, if_neg fun h => Nat.not_le.mpr hlong h.1]
  · by_cases hsize : nameLimit < name.utf8ByteSize
    · rw [if_pos hsize] at hlast
      have hno : ¬((dir.child name).text.utf8ByteSize ≤ pathLimit ∧ name.utf8ByteSize ≤ nameLimit) :=
        fun h => Nat.not_le.mpr hsize h.2
      rw [if_neg hno, locate, hnull', if_neg Bool.false_ne_true, if_neg hlong]
      exact congrArg (Except.mapError _) hlast
    · rw [if_neg hsize] at hlast
      rw [if_pos ⟨Nat.not_lt.mp hlong, Nat.not_lt.mp hsize⟩]
      refine locate_eq_ok_iff.mpr ⟨hnull', Nat.not_lt.mp hlong, hlast.trans ?_⟩
      cases e with
      | directory | file => rfl
      | link target => exact absurd rfl (hlink target)

theorem locate_child (hlegal : IsLegalName name) (hlocate : t.locate here true dir = .ok ⟨place, .directory⟩)
    (hentry : t.entry? (place ++ [name]) = some e) (hlink : ∀ target, e ≠ .link target) :
    t.locate here true (dir.child name) = .ok ⟨place ++ [name], e⟩ ∨
      ∃ f, t.locate here true (dir.child name) = .error f ∧ f.kind = .nameTooLong := by
  rw [locate_child_eq hlegal hlocate hentry hlink]
  split
  · exact Or.inl rfl
  · exact Or.inr ⟨_, rfl, rfl⟩

theorem filesOf_of_directory (h : t.locate here true (dir.child name) = .ok ⟨place, .directory⟩) :
    filesOf t here suffixes depth dir name = if skippedDirectories.contains name then .ok []
      else if Text.isBlankText (dir.child name).text then .error .blankPath
      else collectBelow t here suffixes depth (dir.child name) := by
  rw [filesOf, isDirectory_eq_true_iff.mpr ⟨place, h⟩]

theorem filesOf_of_file {content : Content} (h : t.locate here true (dir.child name) = .ok ⟨place, .file content⟩) :
    filesOf t here suffixes depth dir name = .ok (if suffixes.admit (dir.child name) then [dir.child name] else []) := by
  have hno : t.isDirectory here (dir.child name) = .ok false := by
    rw [isDirectory, probe, h]
    rfl
  rw [filesOf, hno]

theorem filesOf_of_tooLong {f : FileFault} (h : t.locate here true (dir.child name) = .error f)
    (hkind : f.kind = .nameTooLong) :
    filesOf t here suffixes depth dir name = .error (.listing dir f) := by
  have hfails : t.isDirectory here (dir.child name) = .error f := by
    simp [isDirectory, probe, h, hkind, FaultKind.meansAbsent, Except.map]
  rw [filesOf, hfails]

/-- Where the files of a name are collected, the name leads to a directory that is passed over or entered, or to a file
    whose suffix decides. -/
inductive Yields (t : FileTree) (here : Place) (suffixes : Suffixes) (depth : Nat) (dir : Path) (place : Place)
    (name : String) : List Path → Prop
  | skipped : t.entry? (place ++ [name]) = some .directory → name ∈ skippedDirectories →
      Yields t here suffixes depth dir place name []
  | entered {part : List Path} : t.entry? (place ++ [name]) = some .directory → name ∉ skippedDirectories →
    t.locate here true (dir.child name) = .ok ⟨place ++ [name], .directory⟩ →
    collectBelow t here suffixes depth (dir.child name) = .ok part → Yields t here suffixes depth dir place name part
  | file {content : Content} : t.entry? (place ++ [name]) = some (.file content) →
      Yields t here suffixes depth dir place name (if suffixes.admit (dir.child name) then [dir.child name] else [])

theorem yields_of_filesOf (hsound : t.IsSound here) (hlinks : t.HasNoLinks)
    (hlocate : t.locate here true dir = .ok ⟨place, .directory⟩) (hname : name ∈ t.children place)
    (h : filesOf t here suffixes depth dir name = .ok part) : Yields t here suffixes depth dir place name part := by
  obtain ⟨e, hentry⟩ := exists_entry_of_mem_children hname
  obtain hchild | ⟨f, hchild, hkind⟩ := locate_child (isLegalName_of_mem_children hsound hname) hlocate hentry
    (hlinks.entry?_ne_link hentry)
  · cases e with
    | directory =>
      rw [filesOf_of_directory hchild] at h
      split at h
      · rename_i hskipped
        obtain rfl := Except.ok.inj h
        exact .skipped hentry (List.contains_iff_mem.mp hskipped)
      · rename_i hskipped
        split at h
        · cases h
        · exact .entered hentry (fun hmem => hskipped (List.contains_iff_mem.mpr hmem)) hchild h
    | file content =>
      rw [filesOf_of_file hchild] at h
      obtain rfl := Except.ok.inj h
      exact .file hentry
    | link target => exact absurd rfl (hlinks.entry?_ne_link hentry target)
  · rw [filesOf_of_tooLong hchild hkind] at h
    cases h

/-! ### Everything below a directory -/

/-- A file below a directory stands in it, or below one of the directories in it. -/
theorem isSource_iff (hlinks : t.HasNoLinks) : IsSource t place dir p ↔ ∃ name ∈ t.children place,
    (∃ content, t.entry? (place ++ [name]) = some (.file content)) ∧ p = dir.child name ∨
      t.entry? (place ++ [name]) = some .directory ∧ name ∉ skippedDirectories ∧
        IsSource t (place ++ [name]) (dir.child name) p := by
  constructor
  · rintro ⟨more, content, hmore, rfl, hentry, hway⟩
    obtain ⟨name, rest, rfl⟩ := List.exists_cons_of_ne_nil hmore
    by_cases hrest : rest = []
    · subst hrest
      exact ⟨name, mem_children_of_entry hentry, Or.inl ⟨⟨content, hentry⟩, rfl⟩⟩
    · rw [List.append_cons] at hentry
      rw [List.dropLast_cons_of_ne_nil hrest] at hway
      obtain ⟨hname, hway⟩ := List.forall_mem_cons.mp hway
      have hdir := hlinks.entry?_of_append hrest hentry
      exact ⟨name, mem_children_of_entry hdir, Or.inr ⟨hdir, hname, rest, content, hrest, by simp [Path.child], hentry, hway⟩⟩
  · rintro ⟨name, -, ⟨⟨content, hentry⟩, rfl⟩ | ⟨-, hname, rest, content, hrest, rfl, hentry, hway⟩⟩
    · exact ⟨[name], content, List.cons_ne_nil _ _, rfl, hentry, by simp⟩
    · refine ⟨name :: rest, content, List.cons_ne_nil _ _, by simp [Path.child], by rwa [List.append_cons], ?_⟩
      rw [List.dropLast_cons_of_ne_nil hrest]
      exact List.forall_mem_cons.mpr ⟨hname, hway⟩

/-- The files of one name are those with this name or below it. -/
theorem Yields.mem_iff (h : Yields t here suffixes depth dir place name part)
    (hbelow : ∀ files, t.locate here true (dir.child name) = .ok ⟨place ++ [name], .directory⟩ →
      collectBelow t here suffixes depth (dir.child name) = .ok files →
      (p ∈ files ↔ IsSource t (place ++ [name]) (dir.child name) p ∧ suffixes.admit p = true)) :
    p ∈ part ↔ ((∃ content, t.entry? (place ++ [name]) = some (.file content)) ∧ p = dir.child name ∨
      t.entry? (place ++ [name]) = some .directory ∧ name ∉ skippedDirectories ∧
        IsSource t (place ++ [name]) (dir.child name) p) ∧ suffixes.admit p = true := by
  cases h with
  | skipped hentry hskipped => simp [hentry, hskipped]
  | entered hentry hskipped hchild hpart => simp [hbelow part hchild hpart, hentry, hskipped]
  | file hentry =>
    simp only [hentry, Option.some.injEq, Entry.file.injEq, exists_eq', true_and, reduceCtorEq, false_and, or_false]
    split
    · rename_i hadmit
      rw [List.mem_singleton]
      exact ⟨fun heq => ⟨heq, heq ▸ hadmit⟩, And.left⟩
    · rename_i hadmit
      exact ⟨fun hp => absurd hp List.not_mem_nil, fun hp => absurd (hp.1 ▸ hp.2) hadmit⟩

/-- Exactly the files below a directory whose suffix is asked for are collected. The induction is on the depth, which
    every directory entered lowers. -/
theorem mem_collectBelow_iff (hsound : t.IsSound here) (hlinks : t.HasNoLinks) : ∀ {depth : Nat} {dir : Path}
    {place : Place} {files : List Path}, t.locate here true dir = .ok ⟨place, .directory⟩ →
    collectBelow t here suffixes depth dir = .ok files →
    ∀ p, p ∈ files ↔ IsSource t place dir p ∧ suffixes.admit p = true := by
  intro depth
  induction depth with
  | zero =>
    intro dir place files _ h
    cases h
  | succ depth ih =>
    intro dir place files hlocate h p
    obtain ⟨less, found, part, hless, hfound, hparts, rfl⟩ := collectBelow_cases h
    obtain rfl := Nat.succ.inj hless
    obtain rfl : found = place := congrArg Located.place (Except.ok.inj (hfound.symm.trans hlocate))
    have hmem : ∀ name ∈ t.children found, (p ∈ part name ↔ _) := fun name hname =>
      (yields_of_filesOf hsound hlinks hlocate hname (hparts name hname)).mem_iff fun files hchild hbelow =>
        ih hchild hbelow p
    rw [isSource_iff hlinks]
    simp only [List.mem_flatMap, List.mem_mergeSort]
    constructor
    · rintro ⟨name, hname, hp⟩
      obtain ⟨hcase, hadmit⟩ := (hmem name hname).mp hp
      exact ⟨⟨name, hname, hcase⟩, hadmit⟩
    · rintro ⟨⟨name, hname, hcase⟩, hadmit⟩
      exact ⟨name, hname, (hmem name hname).mpr ⟨hcase, hadmit⟩⟩

theorem isBlankText_of_collect (h : t.collect here root given = .ok files) : Text.isBlankText root = false := by
  cases hblank : Text.isBlankText root with
  | false => rfl
  | true =>
    rw [collect, if_pos hblank] at h
    cases h

/-- Where the files below a directory are collected, they are the regular files at any depth below it that no skipped
    directory is on the way to and whose suffix is one of those asked for, be it in capitals or not, with none left out.
    None is there twice, and they stand in the order of the names that lead to them. -/
theorem collect_lists (hsound : t.IsSound here) (hlinks : t.HasNoLinks)
    (hroot : t.locate here true (Path.ofText root) = .ok ⟨place, .directory⟩)
    (h : t.collect here root given = .ok files) :
    files.Nodup ∧ files.Pairwise (fun p q => p.names < q.names) ∧
      (∀ p, p ∈ files ↔ IsSource t place (Path.ofText root) p ∧
        (given ≠ [] → ∃ s ∈ given, Text.lower s = Text.lower p.suffix)) ∧
      t.collect here root (given.map Text.lower) = .ok files := by
  have hbelow : collectBelow t here (given.map Text.lower) (pathLimit + 1) (Path.ofText root) = .ok files := by
    rw [← h, collect_of_isDirectory (isBlankText_of_collect h) (isDirectory_eq_true_iff.mpr ⟨place, hroot⟩)]
  refine ⟨nodup_collectBelow hsound hbelow, pairwise_collectBelow hsound hbelow, fun p => ?_, ?_⟩
  · rw [mem_collectBelow_iff hsound hlinks hroot hbelow, admit_lower_iff]
  · rw [collect_lower, h]

/-- A file whose name begins like that of a directory beside it. -/
def nested : FileTree :=
  ⟨[(["src"], .directory), (["src", ".git"], .directory), (["src", ".git", "hook.py"], .file (.octets [])),
    (["src", "Z.PY"], .file (.octets [])), (["src", "a"], .directory), (["src", "a", "deep.py"], .file (.octets [])),
    (["src", "a", "notes.txt"], .file (.octets [])), (["src", "a.b"], .file (.octets []))]⟩

theorem isSound_nested : nested.IsSound [] := ⟨by decide, by decide, straight_nil _⟩

theorem hasNoLinks_nested : nested.HasNoLinks := ⟨by decide, by simp [nested]⟩

theorem filesOf_nested : filesOf nested [] [".py", ".b"] pathLimit ⟨.here, ["src"]⟩ "a" =
    .ok [⟨.here, ["src", "a", "deep.py"]⟩] := by
  have hbelow : filesOf nested [] [".py", ".b"] pathLimit ⟨.here, ["src"]⟩ "a" =
    collectBelow nested [] [".py", ".b"] pathLimit ⟨.here, ["src", "a"]⟩ := rfl
  rw [hbelow, show pathLimit = 4094 + 1 from rfl, collectBelow_of_sorted rfl (by decide)]
  rfl

theorem collect_nested : nested.collect [] "src" [".Py", ".B"] =
    .ok [⟨.here, ["src", "Z.PY"]⟩, ⟨.here, ["src", "a", "deep.py"]⟩, ⟨.here, ["src", "a.b"]⟩] := by
  have hsuffixes : [".Py", ".B"].map Text.lower = [".py", ".b"] := by decide +kernel
  have hsrc : Path.ofText "src" = ⟨.here, ["src"]⟩ := rfl
  have hlocate : nested.locate [] true (Path.ofText "src") = .ok ⟨["src"], .directory⟩ := rfl
  have hchildren : nested.children ["src"] = [".git", "Z.PY", "a", "a.b"] := rfl
  rw [collect_of_sorted rfl hlocate (by decide), hsuffixes, hsrc, hchildren]
  simp only [List.map_cons, filesOf_nested]
  decide +kernel

/-- The file beside the directory comes after all that is below it. -/
theorem collect_lists_nested : ∃ files, nested.collect [] "src" [".Py", ".B"] = .ok files ∧
    files = [⟨.here, ["src", "Z.PY"]⟩, ⟨.here, ["src", "a", "deep.py"]⟩, ⟨.here, ["src", "a.b"]⟩] ∧
    files.Nodup ∧ files.Pairwise (fun p q => p.names < q.names) ∧
    (∀ p, p ∈ files ↔ IsSource nested ["src"] (Path.ofText "src") p ∧
      ([".Py", ".B"] ≠ [] → ∃ s ∈ [".Py", ".B"], Text.lower s = Text.lower p.suffix)) ∧
    nested.collect [] "src" ([".Py", ".B"].map Text.lower) = .ok files :=
  ⟨_, collect_nested, rfl, collect_lists isSound_nested hasNoLinks_nested rfl collect_nested⟩

end CodeAtlas.FileTree
