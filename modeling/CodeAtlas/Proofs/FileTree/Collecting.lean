import CodeAtlas.FileTree.Collect
import CodeAtlas.Proofs.FileTree.Paths
import CodeAtlas.Proofs.FileTree.Reading
import CodeAtlas.Proofs.FileTree.Real

/-! What is collected below a directory. Nothing is collected twice, and where the directory is there, a collection
    fails only at a name that is too long to be looked up or at a blank one. -/

namespace CodeAtlas.FileTree

/-- A tree as a file system has it, seen from one of its directories: every entry has a place and names of its own,
    and the directory is known by a place that no link is on the way to. -/
structure IsSound (t : FileTree) (here : Place) : Prop where
  distinct : (t.entries.map (·.1)).Nodup
  legal : ∀ e ∈ t.entries, ∀ name ∈ e.1, IsLegalName name
  here : Straight t here

variable {t : FileTree} {here place : Place} {suffixes : Suffixes} {depth : Nat} {dir p : Path} {name : String}
  {names : List String} {files : List Path}

/-! ### Outcomes together -/

section Outcomes
variable {ε α β : Type} {f : α → Except ε (List β)} {l : List α}

theorem joinOutcomes_eq_ok {found : List β} (h : joinOutcomes (l.map f) = .ok found) :
    ∃ part : α → List β, (∀ a ∈ l, f a = .ok (part a)) ∧ found = l.flatMap part := by
  refine ⟨fun a => (f a).toOption.getD [], ?_⟩
  induction l generalizing found with
  | nil =>
    obtain rfl := Except.ok.inj h
    exact ⟨fun a ha => absurd ha List.not_mem_nil, rfl⟩
  | cons a rest ih =>
    rw [List.map_cons] at h
    cases hfirst : f a with
    | error e =>
      rw [hfirst] at h
      cases h
    | ok first =>
      rw [hfirst, joinOutcomes] at h
      cases hrest : joinOutcomes (rest.map f) with
      | error e =>
        rw [hrest] at h
        cases h
      | ok others =>
        rw [hrest] at h
        obtain rfl := Except.ok.inj h
        obtain ⟨hparts, hothers⟩ := ih hrest
        refine ⟨List.forall_mem_cons.mpr ⟨?_, hparts⟩, ?_⟩
        · simp [hfirst, Except.toOption]
        · simp [hothers, hfirst, Except.toOption]

theorem exists_of_joinOutcomes_eq_error {e : ε} (h : joinOutcomes (l.map f) = .error e) : ∃ a ∈ l, f a = .error e := by
  induction l with
  | nil => cases h
  | cons a rest ih =>
    rw [List.map_cons] at h
    cases hfirst : f a with
    | error e' =>
      rw [hfirst] at h
      obtain rfl := Except.error.inj h
      exact ⟨a, List.mem_cons_self, hfirst⟩
    | ok first =>
      rw [hfirst, joinOutcomes] at h
      cases hrest : joinOutcomes (rest.map f) with
      | error e' =>
        rw [hrest] at h
        obtain rfl := Except.error.inj h
        obtain ⟨b, hb, hfails⟩ := ih hrest
        exact ⟨b, List.mem_cons_of_mem a hb, hfails⟩
      | ok others =>
        rw [hrest] at h
        cases h

end Outcomes

/-! ### Directories -/

/-- The name by which a directory has a place in it. -/
def nameIn (dir p : Place) : Option String := if p.length = dir.length + 1 && dir.isPrefixOf p then p.getLast? else none

theorem children_eq (t : FileTree) (dir : Place) : t.children dir = (t.entries.map (·.1)).filterMap (nameIn dir) := by
  rw [children, List.filterMap_map]
  rfl

theorem nameIn_eq_some {dir p : Place} (h : nameIn dir p = some name) : p = dir ++ [name] := by
  unfold nameIn at h
  split at h
  · rename_i hbelow
    simp only [Bool.and_eq_true, decide_eq_true_eq, List.isPrefixOf_iff_prefix] at hbelow
    obtain ⟨hlength, more, rfl⟩ := hbelow
    rw [List.length_append, Nat.add_left_cancel_iff] at hlength
    obtain ⟨last, rfl⟩ := List.length_eq_one_iff.mp hlength
    rw [List.getLast?_concat] at h
    rw [Option.some.inj h]
  · cases h

theorem mem_places_of_mem_children (h : name ∈ t.children place) : place ++ [name] ∈ t.entries.map (·.1) := by
  rw [children_eq, List.mem_filterMap] at h
  obtain ⟨p, hp, hname⟩ := h
  exact nameIn_eq_some hname ▸ hp

theorem nodup_children (h : t.IsSound here) (place : Place) : (t.children place).Nodup := by
  rw [children_eq]
  refine h.distinct.filterMap fun p q name hp hq => ?_
  rw [nameIn_eq_some hp, nameIn_eq_some hq]

theorem isLegalName_of_mem_children (h : t.IsSound here) (hname : name ∈ t.children place) : IsLegalName name := by
  obtain ⟨e, he, hplace⟩ := List.mem_map.mp (mem_places_of_mem_children hname)
  exact h.legal e he name (hplace ▸ List.mem_append_right place List.mem_cons_self)

theorem sortedNames_of_locate (h : t.locate here true dir = .ok ⟨place, .directory⟩) :
    t.sortedNames here dir = .ok ((t.children place).mergeSort fun a b => a ≤ b) := by
  rw [sortedNames, h]

theorem sortedNames_eq_ok (h : t.sortedNames here dir = .ok names) :
    ∃ place, t.locate here true dir = .ok ⟨place, .directory⟩ ∧ names = (t.children place).mergeSort fun a b => a ≤ b := by
  unfold sortedNames at h
  split at h
  · cases h
  · rename_i place hlocate
    exact ⟨place, hlocate, (Except.ok.inj h).symm⟩
  · cases h

/-- What a name in a directory has to be collected: itself, or what is below it. -/
def filesOf (t : FileTree) (here : Place) (suffixes : Suffixes) (depth : Nat) (dir : Path) (name : String) :
    Except CollectFault (List Path) :=
  match t.isDirectory here (dir.child name) with
  | .error f => .error (.listing dir f)
  | .ok true =>
    if skippedDirectories.contains name then .ok []
    else if Text.isBlankText (dir.child name).text then .error .blankPath
    else collectBelow t here suffixes depth (dir.child name)
  | .ok false => .ok (if suffixes.admit (dir.child name) then [dir.child name] else [])

theorem collectBelow_succ (h : t.sortedNames here dir = .ok names) :
    collectBelow t here suffixes (depth + 1) dir = joinOutcomes (names.map (filesOf t here suffixes depth dir)) := by
  rw [collectBelow, h]
  rfl

theorem filesOf_eq_ok {part : List Path} (h : filesOf t here suffixes depth dir name = .ok part) :
    part = [] ∨ part = [dir.child name] ∨ collectBelow t here suffixes depth (dir.child name) = .ok part := by
  unfold filesOf at h
  split at h
  · cases h
  · split at h
    · exact Or.inl (Except.ok.inj h).symm
    · split at h
      · cases h
      · exact Or.inr (Or.inr h)
  · obtain rfl := Except.ok.inj h
    split
    · exact Or.inr (Or.inl rfl)
    · exact Or.inl rfl

/-! ### What is collected -/

/-- The path has legal names below those of the directory, the first of which is given. -/
structure Below (dir : Path) (name : String) (p : Path) : Prop where
  start : p.start = dir.start
  names : ∃ more, p.names = dir.names ++ name :: more ∧ ∀ other ∈ name :: more, IsLegalName other

theorem Below.child (hname : IsLegalName name) : Below dir name (dir.child name) :=
  ⟨rfl, [], rfl, List.forall_mem_singleton.mpr hname⟩

theorem Below.of_child {first : String} (hname : IsLegalName name) (h : Below (dir.child name) first p) : Below dir name p := by
  obtain ⟨more, hmore, hlegal⟩ := h.names
  refine ⟨h.start, first :: more, ?_, List.forall_mem_cons.mpr ⟨hname, hlegal⟩⟩
  rw [hmore, Path.child, List.append_assoc, List.singleton_append]

theorem collectBelow_cases (h : collectBelow t here suffixes depth dir = .ok files) :
    ∃ less place part, depth = less + 1 ∧ t.locate here true dir = .ok ⟨place, .directory⟩ ∧
      (∀ name ∈ t.children place, filesOf t here suffixes less dir name = .ok (part name)) ∧
      files = ((t.children place).mergeSort fun a b => a ≤ b).flatMap part := by
  cases depth with
  | zero => cases h
  | succ depth =>
    cases hnames : t.sortedNames here dir with
    | error f =>
      rw [collectBelow, hnames] at h
      cases h
    | ok names =>
      rw [collectBelow_succ hnames] at h
      obtain ⟨place, hlocate, rfl⟩ := sortedNames_eq_ok hnames
      obtain ⟨part, hparts, rfl⟩ := joinOutcomes_eq_ok h
      exact ⟨depth, place, part, rfl, hlocate, fun name hname => hparts name (List.mem_mergeSort.mpr hname), rfl⟩

theorem below_of_mem_filesOf (hsound : t.IsSound here) : ∀ {depth : Nat} {dir : Path} {name : String} {part : List Path},
    IsLegalName name → filesOf t here suffixes depth dir name = .ok part → ∀ p ∈ part, Below dir name p := by
  intro depth
  induction depth with
  | zero =>
    intro dir name part hlegal h p hp
    rcases filesOf_eq_ok h with rfl | rfl | hpart
    · cases hp
    · obtain rfl := List.mem_singleton.mp hp
      exact .child hlegal
    · cases hpart
  | succ depth ih =>
    intro dir name part hlegal h p hp
    rcases filesOf_eq_ok h with rfl | rfl | hpart
    · cases hp
    · obtain rfl := List.mem_singleton.mp hp
      exact .child hlegal
    · obtain ⟨less, place, part, hless, -, hparts, rfl⟩ := collectBelow_cases hpart
      obtain rfl := Nat.succ.inj hless
      obtain ⟨first, hfirst, hp⟩ := List.mem_flatMap.mp hp
      rw [List.mem_mergeSort] at hfirst
      exact (ih (isLegalName_of_mem_children hsound hfirst) (hparts first hfirst) p hp).of_child hlegal

theorem exists_below_of_mem (hsound : t.IsSound here) (h : collectBelow t here suffixes depth dir = .ok files) :
    ∀ p ∈ files, ∃ name, Below dir name p := by
  intro p hp
  obtain ⟨_, place, part, -, -, hparts, rfl⟩ := collectBelow_cases h
  obtain ⟨name, hname, hp⟩ := List.mem_flatMap.mp hp
  rw [List.mem_mergeSort] at hname
  exact ⟨name, below_of_mem_filesOf hsound (isLegalName_of_mem_children hsound hname) (hparts name hname) p hp⟩

theorem pairwise_sortedNames (hsound : t.IsSound here) (place : Place) :
    ((t.children place).mergeSort fun a b => a ≤ b).Pairwise (· < ·) := by
  have hle : ((t.children place).mergeSort fun a b => a ≤ b).Pairwise (· ≤ ·) :=
    List.pairwise_mergeSort' (· ≤ ·) (t.children place)
  exact (hle.and (List.nodup_mergeSort.mpr (nodup_children hsound place))).imp fun h => lt_of_le_of_ne h.1 h.2

/-- What is collected stands in the order of the names, one after the other. -/
theorem pairwise_collectBelow (hsound : t.IsSound here) : ∀ {depth : Nat} {dir : Path} {files : List Path},
    collectBelow t here suffixes depth dir = .ok files → files.Pairwise fun p q => p.names < q.names := by
  intro depth
  induction depth with
  | zero =>
    intro dir files h
    cases h
  | succ depth ih =>
    intro dir files h
    obtain ⟨less, place, part, hless, -, hparts, rfl⟩ := collectBelow_cases h
    obtain rfl := Nat.succ.inj hless
    refine List.pairwise_flatMap.mpr ⟨fun name hname => ?_, ?_⟩
    · rcases filesOf_eq_ok (hparts name (List.mem_mergeSort.mp hname)) with hpart | hpart | hpart
      · rw [hpart]
        exact List.Pairwise.nil
      · rw [hpart]
        exact List.pairwise_singleton _ _
      · exact ih hpart
    · -- What is below different names differs first in these names.
      refine (pairwise_sortedNames hsound place).imp_of_mem fun {a b} ha hb hlt p hpa q hqb => ?_
      have hbelow : ∀ name ∈ (t.children place).mergeSort fun a b => a ≤ b, ∀ p ∈ part name, Below dir name p :=
        fun name hname => by
          rw [List.mem_mergeSort] at hname
          exact below_of_mem_filesOf hsound (isLegalName_of_mem_children hsound hname) (hparts name hname)
      obtain ⟨moreA, hmoreA, -⟩ := (hbelow a ha p hpa).names
      obtain ⟨moreB, hmoreB, -⟩ := (hbelow b hb q hqb).names
      rw [hmoreA, hmoreB]
      exact List.append_left_lt (List.cons_lt_cons_iff.mpr (Or.inl hlt))

/-- Nothing is collected twice. -/
theorem nodup_collectBelow (hsound : t.IsSound here) (h : collectBelow t here suffixes depth dir = .ok files) :
    files.Nodup := by
  refine (pairwise_collectBelow hsound h).imp fun {p q} hlt heq => ?_
  rw [heq] at hlt
  exact lt_irrefl _ hlt

/-! ### Why nothing is collected -/

theorem follow_fault_cases {last : Bool} {links : Nat} {dir : Place} {names : List String} {kind : FaultKind}
    (h : follow t last links dir names = .error kind) : kind = .nameTooLong ∨ kind.meansAbsent = true := by
  unfold follow at h
  cases hstride : stride t last dir names with
  | arrived a =>
    rw [hstride] at h
    cases h
  | fault found =>
    rw [hstride] at h
    cases h
    rcases stride_fault_cases dir names hstride with rfl | rfl | rfl
    · exact Or.inl rfl
    · exact Or.inr rfl
    · exact Or.inr rfl
  | link from_ target rest =>
    rw [hstride] at h
    cases links with
    | zero =>
      cases h
      exact Or.inr rfl
    | succ links => exact follow_fault_cases h

/-- A look-up fails because there is nothing, or because a name is too long. -/
theorem locate_fault_cases {last : Bool} {f : FileFault} (h : t.locate here last p = .error f) :
    f.kind = .nameTooLong ∨ f.kind.meansAbsent = true := by
  unfold locate at h
  split at h
  · cases h
    exact Or.inr rfl
  · split at h
    · cases h
      exact Or.inl rfl
    · cases hfollow : follow t last linkLimit (if p.isAbsolute then [] else here) p.names with
      | ok a =>
        rw [hfollow] at h
        cases h
      | error kind =>
        rw [hfollow] at h
        cases h
        exact follow_fault_cases hfollow

theorem isDirectory_eq_error {f : FileFault} (h : t.isDirectory here p = .error f) :
    t.locate here true p = .error f ∧ f.kind = .nameTooLong := by
  unfold isDirectory probe at h
  cases hlocate : t.locate here true p with
  | ok a =>
    rw [hlocate] at h
    cases h
  | error g =>
    rw [hlocate] at h
    dsimp only at h
    split at h
    · cases h
    · rename_i hpresent
      obtain rfl := Except.error.inj h
      exact ⟨rfl, (locate_fault_cases hlocate).resolve_right hpresent⟩

/-- What keeps the files below a directory from being collected: an entry of the current directory with a blank name,
    or a name somewhere below that is too long to be looked up. -/
inductive Hinders (t : FileTree) (here : Place) (dir : Path) : CollectFault → Prop
  | blank {name : String} : dir = ⟨.here, []⟩ → Text.isBlankText name = true → t.isDirectory here (dir.child name) = .ok true →
      Hinders t here dir .blankPath
  | tooLong {sub : Path} {name : String} {f : FileFault} : sub.start = dir.start → dir.names <+: sub.names →
    t.locate here true (sub.child name) = .error f → f.kind = .nameTooLong → Hinders t here dir (.listing sub f)

/-- What hinders a collection below a name hinders the whole of it. -/
theorem Hinders.of_child {name : String} {fault : CollectFault} (h : Hinders t here (dir.child name) fault) :
    Hinders t here dir fault := by
  cases h with
  | blank heq => exact absurd (congrArg Path.names heq) (Path.child_names_ne_nil dir name)
  | tooLong hstart hprefix hlocate hkind =>
    exact .tooLong hstart ((List.prefix_append _ _).trans hprefix) hlocate hkind

/-- No path to a directory has more names than a path has characters at most. -/
theorem length_names_le_pathLimit (hdir : t.isDirectory here dir = .ok true) (hnames : ∀ name ∈ dir.names, name ≠ "") :
    dir.names.length ≤ pathLimit := by
  obtain ⟨place, hlocate⟩ := isDirectory_eq_true_iff.mp hdir
  have hlong := (locate_eq_ok_iff.mp hlocate).2.1
  have hcount := Path.length_names_le hnames
  omega

theorem hinders_of_collectBelow (hsound : t.IsSound here) : ∀ {depth : Nat} {dir : Path} {fault : CollectFault},
    t.isDirectory here dir = .ok true → (∀ name ∈ dir.names, name ≠ "") → pathLimit < dir.names.length + depth →
    collectBelow t here suffixes depth dir = .error fault → Hinders t here dir fault := by
  intro depth
  induction depth with
  | zero =>
    -- The path would be longer than any that leads somewhere.
    intro dir fault hdir hnames hdepth h
    have hfits := length_names_le_pathLimit hdir hnames
    omega
  | succ depth ih =>
    intro dir fault hdir hnames hdepth h
    obtain ⟨place, hlocate⟩ := isDirectory_eq_true_iff.mp hdir
    rw [collectBelow_succ (sortedNames_of_locate hlocate)] at h
    obtain ⟨name, hname, hfails⟩ := exists_of_joinOutcomes_eq_error h
    have hlegal := isLegalName_of_mem_children hsound (List.mem_mergeSort.mp hname)
    unfold filesOf at hfails
    split at hfails
    · rename_i f hitem
      cases hfails
      obtain ⟨hlocate, hkind⟩ := isDirectory_eq_error hitem
      exact .tooLong rfl (List.prefix_refl _) hlocate hkind
    · rename_i hitem
      split at hfails
      · cases hfails
      · split at hfails
        · rename_i hblank
          cases hfails
          obtain ⟨hdir, hname⟩ := Path.eq_here_of_isBlankText hblank
          exact .blank hdir hname hitem
        · have hchild : ∀ other ∈ (dir.child name).names, other ≠ "" := fun other hother => by
            rcases List.mem_append.mp hother with hother | hother
            · exact hnames other hother
            · exact List.mem_singleton.mp hother ▸ hlegal.ne_empty
          have hdepth' : pathLimit < (dir.child name).names.length + depth := by
            rw [Path.child, List.length_append, List.length_singleton]
            omega
          exact (ih hitem hchild hdepth' hfails).of_child
    · cases hfails

/-! ### Collections -/

variable {root : String} {given : List String}

theorem collect_of_isDirectory (hblank : Text.isBlankText root = false)
    (hroot : t.isDirectory here (Path.ofText root) = .ok true) :
    t.collect here root given = collectBelow t here (given.map Text.lower) (pathLimit + 1) (Path.ofText root) := by
  obtain ⟨place, hlocate⟩ := isDirectory_eq_true_iff.mp hroot
  rw [collect, hblank, if_neg Bool.false_ne_true]
  simp only [probe, hlocate]

/-- Names that stand in order in the tree are collected in that order. -/
theorem collectBelow_of_sorted (hlocate : t.locate here true dir = .ok ⟨place, .directory⟩)
    (hsorted : (t.children place).Pairwise fun a b => a ≤ b) : collectBelow t here suffixes (depth + 1) dir =
      joinOutcomes ((t.children place).map (filesOf t here suffixes depth dir)) := by
  rw [collectBelow_succ (sortedNames_of_locate hlocate), List.mergeSort_of_pairwise (by simpa using hsorted)]

theorem collect_of_sorted (hblank : Text.isBlankText root = false)
    (hlocate : t.locate here true (Path.ofText root) = .ok ⟨place, .directory⟩)
    (hsorted : (t.children place).Pairwise fun a b => a ≤ b) : t.collect here root given =
      joinOutcomes ((t.children place).map (filesOf t here (given.map Text.lower) pathLimit (Path.ofText root))) := by
  rw [collect_of_isDirectory hblank (isDirectory_eq_true_iff.mpr ⟨place, hlocate⟩), collectBelow_of_sorted hlocate hsorted]

/-- A path to a file stands for that file, and any other for what is below it. -/
theorem collect_cases (h : t.collect here root given = .ok files) : files = [Path.ofText root] ∨
    ∃ place, t.locate here true (Path.ofText root) = .ok ⟨place, .directory⟩ ∧
      collectBelow t here (given.map Text.lower) (pathLimit + 1) (Path.ofText root) = .ok files := by
  unfold collect at h
  split at h
  · cases h
  · dsimp only at h
    split at h
    · cases h
    · cases h
    · exact Or.inl (Except.ok.inj h).symm
    · obtain ⟨_, place, _, _, hlocate, -, -⟩ := collectBelow_cases h
      exact Or.inr ⟨place, hlocate, h⟩

theorem names_ofText_ne_empty (s : String) : ∀ name ∈ (Path.ofText s).names, name ≠ "" :=
  fun _ h => (Path.isPart_of_mem_ofText h).ne_empty

/-- Where a directory is there, it takes a blank text for it, a blank name in it or a name too long to be looked up to
    keep the files below it from being collected. -/
theorem collect_eq_error (hsound : t.IsSound here) (hroot : t.isDirectory here (Path.ofText root) = .ok true)
    {fault : CollectFault} (h : t.collect here root given = .error fault) :
    Text.isBlankText root = true ∧ fault = .blankPath ∨ Hinders t here (Path.ofText root) fault := by
  cases hblank : Text.isBlankText root with
  | true =>
    rw [collect, if_pos hblank] at h
    exact Or.inl ⟨rfl, (Except.error.inj h).symm⟩
  | false =>
    rw [collect_of_isDirectory hblank hroot] at h
    exact Or.inr (hinders_of_collectBelow hsound hroot (names_ofText_ne_empty root) (by omega) h)

/-! ### Real paths of what is collected -/

/-- Some link is met on the way from a directory to the path. -/
def MeetsLink (t : FileTree) (here : Place) (dir p : Path) : Prop :=
  ∃ place more target, t.locate here true dir = .ok ⟨place, .directory⟩ ∧ more ≠ [] ∧ dir.names ++ more <+: p.names ∧
    t.entry? (place ++ more) = some (.link target)

/-- Where no link is met, the real path has the same names below the place of the directory. -/
theorem realPath_of_below (hsound : t.IsSound here) (hlocate : t.locate here true dir = .ok ⟨place, .directory⟩)
    {more : List String} (hstart : p.start = dir.start) (hnames : p.names = dir.names ++ more)
    (hlegal : ∀ name ∈ more, IsLegalName name) (hnull : p.text.toList.contains '\x00' = false)
    (hlinks : ¬MeetsLink t here dir p) : t.realPath here p = .ok ⟨.root, place ++ more⟩ := by
  obtain ⟨n, hdir⟩ := exists_leads_of_locate hlocate
  have hmore : Leads t place more 0 (place ++ more) :=
    .of_no_link (fun name hname => ⟨(hlegal name hname).ne_dot, (hlegal name hname).ne_dotdot⟩) fun q target hq hprefix hentry =>
      hlinks ⟨place, q, target, hlocate, hq, hnames ▸ (List.prefix_append_right_inj dir.names).mpr hprefix, hentry⟩
  obtain ⟨k, hleads⟩ := hdir.append hmore
  have hfrom : startOf here p = startOf here dir := by rw [startOf, startOf, Path.isAbsolute, Path.isAbsolute, hstart]
  rw [← hnames, ← hfrom] at hleads
  exact realPath_of_leads hsound.here hnull hleads

/-- What is collected below a directory has a real path, unless its links run in a circle. It cannot be read then. -/
theorem realPath_eq_error (hsound : t.IsSound here) (hroot : t.isDirectory here (Path.ofText root) = .ok true)
    (hfiles : t.collect here root given = .ok files) (hp : p ∈ files) {f : FileFault} (h : t.realPath here p = .error f) :
    f.kind = .linkLoop ∧ ∃ fault, t.readText here p = .error fault := by
  obtain ⟨place, hlocate⟩ := isDirectory_eq_true_iff.mp hroot
  have hnull : p.text.toList.contains '\x00' = false := by
    have hdir := (locate_eq_ok_iff.mp hlocate).1
    rcases collect_cases hfiles with rfl | ⟨-, -, hbelow⟩
    · rwa [List.mem_singleton.mp hp]
    · obtain ⟨name, hbelow⟩ := exists_below_of_mem hsound hbelow p hp
      obtain ⟨more, hnames, hlegal⟩ := hbelow.names
      have hwhole := Path.no_null_append (fun other hother => (hlegal other hother).no_null) hdir
      rwa [← hbelow.start, ← hnames] at hwhole
  constructor
  · unfold realPath at h
    rw [hnull, if_neg Bool.false_ne_true] at h
    dsimp only at h
    split at h
    · cases h
      rfl
    · cases h
  · cases hfound : t.locate here true p with
    | error fault => exact ⟨.file fault, by rw [readText, hfound]⟩
    | ok a =>
      rw [realPath_of_locate hsound.here hfound] at h
      cases h

/-- Two paths that are collected and meet no link have different real paths. -/
theorem realPath_injective (hsound : t.IsSound here) (hfiles : t.collect here root given = .ok files) {q : Path}
    {real other : Path} (hp : p ∈ files) (hq : q ∈ files) (hreal : t.realPath here p = .ok real)
    (hother : t.realPath here q = .ok other) (hplinks : ¬MeetsLink t here (Path.ofText root) p)
    (hqlinks : ¬MeetsLink t here (Path.ofText root) q) (heq : real.text = other.text) : p = q := by
  rcases collect_cases hfiles with rfl | ⟨place, hlocate, hbelow⟩
  · rw [List.mem_singleton.mp hp, List.mem_singleton.mp hq]
  · obtain ⟨firstP, hbelowP⟩ := exists_below_of_mem hsound hbelow p hp
    obtain ⟨firstQ, hbelowQ⟩ := exists_below_of_mem hsound hbelow q hq
    obtain ⟨moreP, hnamesP, hlegalP⟩ := hbelowP.names
    obtain ⟨moreQ, hnamesQ, hlegalQ⟩ := hbelowQ.names
    have hrealP := realPath_of_below hsound hlocate hbelowP.start hnamesP hlegalP (no_null_of_realPath hreal) hplinks
    have hrealQ := realPath_of_below hsound hlocate hbelowQ.start hnamesQ hlegalQ (no_null_of_realPath hother) hqlinks
    rw [hreal] at hrealP
    rw [hother] at hrealQ
    rw [Except.ok.inj hrealP, Except.ok.inj hrealQ] at heq
    have hmore := Path.text_append_injective (List.cons_ne_nil _ _) (List.cons_ne_nil _ _)
      (fun name hname => (hlegalP name hname).no_slash) (fun name hname => (hlegalQ name hname).no_slash) heq
    have hstarts : p.start = q.start := hbelowP.start.trans hbelowQ.start.symm
    have hnames : p.names = q.names := by rw [hnamesP, hnamesQ, hmore]
    calc p = ⟨p.start, p.names⟩ := rfl
      _ = q := by rw [hstarts, hnames]

theorem nodup_collect (hsound : t.IsSound here) (h : t.collect here root given = .ok files) : files.Nodup := by
  rcases collect_cases h with rfl | ⟨place, -, hbelow⟩
  · exact List.nodup_singleton _
  · exact nodup_collectBelow hsound hbelow

end CodeAtlas.FileTree
