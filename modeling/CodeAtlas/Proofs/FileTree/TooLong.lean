import CodeAtlas.Failure
import CodeAtlas.Proofs.FileTree.Collecting

/-! Paths that are too long to be looked up. A path can be too long as a whole, or a look-up meets a name that is too
    long: one of the path's own that it gets to, or one in the target of a link that is followed. Of all the faults of a
    look-up this is the only one that is not taken for the absence of a file. -/

namespace CodeAtlas.FileTree

/-- Names that are followed from a directory, with at most so many links on the way, come to one that is too long. -/
inductive MeetsLongName (t : FileTree) : Nat → Place → List String → Prop
  | tooLong {links : Nat} {dir : Place} {name : String} {rest : List String} : name ≠ "." → name ≠ ".." →
      nameLimit < name.utf8ByteSize → MeetsLongName t links dir (name :: rest)
  | dot {links : Nat} {dir : Place} {name : String} {rest : List String} : name = "." →
      MeetsLongName t links dir rest → MeetsLongName t links dir (name :: rest)
  | dotdot {links : Nat} {dir : Place} {name : String} {rest : List String} : name = ".." →
      MeetsLongName t links dir.dropLast rest → MeetsLongName t links dir (name :: rest)
  | directory {links : Nat} {dir : Place} {name : String} {rest : List String} : name ≠ "." → name ≠ ".." →
      t.entry? (dir ++ [name]) = some .directory → MeetsLongName t links (dir ++ [name]) rest →
      MeetsLongName t links dir (name :: rest)
  | link {links : Nat} {dir : Place} {name target : String} {rest : List String} : name ≠ "." → name ≠ ".." →
      t.entry? (dir ++ [name]) = some (.link target) →
      MeetsLongName t links (linkStart dir target) (targetNames target ++ rest) →
      MeetsLongName t (links + 1) dir (name :: rest)

/-- The path is a text for the system to look up, but too long as a whole or by one of the names that are met. -/
def IsTooLong (t : FileTree) (here : Place) (p : Path) : Prop :=
  p.text.toList.contains '\x00' = false ∧
    (pathLimit < p.text.utf8ByteSize ∨ MeetsLongName t linkLimit (startOf here p) p.names)

variable {t : FileTree} {here dir : Place} {links : Nat} {names rest : List String} {name target : String} {p : Path}

/-! ### One name at a time -/

namespace MeetsLongName

theorem dot_iff : MeetsLongName t links dir ("." :: rest) ↔ MeetsLongName t links dir rest := by
  constructor
  · intro h
    cases h with
    | dot _ h => exact h
    | dotdot heq => exact absurd heq (by decide)
    | tooLong hdot | directory hdot | link hdot => exact absurd rfl hdot
  · exact .dot rfl

theorem dotdot_iff : MeetsLongName t links dir (".." :: rest) ↔ MeetsLongName t links dir.dropLast rest := by
  constructor
  · intro h
    cases h with
    | dot heq => exact absurd heq (by decide)
    | dotdot _ h => exact h
    | tooLong _ hdotdot | directory _ hdotdot | link _ hdotdot => exact absurd rfl hdotdot
  · exact .dotdot rfl

theorem name_iff (hdot : name ≠ ".") (hdotdot : name ≠ "..") : MeetsLongName t links dir (name :: rest) ↔
    nameLimit < name.utf8ByteSize ∨
      t.entry? (dir ++ [name]) = some .directory ∧ MeetsLongName t links (dir ++ [name]) rest ∨
      ∃ left target, links = left + 1 ∧ t.entry? (dir ++ [name]) = some (.link target) ∧
        MeetsLongName t left (linkStart dir target) (targetNames target ++ rest) := by
  constructor
  · intro h
    cases h with
    | tooLong _ _ hsize => exact Or.inl hsize
    | dot heq => exact absurd heq hdot
    | dotdot heq => exact absurd heq hdotdot
    | directory _ _ hentry h => exact Or.inr (Or.inl ⟨hentry, h⟩)
    | link _ _ hentry h => exact Or.inr (Or.inr ⟨_, _, rfl, hentry, h⟩)
  · rintro (hsize | ⟨hentry, h⟩ | ⟨left, target, rfl, hentry, h⟩)
    · exact .tooLong hdot hdotdot hsize
    · exact .directory hdot hdotdot hentry h
    · exact .link hdot hdotdot hentry h

end MeetsLongName

/-- A stride ends at a name that is too long, or at a link beyond which one is met. -/
def Stride.Meets (t : FileTree) (links : Nat) : Stride → Prop
  | .arrived _ => False
  | .fault kind => kind = .nameTooLong
  | .link from_ target rest =>
    ∃ left, links = left + 1 ∧ MeetsLongName t left (linkStart from_ target) (targetNames target ++ rest)

theorem stride_meets_iff (dir : Place) (names : List String) :
    (stride t true dir names).Meets t links ↔ MeetsLongName t links dir names := by
  induction dir, names using stride_induction with
  | nil dir => exact ⟨False.elim, fun h => by cases h⟩
  | dot dir rest ih => exact ih.trans MeetsLongName.dot_iff.symm
  | dotdot dir rest ih => exact ih.trans MeetsLongName.dotdot_iff.symm
  | name dir name rest hdot hdotdot ih =>
    rw [stride_name hdot hdotdot, MeetsLongName.name_iff hdot hdotdot]
    by_cases hsize : nameLimit < name.utf8ByteSize
    · simp [hsize, Stride.Meets]
    · rw [if_neg hsize]
      rcases hentry : t.entry? (dir ++ [name]) with _ | _ | content | target
      · simp [hsize, Stride.Meets]
      · simp [hsize, ih]
      · cases rest <;> simp [hsize, Stride.Meets]
      · simp [hsize, Stride.Meets]

/-- A look-up stops at a name that is too long exactly where it meets one. The induction is on the links that may be
    followed. -/
theorem follow_eq_tooLong_iff {links : Nat} {dir : Place} {names : List String} :
    follow t true links dir names = .error .nameTooLong ↔ MeetsLongName t links dir names := by
  rw [← stride_meets_iff, follow]
  cases stride t true dir names with
  | arrived a => simp [Stride.Meets]
  | fault kind => simp [Stride.Meets]
  | link from_ target rest =>
    cases links with
    | zero => simp [Stride.Meets]
    | succ links => simpa [Stride.Meets, linkStart] using follow_eq_tooLong_iff

/-! ### Paths -/

/-- A look-up fails for the length of a path or of a name exactly where the path is too long. -/
theorem locate_eq_tooLong_iff {f : FileFault} : t.locate here true p = .error f ∧ f.kind = .nameTooLong ↔
    IsTooLong t here p ∧ f = ⟨.nameTooLong, p.text⟩ := by
  rw [IsTooLong, ← follow_eq_tooLong_iff, locate, ← startOf]
  cases hnull : p.text.toList.contains '\x00' with
  | true =>
    rw [if_pos rfl]
    constructor
    · rintro ⟨hfault, hkind⟩
      obtain rfl := Except.error.inj hfault
      cases hkind
    · rintro ⟨⟨hfalse, -⟩, -⟩
      cases hfalse
  | false =>
    rw [if_neg Bool.false_ne_true]
    by_cases hlong : pathLimit < p.text.utf8ByteSize
    · rw [if_pos hlong]
      constructor
      · rintro ⟨hfault, -⟩
        exact ⟨⟨rfl, Or.inl hlong⟩, (Except.error.inj hfault).symm⟩
      · rintro ⟨-, rfl⟩
        exact ⟨rfl, rfl⟩
    · rw [if_neg hlong]
      constructor
      · rintro ⟨hfault, hkind⟩
        cases hfollow : follow t true linkLimit (startOf here p) p.names with
        | ok a =>
          rw [hfollow] at hfault
          cases hfault
        | error kind =>
          rw [hfollow] at hfault
          obtain rfl := Except.error.inj hfault
          obtain rfl : kind = .nameTooLong := hkind
          exact ⟨⟨rfl, Or.inr rfl⟩, rfl⟩
      · rintro ⟨⟨-, hlonger | hmeets⟩, rfl⟩
        · exact absurd hlonger hlong
        · rw [hmeets]
          exact ⟨rfl, rfl⟩

/-- A path can be probed unless it is too long. -/
theorem probe_eq_error_iff {f : FileFault} : t.probe here p = .error f ↔
    IsTooLong t here p ∧ f = ⟨.nameTooLong, p.text⟩ := by
  rw [← locate_eq_tooLong_iff, probe]
  cases hlocate : t.locate here true p with
  | ok a => simp
  | error g =>
    dsimp only
    constructor
    · intro h
      split at h
      · cases h
      · rename_i hpresent
        obtain rfl := Except.error.inj h
        exact ⟨rfl, (locate_fault_cases hlocate).resolve_right hpresent⟩
    · rintro ⟨heq, hkind⟩
      obtain rfl := Except.error.inj heq
      rw [hkind]
      rfl

/-! ### Collections -/

variable {suffixes : Suffixes} {depth : Nat} {fault : CollectFault}

theorem collectBelow_fault_cases : ∀ {depth : Nat} {dir : Path}, collectBelow t here suffixes depth dir = .error fault →
    fault = .blankPath ∨ ∃ sub f, fault = .listing sub f := by
  intro depth
  induction depth with
  | zero =>
    intro dir h
    exact Or.inr ⟨_, _, (Except.error.inj h).symm⟩
  | succ depth ih =>
    intro dir h
    cases hnames : t.sortedNames here dir with
    | error f =>
      rw [collectBelow, hnames] at h
      exact Or.inr ⟨_, _, (Except.error.inj h).symm⟩
    | ok names =>
      rw [collectBelow_succ hnames] at h
      obtain ⟨name, -, hfails⟩ := exists_of_joinOutcomes_eq_error h
      unfold filesOf at hfails
      split at hfails
      · exact Or.inr ⟨_, _, (Except.error.inj hfails).symm⟩
      · split at hfails
        · cases hfails
        · split at hfails
          · exact Or.inl (Except.error.inj hfails).symm
          · exact ih hfails
      · cases hfails

/-- The failure is of the sort that a collection may end with: it is foreseen, and says that there is no path, that
    nothing is there or that a directory cannot be listed. -/
structure IsCollectingError (root : Path) (fault : CollectFault) : Prop where
  label : (Failure.index (.collecting fault)).label = "IndexingError"
  foreseen : (Failure.index (.collecting fault)).isForeseen = true
  cause : fault = .blankPath ∨ fault = .absent root ∨ ∃ dir f, fault = .listing dir f

theorem isCollectingError_of_cause {root : Path}
    (h : fault = .blankPath ∨ fault = .absent root ∨ ∃ dir f, fault = .listing dir f) :
    IsCollectingError root fault := by
  obtain rfl | rfl | ⟨dir, f, rfl⟩ := h
  · exact ⟨rfl, rfl, Or.inl rfl⟩
  · exact ⟨rfl, rfl, Or.inr (Or.inl rfl)⟩
  · exact ⟨rfl, rfl, Or.inr (Or.inr ⟨dir, f, rfl⟩)⟩

theorem collectBelow_outcome (t : FileTree) (here : Place) (suffixes : Suffixes) (depth : Nat) (dir root : Path) :
    (∃ files, collectBelow t here suffixes depth dir = .ok files) ∨
      ∃ fault, collectBelow t here suffixes depth dir = .error fault ∧ IsCollectingError root fault := by
  cases hbelow : collectBelow t here suffixes depth dir with
  | ok files => exact Or.inl ⟨files, rfl⟩
  | error fault =>
    exact Or.inr ⟨fault, rfl, isCollectingError_of_cause ((collectBelow_fault_cases hbelow).imp_right Or.inr)⟩

/-- A collection returns or fails as foreseen, for every tree, every path and all suffixes, unless the path is too long
    to be looked up. Then it fails with the fault of the system. -/
theorem collect_foreseen (t : FileTree) (here : Place) (path : String) (given : List String) :
    (Text.isBlankText path = false ∧ IsTooLong t here (Path.ofText path) ∧ ∃ fault,
      t.collect here path given = .error fault ∧ fault = .probe ⟨.nameTooLong, (Path.ofText path).text⟩ ∧
      (Failure.index (.collecting fault)).label = "OSError" ∧ (Failure.index (.collecting fault)).isForeseen = false) ∨
    ¬(Text.isBlankText path = false ∧ IsTooLong t here (Path.ofText path)) ∧
      ((∃ files, t.collect here path given = .ok files) ∨
        ∃ fault, t.collect here path given = .error fault ∧ IsCollectingError (Path.ofText path) fault) := by
  cases hblank : Text.isBlankText path with
  | true =>
    refine Or.inr ⟨fun h => Bool.noConfusion h.1, Or.inr ⟨.blankPath, ?_, isCollectingError_of_cause (Or.inl rfl)⟩⟩
    rw [collect, if_pos hblank]
  | false =>
    rw [collect, hblank, if_neg Bool.false_ne_true]
    dsimp only
    cases hprobe : t.probe here (Path.ofText path) with
    | error f =>
      obtain ⟨hlong, rfl⟩ := probe_eq_error_iff.mp hprobe
      exact Or.inl ⟨rfl, hlong, _, rfl, rfl, rfl, rfl⟩
    | ok found =>
      refine Or.inr ⟨fun h => ?_, ?_⟩
      · rw [probe_eq_error_iff.mpr ⟨h.2, rfl⟩] at hprobe
        cases hprobe
      · rcases found with _ | _ | content | target
        · exact Or.inr ⟨_, rfl, isCollectingError_of_cause (Or.inr (Or.inl rfl))⟩
        · exact collectBelow_outcome t here _ _ _ _
        · exact Or.inl ⟨_, rfl⟩
        · exact collectBelow_outcome t here _ _ _ _

/-! ### A name that is too long -/

/-- A name one octet longer than any that can be looked up. -/
def longName : String := String.ofList (List.replicate 256 'a')

theorem toList_longName : longName.toList = List.replicate 256 'a' := String.toList_ofList

theorem isLegalName_longName : IsLegalName longName := by
  refine ⟨by decide +kernel, by decide +kernel, by decide +kernel, ?_, ?_⟩
  · rw [toList_longName, List.mem_replicate]
    decide
  · rw [toList_longName, List.mem_replicate]
    decide

theorem isTooLong_longName (t : FileTree) (here : Place) : IsTooLong t here ⟨.here, [longName]⟩ := by
  refine ⟨?_, Or.inr (.tooLong isLegalName_longName.ne_dot isLegalName_longName.ne_dotdot (by decide +kernel))⟩
  rw [Path.text_name, toList_longName]
  decide

theorem probe_longName (t : FileTree) (here : Place) :
    t.probe here (Path.ofText longName) = .error ⟨.nameTooLong, longName⟩ := by
  rw [Path.ofText_name isLegalName_longName, probe_eq_error_iff, Path.text_name]
  exact ⟨isTooLong_longName t here, rfl⟩

/-- Not even in the empty tree can it be asked for without a fault of the system. -/
theorem collect_longName : collect {} [] longName [] = .error (.probe ⟨.nameTooLong, longName⟩) ∧
    (Failure.index (.collecting (.probe ⟨.nameTooLong, longName⟩))).label ≠ "IndexingError" := by
  constructor
  · have hblank : Text.isBlankText longName = false := by
      rw [Text.isBlankText, toList_longName]
      decide
    rw [collect, hblank, if_neg Bool.false_ne_true]
    dsimp only
    rw [probe_longName]
  · decide

end CodeAtlas.FileTree
