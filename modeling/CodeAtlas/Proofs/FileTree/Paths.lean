import CodeAtlas.FileTree.Path
import CodeAtlas.Proofs.Text.Blank
import Mathlib

/-! The texts of paths. A path with more names below it has a longer text, paths of names without slashes have texts of
    their own that they can be read back from, and hardly any path of a file has a blank text. -/

namespace CodeAtlas

/-- A name that an entry of a directory can have. -/
structure IsLegalName (name : String) : Prop where
  ne_empty : name ≠ ""
  ne_dot : name ≠ "."
  ne_dotdot : name ≠ ".."
  no_slash : '/' ∉ name.toList
  no_null : '\x00' ∉ name.toList

instance (name : String) : Decidable (IsLegalName name) :=
  decidable_of_iff (name ≠ "" ∧ name ≠ "." ∧ name ≠ ".." ∧ '/' ∉ name.toList ∧ '\x00' ∉ name.toList)
    ⟨fun ⟨hempty, hdot, hdotdot, hslash, hnull⟩ => ⟨hempty, hdot, hdotdot, hslash, hnull⟩,
      fun h => ⟨h.ne_empty, h.ne_dot, h.ne_dotdot, h.no_slash, h.no_null⟩⟩

/-- A name that a path can be read with: one that stands between slashes and counts there. -/
structure IsPart (name : String) : Prop where
  ne_empty : name ≠ ""
  ne_dot : name ≠ "."
  no_slash : '/' ∉ name.toList

theorem IsLegalName.isPart {name : String} (h : IsLegalName name) : IsPart name := ⟨h.ne_empty, h.ne_dot, h.no_slash⟩

namespace Path

variable {start : Start} {names more others : List String} {name : String} {p : Path}

/-! ### Names with slashes between them -/

theorem joined_append (h : names ≠ []) (h' : more ≠ []) :
    "/".intercalate (names ++ more) = "/".intercalate names ++ "/" ++ "/".intercalate more := by
  induction names with
  | nil => exact absurd rfl h
  | cons name rest ih =>
    obtain ⟨first, later, rfl⟩ := List.exists_cons_of_ne_nil h'
    cases rest with
    | nil => rw [String.intercalate_singleton, List.singleton_append, String.intercalate_cons_cons]
    | cons next rest =>
      have hrest := ih (List.cons_ne_nil _ _)
      rw [List.cons_append] at hrest
      rw [List.cons_append, List.cons_append, String.intercalate_cons_cons, String.intercalate_cons_cons, hrest]
      simp only [String.append_assoc]

/-- The names are what stands between the slashes. -/
theorem splitWhere_joined (h : names ≠ []) (hslash : ∀ name ∈ names, '/' ∉ name.toList) :
    Text.splitWhere (· == '/') ("/".intercalate names).toList = names.map String.toList := by
  induction names with
  | nil => exact absurd rfl h
  | cons name rest ih =>
    obtain ⟨hname, hrest⟩ := List.forall_mem_cons.mp hslash
    have hwhole : ∀ c ∈ name.toList, (c == '/') = false := fun c hc => by
      rw [beq_eq_false_iff_ne]
      exact fun heq => hname (heq ▸ hc)
    cases rest with
    | nil => rw [String.intercalate_singleton, Text.splitWhere_of_not hwhole, List.map_singleton]
    | cons next rest =>
      have hjoined : ("/".intercalate (name :: next :: rest)).toList =
          name.toList ++ '/' :: ("/".intercalate (next :: rest)).toList := by
        simp [String.intercalate_cons_cons]
      rw [hjoined, Text.splitWhere_append_cons hwhole rfl, ih (List.cons_ne_nil _ _) hrest]
      rfl

theorem joined_injective (h : names ≠ []) (h' : others ≠ []) (hslash : ∀ name ∈ names, '/' ∉ name.toList)
    (hslash' : ∀ name ∈ others, '/' ∉ name.toList) (heq : "/".intercalate names = "/".intercalate others) :
    names = others := by
  have hsplit := splitWhere_joined h hslash
  rw [heq, splitWhere_joined h' hslash'] at hsplit
  exact List.map_injective_iff.mpr (fun _ _ => String.toList_inj.mp) hsplit.symm

theorem length_le_joined (h : ∀ name ∈ names, name ≠ "") : names.length ≤ ("/".intercalate names).utf8ByteSize := by
  induction names with
  | nil => exact Nat.zero_le _
  | cons name rest ih =>
    obtain ⟨hname, hrest⟩ := List.forall_mem_cons.mp h
    have hsize : 0 < name.utf8ByteSize := Nat.pos_of_ne_zero (mt String.utf8ByteSize_eq_zero_iff.mp hname)
    cases rest with
    | nil =>
      rw [String.intercalate_singleton]
      exact hsize
    | cons next rest =>
      have hlater := ih hrest
      rw [String.intercalate_cons_cons, String.utf8ByteSize_append, String.utf8ByteSize_append, List.length_cons]
      omega

/-! ### Whole paths -/

theorem text_of_names_ne_nil (h : names ≠ []) : text ⟨start, names⟩ = start.text ++ "/".intercalate names := by
  unfold text
  dsimp only
  split
  · exact absurd rfl h
  · rfl

theorem child_names_ne_nil (p : Path) (name : String) : p.names ++ [name] ≠ [] :=
  List.append_ne_nil_of_right_ne_nil _ (List.cons_ne_nil _ _)

/-- Below the same place, different names have different texts. -/
theorem text_append_injective {place : List String} (h : more ≠ []) (h' : others ≠ [])
    (hslash : ∀ name ∈ more, '/' ∉ name.toList) (hslash' : ∀ name ∈ others, '/' ∉ name.toList)
    (heq : text ⟨start, place ++ more⟩ = text ⟨start, place ++ others⟩) : more = others := by
  rw [text_of_names_ne_nil (List.append_ne_nil_of_right_ne_nil _ h),
    text_of_names_ne_nil (List.append_ne_nil_of_right_ne_nil _ h'), String.append_right_inj] at heq
  refine joined_injective h h' hslash hslash' ?_
  cases place with
  | nil => exact heq
  | cons first rest =>
    rwa [joined_append (List.cons_ne_nil _ _) h, joined_append (List.cons_ne_nil _ _) h', String.append_right_inj] at heq

theorem length_names_le (h : ∀ name ∈ p.names, name ≠ "") : p.names.length ≤ p.text.utf8ByteSize := by
  obtain ⟨start, names⟩ := p
  by_cases hnil : names = []
  · rw [hnil]
    exact Nat.zero_le _
  · rw [text_of_names_ne_nil hnil, String.utf8ByteSize_append]
    exact Nat.le_trans (length_le_joined h) (Nat.le_add_left _ _)

/-- Only in the current directory can an entry have a path with a blank text. -/
theorem eq_here_of_isBlankText (h : Text.isBlankText (p.child name).text = true) :
    p = ⟨.here, []⟩ ∧ Text.isBlankText name = true := by
  obtain ⟨start, names⟩ := p
  rw [child, text_of_names_ne_nil (List.append_ne_nil_of_right_ne_nil _ (List.cons_ne_nil _ _)), Text.isBlankText,
    String.toList_append, List.all_append, Bool.and_eq_true] at h
  obtain ⟨hstart, hnames⟩ := h
  replace hstart : start.text.toList.all Text.isBlank = true := hstart
  obtain rfl : start = .here := by
    cases start with
    | here => rfl
    | root | doubleRoot => exact absurd hstart (by decide)
  cases names with
  | nil =>
    rw [List.nil_append, String.intercalate_singleton] at hnames
    exact ⟨rfl, hnames⟩
  | cons first rest =>
    -- There would be a slash in the text, which is not blank.
    rw [joined_append (List.cons_ne_nil _ _) (List.cons_ne_nil _ _), String.toList_append, String.toList_append,
      List.all_append, List.all_append] at hnames
    simp only [Bool.and_eq_true] at hnames
    cases hnames.1.2

theorem no_null_child (h : p.text.toList.contains '\x00' = false) (hname : '\x00' ∉ name.toList) :
    (p.child name).text.toList.contains '\x00' = false := by
  have hcontains : ∀ cs : List Char, cs.contains '\x00' = false ↔ '\x00' ∉ cs := fun cs => by simp
  obtain ⟨start, names⟩ := p
  rw [hcontains] at h ⊢
  rw [child, text_of_names_ne_nil (List.append_ne_nil_of_right_ne_nil _ (List.cons_ne_nil _ _)), String.toList_append,
    List.mem_append, not_or]
  by_cases hnil : names = []
  · subst hnil
    rw [List.nil_append, String.intercalate_singleton]
    exact ⟨by cases start <;> decide, hname⟩
  · rw [text_of_names_ne_nil hnil, String.toList_append, List.mem_append, not_or] at h
    rw [joined_append hnil (List.cons_ne_nil _ _), String.intercalate_singleton, String.toList_append,
      String.toList_append, List.mem_append, List.mem_append]
    refine ⟨h.1, fun hmem => ?_⟩
    rcases hmem with (hmem | hmem) | hmem
    · exact h.2 hmem
    · revert hmem
      decide
    · exact hname hmem

theorem no_null_append {more : List String} (hmore : ∀ name ∈ more, '\x00' ∉ name.toList) : ∀ {p : Path},
    p.text.toList.contains '\x00' = false → (text ⟨p.start, p.names ++ more⟩).toList.contains '\x00' = false := by
  induction more with
  | nil =>
    intro p h
    rwa [List.append_nil]
  | cons name rest ih =>
    intro p h
    obtain ⟨hname, hrest⟩ := List.forall_mem_cons.mp hmore
    have hchild := ih hrest (no_null_child h hname)
    rwa [child, List.append_assoc, List.singleton_append] at hchild

/-! ### Texts read as paths -/

/-- Names with slashes between them do not begin with a slash. -/
theorem joined_head (h : names ≠ []) (hparts : ∀ name ∈ names, IsPart name) :
    ∃ c cs, ("/".intercalate names).toList = c :: cs ∧ c ≠ '/' := by
  obtain ⟨first, rest, rfl⟩ := List.exists_cons_of_ne_nil h
  have hne : first.toList ≠ [] := fun hnil =>
    (hparts first List.mem_cons_self).ne_empty (String.toList_eq_nil_iff.mp hnil)
  have hsplit := splitWhere_joined h fun name hname => (hparts name hname).no_slash
  cases hjoined : ("/".intercalate (first :: rest)).toList with
  | nil =>
    rw [hjoined] at hsplit
    exact absurd (List.cons.inj hsplit).1.symm hne
  | cons c cs =>
    refine ⟨c, cs, rfl, ?_⟩
    rintro rfl
    rw [hjoined, Text.splitWhere_cons_of rfl] at hsplit
    exact absurd (List.cons.inj hsplit).1.symm hne

/-- The slashes that a path starts with are next to no names. -/
theorem namesOf_start (start : Start) (s : String) : namesOf (start.text ++ s) = namesOf s := by
  rw [namesOf, namesOf, String.toList_append]
  cases start <;> rfl

theorem namesOf_joined (h : names ≠ []) (hparts : ∀ name ∈ names, IsPart name) :
    namesOf ("/".intercalate names) = names := by
  rw [namesOf, splitWhere_joined h fun name hname => (hparts name hname).no_slash, List.filter_eq_self.mpr, List.map_map]
  · simp [Function.comp_def]
  · intro part hpart
    obtain ⟨name, hname, rfl⟩ := List.mem_map.mp hpart
    have hdot : name.toList ≠ ['.'] := fun heq => (hparts name hname).ne_dot (String.toList_inj.mp heq)
    have hempty : name.toList ≠ [] := fun heq => (hparts name hname).ne_empty (String.toList_eq_nil_iff.mp heq)
    simp [hdot, hempty]

theorem startOf_text (h : names ≠ []) (hparts : ∀ name ∈ names, IsPart name) :
    startOf (start.text ++ "/".intercalate names).toList = start := by
  obtain ⟨c, cs, hjoined, hslash⟩ := joined_head h hparts
  rw [String.toList_append, hjoined]
  cases start <;> simp [startOf, Start.text, hslash]

/-- The text of a path is read as this path. -/
theorem ofText_text (hparts : ∀ name ∈ names, IsPart name) : ofText (text ⟨start, names⟩) = ⟨start, names⟩ := by
  by_cases hnil : names = []
  · subst hnil
    cases start <;> rfl
  · rw [ofText, text_of_names_ne_nil hnil, startOf_text hnil hparts, namesOf_start, namesOf_joined hnil hparts]

theorem isPart_of_mem_ofText {s : String} (h : name ∈ (ofText s).names) : IsPart name := by
  obtain ⟨part, hpart, rfl⟩ := List.mem_map.mp h
  obtain ⟨hsplit, hkept⟩ := List.mem_filter.mp hpart
  simp only [Bool.and_eq_true, Bool.not_eq_true', List.isEmpty_eq_false_iff, decide_eq_true_eq] at hkept
  refine ⟨fun hempty => hkept.1 ?_, fun hdot => hkept.2 ?_, fun hslash => ?_⟩
  · simpa using congrArg String.toList hempty
  · simpa using congrArg String.toList hdot
  · rw [String.toList_ofList] at hslash
    exact absurd (Text.mem_of_mem_splitWhere hsplit _ hslash).2 (by decide)

theorem text_name (name : String) : text ⟨.here, [name]⟩ = name := by
  rw [text_of_names_ne_nil (List.cons_ne_nil _ _), String.intercalate_singleton]
  exact String.empty_append

theorem ofText_name (h : IsLegalName name) : ofText name = ⟨.here, [name]⟩ := by
  have hname := @ofText_text .here [name] (List.forall_mem_singleton.mpr h.isPart)
  rwa [text_name] at hname

end Path

end CodeAtlas
