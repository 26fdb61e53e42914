import CodeAtlas.FileTree.Locate
import Mathlib

/-! Where paths lead when a tree grows. What is found along a path stays where it is as long as nothing is taken
    away and only files are written anew; and what is found at the end of a path is found from there on. -/

namespace CodeAtlas

/-- An entry without what a file holds. -/
def Entry.outline : Entry → Entry
  | .file _ => .file (.octets [])
  | e => e

theorem Entry.outline_eq_directory {e : Entry} : e.outline = .directory ↔ e = .directory := by
  cases e <;> simp [outline]

theorem Entry.outline_eq_link {e : Entry} {target : String} : e.outline = .link target ↔ e = .link target := by
  cases e <;> simp [outline]

theorem Entry.outline_eq_file {e : Entry} {content : Content} :
    e.outline = (Entry.file content).outline ↔ ∃ other, e = .file other := by
  cases e <;> simp [outline]

namespace FileTree

/-- Everything in the tree `t` is in `u` as well, where files may hold something else. -/
def Extends (t u : FileTree) : Prop :=
  ∀ p e, t.entry? p = some e → ∃ e', u.entry? p = some e' ∧ e'.outline = e.outline

/-- The trees differ at most in what their files hold. -/
def SameOutline (t u : FileTree) : Prop := ∀ p, (u.entry? p).map Entry.outline = (t.entry? p).map Entry.outline

variable {t u : FileTree} {p q : Place} {e : Entry}

theorem Extends.refl (t : FileTree) : Extends t t := fun _ e he => ⟨e, he, rfl⟩

theorem SameOutline.extends (h : SameOutline t u) : Extends t u := fun p e he => by
  have hp := h p
  rw [he, Option.map_some] at hp
  exact Option.map_eq_some_iff.mp hp

theorem SameOutline.link_iff (h : SameOutline t u) {target : String} :
    u.entry? p = some (.link target) ↔ t.entry? p = some (.link target) := by
  have houtline : ∀ t : FileTree, t.entry? p = some (.link target) ↔
      (t.entry? p).map Entry.outline = some (.link target) := fun t => by
    simp [Option.map_eq_some_iff, Entry.outline_eq_link]
  rw [houtline u, h p, ← houtline t]

/-! ### Writing an entry -/

theorem entry?_of_ne_nil (hp : p ≠ []) : t.entry? p = (t.entries.find? fun e => e.1 == p).map (·.2) := by
  unfold entry?
  rw [if_neg (by simpa using hp)]

/-- Where an entry is, the tree has it. -/
theorem mem_places_of_entry (hp : p ≠ []) (h : t.entry? p = some e) : p ∈ t.entries.map (·.1) := by
  rw [entry?_of_ne_nil hp, Option.map_eq_some_iff] at h
  obtain ⟨found, hfound, -⟩ := h
  exact List.mem_map.mpr ⟨found, List.mem_of_find?_eq_some hfound, by simpa using List.find?_some hfound⟩

theorem entry?_put_self (hp : p ≠ []) : entry? (t.put p e) p = some e := by
  rw [entry?_of_ne_nil hp, put]
  split
  · rename_i hany
    obtain ⟨old, hold, hplace⟩ := List.any_eq_true.mp hany
    cases hfind : (t.entries.find? fun old => old.1 == p) with
    | none => exact absurd hplace (List.find?_eq_none.mp hfind old hold)
    | some found =>
      have hfound : found.1 == p := by simpa using List.find?_some hfind
      have hcongr : ((fun e : Place × Entry => e.1 == p) ∘ fun old => if old.1 == p then (p, e) else old) =
          fun old => old.1 == p := by
        funext old
        by_cases h : old.1 = p <;> simp [h]
      rw [List.find?_map, hcongr, hfind, Option.map_some, Option.map_some, if_pos hfound]
  · rename_i hany
    have hnone : (t.entries.find? fun old => old.1 == p) = none := by
      rw [List.find?_eq_none]
      exact fun old hold hplace => hany (List.any_eq_true.mpr ⟨old, hold, hplace⟩)
    rw [List.find?_append, hnone]
    simp

theorem entry?_put_of_ne (hq : q ≠ p) : entry? (t.put p e) q = t.entry? q := by
  by_cases hnil : q = []
  · rw [hnil]
    rfl
  · rw [entry?_of_ne_nil hnil, entry?_of_ne_nil hnil, put]
    split
    · have hcongr : ((fun e : Place × Entry => e.1 == q) ∘ fun old => if old.1 == p then (p, e) else old) =
          fun old => old.1 == q := by
        funext old
        by_cases h : old.1 = p <;> simp [h]
      rw [List.find?_map, hcongr]
      cases hfind : (t.entries.find? fun old => old.1 == q) with
      | none => rfl
      | some found =>
        have hfound : found.1 = q := by simpa using List.find?_some hfind
        rw [Option.map_some, Option.map_some, Option.map_some, if_neg (by simpa [hfound] using hq)]
    · rw [List.find?_append]
      simp [Ne.symm hq]

/-- A new entry leaves all others as they are. -/
theorem extends_put (h : t.entry? p = none) : Extends t (t.put p e) := fun q old hq => by
  have hne : q ≠ p := fun heq => by
    rw [heq, h] at hq
    cases hq
  exact ⟨old, by rw [entry?_put_of_ne hne, hq], rfl⟩

theorem ne_nil_of_file {content : Content} (h : t.entry? p = some (.file content)) : p ≠ [] := fun hp => by
  rw [hp] at h
  cases h

theorem ne_nil_of_none (h : t.entry? p = none) : p ≠ [] := fun hp => by
  rw [hp] at h
  cases h

/-- A file written anew is still a file. -/
theorem sameOutline_put {old content : Content} (h : t.entry? p = some (.file old)) :
    SameOutline t (t.put p (.file content)) := fun q => by
  by_cases hq : q = p
  · rw [hq, entry?_put_self (ne_nil_of_file h), h]
    rfl
  · rw [entry?_put_of_ne hq]

/-! ### Strides -/

/-- A name that stands for itself. -/
theorem stride_name {last : Bool} {dir : Place} {name : String} {rest : List String} (h : name ≠ ".")
    (h' : name ≠ "..") : stride t last dir (name :: rest) =
      if nameLimit < name.utf8ByteSize then .fault .nameTooLong
      else match t.entry? (dir ++ [name]) with
        | none => .fault .missing
        | some .directory => stride t last (dir ++ [name]) rest
        | some (.file content) =>
          if rest.isEmpty then .arrived ⟨dir ++ [name], .file content⟩ else .fault .notDirectory
        | some (.link target) =>
          if rest.isEmpty && !last then .arrived ⟨dir ++ [name], .link target⟩ else .link dir target rest :=
  stride.eq_4 t last dir name rest h h'

/-- Names are followed through directories up to the end, a file or a link. -/
theorem stride_induction {motive : Place → List String → Prop} (nil : ∀ dir, motive dir [])
    (dot : ∀ dir rest, motive dir rest → motive dir ("." :: rest))
    (dotdot : ∀ dir rest, motive dir.dropLast rest → motive dir (".." :: rest))
    (name : ∀ dir name rest, name ≠ "." → name ≠ ".." → (∀ dir, motive dir rest) → motive dir (name :: rest)) :
    ∀ dir names, motive dir names
  | dir, [] => nil dir
  | dir, first :: rest => by
    by_cases h : first = "."
    · exact h ▸ dot dir rest (stride_induction nil dot dotdot name dir rest)
    · by_cases h' : first = ".."
      · exact h' ▸ dotdot dir rest (stride_induction nil dot dotdot name _ rest)
      · exact name dir first rest h h' fun dir => stride_induction nil dot dotdot name dir rest

/-- The same place, where a file may hold something else. -/
def Located.Like (a b : Located) : Prop := b.place = a.place ∧ b.entry.outline = a.entry.outline

/-- What the first stride has reached the second one reaches too. -/
def Stride.Kept : Stride → Stride → Prop
  | .arrived a, s => ∃ b, s = .arrived b ∧ a.Like b
  | .link dir target rest, s => s = .link dir target rest
  | .fault _, _ => True

theorem stride_kept (h : Extends t u) (last : Bool) (dir : Place) (names : List String) :
    (stride t last dir names).Kept (stride u last dir names) := by
  induction dir, names using stride_induction with
  | nil dir => exact ⟨_, rfl, rfl, rfl⟩
  | dot dir rest ih => exact ih
  | dotdot dir rest ih => exact ih
  | name dir name rest hdot hdotdot ih =>
    rw [stride_name hdot hdotdot, stride_name hdot hdotdot]
    split
    · trivial
    · cases hentry : t.entry? (dir ++ [name]) with
      | none => trivial
      | some e =>
        obtain ⟨e', he', hlike⟩ := h _ _ hentry
        rw [he']
        cases e with
        | directory =>
          obtain rfl := Entry.outline_eq_directory.mp hlike
          exact ih _
        | file content =>
          obtain ⟨other, rfl⟩ := Entry.outline_eq_file.mp hlike
          dsimp only
          split
          · exact ⟨_, rfl, rfl, rfl⟩
          · trivial
        | link target =>
          obtain rfl := Entry.outline_eq_link.mp hlike
          dsimp only
          split
          · exact ⟨_, rfl, rfl, rfl⟩
          · rfl

/-- Where the last link may stay, whatever is reached through it is reached before it. -/
theorem stride_stay (dir : Place) (names : List String) :
    match stride t true dir names with
    | .arrived a => stride t false dir names = .arrived a
    | .link from_ target rest =>
      stride t false dir names = .link from_ target rest ∨ ∃ a, stride t false dir names = .arrived a
    | .fault _ => True := by
  induction dir, names using stride_induction with
  | nil dir => rfl
  | dot dir rest ih => exact ih
  | dotdot dir rest ih => exact ih
  | name dir name rest hdot hdotdot ih =>
    rw [stride_name hdot hdotdot, stride_name hdot hdotdot]
    by_cases hsize : nameLimit < name.utf8ByteSize
    · rw [if_pos hsize]
      trivial
    · rw [if_neg hsize, if_neg hsize]
      cases hentry : t.entry? (dir ++ [name]) with
      | none => trivial
      | some e =>
        cases e with
        | directory => exact ih _
        | file content =>
          cases rest with
          | nil => rfl
          | cons second rest => trivial
        | link target =>
          cases rest with
          | nil => exact Or.inr ⟨_, rfl⟩
          | cons second rest => exact Or.inl rfl

/-- What is found in a directory is found by the names of both. -/
theorem stride_append {more : List String} (hmore : more ≠ []) (last : Bool) (dir : Place) (names : List String) :
    match stride t true dir names with
    | .arrived a => a.entry = .directory → stride t last dir (names ++ more) = stride t last a.place more
    | .link from_ target rest => stride t last dir (names ++ more) = .link from_ target (rest ++ more)
    | .fault _ => True := by
  induction dir, names using stride_induction with
  | nil dir => exact fun _ => rfl
  | dot dir rest ih => exact ih
  | dotdot dir rest ih => exact ih
  | name dir name rest hdot hdotdot ih =>
    rw [List.cons_append, stride_name hdot hdotdot, stride_name hdot hdotdot]
    by_cases hsize : nameLimit < name.utf8ByteSize
    · rw [if_pos hsize]
      trivial
    · rw [if_neg hsize, if_neg hsize]
      have hrest : (rest ++ more).isEmpty = false := by
        cases rest with
        | nil => simpa using hmore
        | cons second rest => rfl
      cases hentry : t.entry? (dir ++ [name]) with
      | none => trivial
      | some e =>
        cases e with
        | directory => exact ih _
        | file content =>
          -- A file may be the last of the names, but then it is no directory to go on from.
          cases rest with
          | nil => exact fun h => by cases h
          | cons second rest => trivial
        | link target =>
          dsimp only
          rw [hrest]
          cases rest <;> rfl

/-- A stride fails where a name is too long, or leads nowhere, or leads on from a file. -/
theorem stride_fault_cases {last : Bool} {kind : FaultKind} (dir : Place) (names : List String)
    (h : stride t last dir names = .fault kind) : kind = .nameTooLong ∨ kind = .missing ∨ kind = .notDirectory := by
  induction dir, names using stride_induction with
  | nil dir => cases h
  | dot dir rest ih => exact ih h
  | dotdot dir rest ih => exact ih h
  | name dir name rest hdot hdotdot ih =>
    rw [stride_name hdot hdotdot] at h
    split at h
    · cases h
      exact Or.inl rfl
    · split at h
      · cases h
        exact Or.inr (Or.inl rfl)
      · exact ih _ h
      · split at h
        · cases h
        · cases h
          exact Or.inr (Or.inr rfl)
      · split at h <;> cases h

/-! ### Following links -/

theorem follow_kept (h : Extends t u) {last : Bool} {links : Nat} {dir : Place} {names : List String} {a : Located}
    (ha : follow t last links dir names = .ok a) : ∃ b, follow u last links dir names = .ok b ∧ a.Like b := by
  have hkept := stride_kept h last dir names
  unfold follow at ha ⊢
  cases hs : stride t last dir names with
  | arrived c =>
    rw [hs] at ha hkept
    cases ha
    obtain ⟨b, hb, hlike⟩ := hkept
    exact ⟨b, by rw [hb], hlike⟩
  | fault kind =>
    rw [hs] at ha
    cases ha
  | link from_ target rest =>
    rw [hs] at ha hkept
    rw [show stride u last dir names = .link from_ target rest from hkept]
    cases links with
    | zero => cases ha
    | succ links => exact follow_kept h ha

theorem follow_stay {links : Nat} {dir : Place} {names : List String} {a : Located}
    (ha : follow t true links dir names = .ok a) : ∃ b, follow t false links dir names = .ok b := by
  have hstay := @stride_stay t dir names
  unfold follow at ha ⊢
  cases hs : stride t true dir names with
  | arrived c =>
    rw [hs] at hstay
    exact ⟨c, by rw [hstay]⟩
  | fault kind =>
    rw [hs] at ha
    cases ha
  | link from_ target rest =>
    rw [hs] at ha hstay
    rcases hstay with hstay | ⟨b, hstay⟩
    · rw [hstay]
      cases links with
      | zero => cases ha
      | succ links => exact follow_stay ha
    · exact ⟨b, by rw [hstay]⟩

/-- The links that are left after a directory has been found are there for the names that follow. -/
theorem follow_append {links : Nat} {dir place : Place} {names : List String}
    (h : follow t true links dir names = .ok ⟨place, .directory⟩) : ∃ left, ∀ (more : List String) (last : Bool),
      more ≠ [] → follow t last links dir (names ++ more) = follow t last left place more := by
  unfold follow at h
  cases hs : stride t true dir names with
  | arrived c =>
    rw [hs] at h
    obtain rfl := Except.ok.inj h
    refine ⟨links, fun more last hmore => ?_⟩
    have happend := @stride_append t more hmore last dir names
    rw [hs] at happend
    rw [follow, happend rfl, ← follow]
  | fault kind =>
    rw [hs] at h
    cases h
  | link from_ target rest =>
    rw [hs] at h
    cases links with
    | zero => cases h
    | succ links =>
      -- The induction is on the links: the names that follow are carried behind those of the target.
      obtain ⟨left, hleft⟩ := follow_append h
      refine ⟨left, fun more last hmore => ?_⟩
      have happend := @stride_append t more hmore last dir names
      rw [hs] at happend
      rw [follow, show stride t last dir (names ++ more) = .link from_ target (rest ++ more) from happend]
      dsimp only
      rw [← List.append_assoc]
      exact hleft more last hmore

/-- Where only the last name of a path is missing, it could be given to an entry. -/
theorem entry?_of_last_missing {links : Nat} {dir place : Place} {names : List String} {name : String}
    (h : follow t true links dir names = .ok ⟨place, .directory⟩)
    (hmissing : follow t false links dir (names ++ [name]) = .error .missing) :
    t.entry? (place ++ [name]) = none ∧ name ≠ "." ∧ name ≠ ".." ∧ name.utf8ByteSize ≤ nameLimit := by
  obtain ⟨left, hleft⟩ := follow_append h
  rw [hleft [name] false (List.cons_ne_nil _ _)] at hmissing
  unfold follow at hmissing
  by_cases hdot : name = "."
  · subst hdot
    cases hmissing
  · by_cases hdotdot : name = ".."
    · subst hdotdot
      cases hmissing
    · rw [stride_name hdot hdotdot] at hmissing
      by_cases hsize : nameLimit < name.utf8ByteSize
      · rw [if_pos hsize] at hmissing
        cases hmissing
      · rw [if_neg hsize] at hmissing
        refine ⟨?_, hdot, hdotdot, Nat.not_lt.mp hsize⟩
        cases hentry : t.entry? (place ++ [name]) with
        | none => rfl
        | some e =>
          rw [hentry] at hmissing
          cases e <;> cases hmissing

theorem follow_last {links : Nat} {dir place : Place} {names : List String} {name : String}
    (h : follow t true links dir names = .ok ⟨place, .directory⟩) (hdot : name ≠ ".") (hdotdot : name ≠ "..")
    (hsize : name.utf8ByteSize ≤ nameLimit) (hentry : t.entry? (place ++ [name]) = some .directory) :
    follow t true links dir (names ++ [name]) = .ok ⟨place ++ [name], .directory⟩ := by
  obtain ⟨left, hleft⟩ := follow_append h
  rw [hleft [name] true (List.cons_ne_nil _ _)]
  unfold follow
  rw [stride_name hdot hdotdot, if_neg (Nat.not_lt.mpr hsize), hentry]
  rfl

/-! ### Paths -/

/-- Where the names of a path begin. -/
def startOf (here : Place) (p : Path) : Place := if p.isAbsolute then [] else here

variable {here : Place} {path : Path}

theorem locate_eq_ok_iff {last : Bool} {a : Located} : t.locate here last path = .ok a ↔
    path.text.toList.contains '\x00' = false ∧ path.text.utf8ByteSize ≤ pathLimit ∧
      follow t last linkLimit (startOf here path) path.names = .ok a := by
  unfold locate startOf
  split
  · rename_i hnull
    rw [hnull]
    constructor
    · intro h
      cases h
    · intro h
      cases h.1
  · rename_i hnull
    split
    · rename_i hlong
      simp [Nat.not_le.mpr hlong]
    · rename_i hlong
      rw [Bool.not_eq_true] at hnull
      simp only [hnull, Nat.not_lt.mp hlong, true_and]
      cases follow t last linkLimit (if path.isAbsolute = true then [] else here) path.names <;> simp [Except.mapError]

theorem locate_eq_missing {last : Bool} {text : String} (h : t.locate here last path = .error ⟨.missing, text⟩) :
    path.text.toList.contains '\x00' = false ∧ path.text.utf8ByteSize ≤ pathLimit ∧
      follow t last linkLimit (startOf here path) path.names = .error .missing := by
  unfold locate at h
  unfold startOf
  split at h
  · cases h
  · rename_i hnull
    split at h
    · cases h
    · rename_i hlong
      refine ⟨Bool.not_eq_true _ ▸ hnull, Nat.not_lt.mp hlong, ?_⟩
      cases hf : follow t last linkLimit (if path.isAbsolute = true then [] else here) path.names with
      | ok a =>
        rw [hf] at h
        cases h
      | error kind =>
        rw [hf] at h
        cases h
        rfl

theorem isDirectory_eq_true_iff : t.isDirectory here path = .ok true ↔
    ∃ place, t.locate here true path = .ok ⟨place, .directory⟩ := by
  unfold isDirectory probe
  cases h : t.locate here true path with
  | ok a =>
    obtain ⟨place, e⟩ := a
    simp [Except.map]
  | error f =>
    by_cases hf : f.kind.meansAbsent = true <;> simp [hf, Except.map]

/-- A directory at the end of a path stays there. -/
theorem isDirectory_of_extends (h : Extends t u) (hd : t.isDirectory here path = .ok true) :
    u.isDirectory here path = .ok true := by
  obtain ⟨place, hlocate⟩ := isDirectory_eq_true_iff.mp hd
  obtain ⟨hnull, hlong, hfollow⟩ := locate_eq_ok_iff.mp hlocate
  obtain ⟨⟨place', e⟩, hfollow', hlike⟩ := follow_kept h hfollow
  obtain rfl : e = .directory := Entry.outline_eq_directory.mp hlike.2
  exact isDirectory_eq_true_iff.mpr ⟨place', locate_eq_ok_iff.mpr ⟨hnull, hlong, hfollow'⟩⟩

theorem exists_locate_of_isDirectory (hd : t.isDirectory here path = .ok true) :
    ∃ a, t.locate here false path = .ok a := by
  obtain ⟨place, hlocate⟩ := isDirectory_eq_true_iff.mp hd
  obtain ⟨hnull, hlong, hfollow⟩ := locate_eq_ok_iff.mp hlocate
  obtain ⟨a, ha⟩ := follow_stay hfollow
  exact ⟨a, locate_eq_ok_iff.mpr ⟨hnull, hlong, ha⟩⟩

end FileTree

end CodeAtlas
