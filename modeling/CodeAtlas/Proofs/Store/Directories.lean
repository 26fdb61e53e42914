import CodeAtlas.Proofs.FileTree.Follow
import CodeAtlas.Proofs.FileTree.Paths
import CodeAtlas.Proofs.Store.Database
import Mathlib

/-! What stands above a directory is a directory too, and where directories could not be made none is in the end. -/

namespace CodeAtlas

variable {t u : FileTree} {here : Place} {path : Path}

/-! ### Texts -/

namespace Path

/-- The text of the path above is part of that of the path, or it is a single point. -/
theorem parent_text_cases (p : Path) : p.parent.text = "." ∨ ∃ rest, p.text = p.parent.text ++ rest := by
  obtain ⟨start, names⟩ := p
  by_cases hnil : names = []
  · exact Or.inr ⟨"", by rw [String.append_empty, hnil]; rfl⟩
  · obtain ⟨above, last, rfl⟩ : ∃ above last, names = above ++ [last] := ⟨_, _, (List.dropLast_concat_getLast hnil).symm⟩
    rw [parent, text_of_names_ne_nil hnil, List.dropLast_concat]
    by_cases habove : above = []
    · subst habove
      cases start with
      | here => exact Or.inl rfl
      | root => exact Or.inr ⟨_, rfl⟩
      | doubleRoot => exact Or.inr ⟨_, rfl⟩
    · rw [text_of_names_ne_nil habove, joined_append habove (List.cons_ne_nil _ _), String.append_assoc]
      exact Or.inr ⟨"/" ++ "/".intercalate [last], by simp only [String.append_assoc]⟩

theorem no_null_parent (h : path.text.toList.contains '\x00' = false) :
    path.parent.text.toList.contains '\x00' = false := by
  rcases path.parent_text_cases with hpoint | ⟨rest, htext⟩
  · rw [hpoint]
    decide
  · rw [htext, String.toList_append] at h
    simp only [List.contains_eq_mem, decide_eq_false_iff_not, List.mem_append, not_or] at h ⊢
    exact h.1

theorem size_parent_le {n : Nat} (hn : 1 ≤ n) (h : path.text.utf8ByteSize ≤ n) : path.parent.text.utf8ByteSize ≤ n := by
  rcases path.parent_text_cases with hpoint | ⟨rest, htext⟩
  · rw [hpoint]
    exact hn
  · rw [htext, String.utf8ByteSize_append] at h
    omega

end Path

/-! ### Following -/

namespace FileTree

/-- A stride that fails on the way, or ends at a file on the way, fails. -/
theorem stride_append_fault {more : List String} (hmore : more ≠ []) (last : Bool) (dir : Place) (names : List String) :
    match stride t true dir names with
    | .arrived a => a.entry ≠ .directory → ∃ kind, stride t last dir (names ++ more) = .fault kind
    | .link _ _ _ => True
    | .fault _ => ∃ kind, stride t last dir (names ++ more) = .fault kind := by
  induction dir, names using stride_induction with
  | nil dir => exact fun h => absurd rfl h
  | dot dir rest ih => exact ih
  | dotdot dir rest ih => exact ih
  | name dir name rest hdot hdotdot ih =>
    rw [List.cons_append, stride_name hdot hdotdot, stride_name hdot hdotdot]
    by_cases hsize : nameLimit < name.utf8ByteSize
    · rw [if_pos hsize, if_pos hsize]
      exact ⟨_, rfl⟩
    · rw [if_neg hsize, if_neg hsize]
      have hrest : (rest ++ more).isEmpty = false := by
        cases rest with
        | nil => simpa using hmore
        | cons second rest => rfl
      cases hentry : t.entry? (dir ++ [name]) with
      | none => exact ⟨_, rfl⟩
      | some e =>
        cases e with
        | directory => exact ih _
        | file content =>
          dsimp only
          rw [hrest]
          cases rest with
          | nil => exact fun _ => ⟨_, rfl⟩
          | cons second rest => exact ⟨_, rfl⟩
        | link target => cases rest <;> trivial

/-- On the way to something the names lead to a directory. -/
theorem follow_above {last : Bool} {links : Nat} {dir : Place} {names more : List String} (hmore : more ≠ []) {a : Located}
    (h : follow t last links dir (names ++ more) = .ok a) :
    ∃ place, follow t true links dir names = .ok ⟨place, .directory⟩ := by
  have happend := stride_append (t := t) hmore last dir names
  have hfault := stride_append_fault (t := t) hmore last dir names
  unfold follow at h ⊢
  cases hs : stride t true dir names with
  | arrived c =>
    obtain ⟨place, e⟩ := c
    by_cases he : e = .directory
    · exact ⟨place, by rw [he]⟩
    · rw [hs] at hfault
      obtain ⟨kind, hkind⟩ := hfault he
      rw [hkind] at h
      cases h
  | fault kind =>
    rw [hs] at hfault
    obtain ⟨kind, hkind⟩ := hfault
    rw [hkind] at h
    cases h
  | link from_ target rest =>
    rw [hs] at happend
    rw [show stride t last dir (names ++ more) = .link from_ target (rest ++ more) from happend] at h
    cases links with
    | zero => cases h
    | succ links =>
      dsimp only at h
      rw [← List.append_assoc] at h
      exact follow_above hmore h

theorem isDirectory_parent (h : t.isDirectory here path = .ok true) : t.isDirectory here path.parent = .ok true := by
  by_cases hnil : path.names = []
  · have hsame : path.parent = path := by
      obtain ⟨start, names⟩ := path
      obtain rfl : names = [] := hnil
      rfl
    rwa [hsame]
  · obtain ⟨place, hlocate⟩ := isDirectory_eq_true_iff.mp h
    obtain ⟨hnull, hlong, hfollow⟩ := locate_eq_ok_iff.mp hlocate
    rw [← Path.names_eq hnil] at hfollow
    obtain ⟨above, habove⟩ := follow_above (List.cons_ne_nil _ _) hfollow
    exact isDirectory_eq_true_iff.mpr ⟨above, locate_eq_ok_iff.mpr
      ⟨Path.no_null_parent hnull, Path.size_parent_le (by decide) hlong, habove⟩⟩

end FileTree

/-! ### Making directories -/

namespace Database

open FileTree

/-- Where making a directory meets nothing there is none. -/
theorem not_isDirectory_of_missing {text : String} (h : makeDirectory t here path = .error ⟨.missing, text⟩) :
    t.isDirectory here path ≠ .ok true := by
  intro hdirectory
  obtain ⟨a, ha⟩ := exists_locate_of_isDirectory hdirectory
  rw [makeDirectory, ha] at h
  cases h

theorem not_isDirectory_of_unlessDirectory {f f' : FileFault} (h : unlessDirectory t here path f = .error f') :
    t.isDirectory here path ≠ .ok true := by
  intro hdirectory
  rw [unlessDirectory, hdirectory] at h
  cases h

/-- Where directories could not be made none is in the end. -/
theorem not_isDirectory_of_makeDirectories {depth : Nat} {f : FileFault}
    (h : makeDirectories here depth t path = (.error f, u)) : u.isDirectory here path ≠ .ok true := by
  induction depth generalizing t u path f with
  | zero =>
    unfold makeDirectories at h
    split at h
    · cases h
    · rename_i hmissing
      cases h
      exact not_isDirectory_of_missing hmissing
    · obtain ⟨hfailed, rfl⟩ := Prod.mk.inj h
      exact not_isDirectory_of_unlessDirectory hfailed
  | succ depth ih =>
    unfold makeDirectories at h
    split at h
    · cases h
    · rename_i hmissing
      dsimp only at h
      split at h
      · cases h
        exact not_isDirectory_of_missing hmissing
      · split at h
        · -- The directory above could not be made, and there is no other way to this one.
          rename_i hparent
          cases h
          exact fun hdirectory => ih hparent (isDirectory_parent hdirectory)
        · split at h
          · cases h
          · rename_i hmissing'
            cases h
            exact not_isDirectory_of_missing hmissing'
          · obtain ⟨hfailed, rfl⟩ := Prod.mk.inj h
            exact not_isDirectory_of_unlessDirectory hfailed
    · obtain ⟨hfailed, rfl⟩ := Prod.mk.inj h
      exact not_isDirectory_of_unlessDirectory hfailed

end Database

end CodeAtlas
