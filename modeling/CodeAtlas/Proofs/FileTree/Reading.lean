import CodeAtlas.FileTree.Reading
import CodeAtlas.FileTree.Resolve
import CodeAtlas.Proofs.FileTree.Follow
import CodeAtlas.Proofs.Text.Utf8

/-! Reading the files that are met on a walk. What is read of a file is the text that its octets write, with the line
    ends unified. A path that has a real path at all can only fail to be read in the ordinary ways: by a fault of the
    system, or because the octets of the file are no text. -/

namespace CodeAtlas

/-! ### Texts of files -/

/-- The text of what is in a file: what the octets write, with its line ends unified. A database without its table is an
    empty file. -/
inductive Content.HasText : Content → String → Prop
  | octets {cs ds : List Char} : Text.UnifiesLineEnds cs ds →
    HasText (.octets (Text.Utf8.encode cs)) (String.ofList ds)
  | emptyDatabase : HasText (.database none) ""

namespace FileTree

variable {t : FileTree} {here place : Place} {path : Path} {text : String}

theorem contentText_eq_ok_iff {content : Content} : contentText content = .ok text ↔ content.HasText text := by
  constructor
  · intro h
    rcases content with bytes | _ | table
    · rw [contentText] at h
      cases hdecode : Text.Utf8.decode bytes with
      | error refusal =>
        rw [hdecode] at h
        cases h
      | ok cs =>
        rw [hdecode] at h
        obtain rfl := Except.ok.inj h
        obtain rfl := Text.Utf8.decode_eq_ok_iff.mp hdecode
        exact .octets (Text.unifiesLineEnds_iff.mpr rfl)
    · obtain rfl := Except.ok.inj h
      exact .emptyDatabase
    · cases h
  · intro h
    cases h with
    | octets hunifies =>
      rw [contentText, Text.Utf8.decode_eq_ok_iff.mpr rfl, ← Text.unifiesLineEnds_iff.mp hunifies]
      rfl
    | emptyDatabase => rfl

/-- A path leads to a file, and this is the text of it. -/
def HasText (t : FileTree) (here : Place) (path : Path) (text : String) : Prop :=
  ∃ place content, t.locate here true path = .ok ⟨place, .file content⟩ ∧ content.HasText text

theorem readText_eq_ok_iff : t.readText here path = .ok text ↔ t.HasText here path text := by
  unfold readText HasText
  constructor
  · intro h
    split at h
    · cases h
    · rename_i place content hlocate
      refine ⟨place, content, hlocate, contentText_eq_ok_iff.mp (?_ : contentText content = .ok text)⟩
      cases hcontent : contentText content with
      | error refusal =>
        rw [hcontent] at h
        cases h
      | ok found =>
        rw [hcontent] at h
        rw [Except.ok.inj h]
    · cases h
  · rintro ⟨place, content, hlocate, htext⟩
    rw [hlocate]
    dsimp only
    rw [contentText_eq_ok_iff.mpr htext]
    rfl

/-! ### Faults -/

/-- A stride comes to an end only by faults of the system. -/
theorem isSystem_of_stride {last : Bool} {kind : FaultKind} (dir : Place) (names : List String)
    (h : stride t last dir names = .fault kind) : kind.isSystem = true := by
  rcases stride_fault_cases dir names h with rfl | rfl | rfl <;> rfl

theorem isSystem_of_follow {last : Bool} {links : Nat} {dir : Place} {names : List String} {kind : FaultKind}
    (h : follow t last links dir names = .error kind) : kind.isSystem = true := by
  unfold follow at h
  cases hs : stride t last dir names with
  | arrived a =>
    rw [hs] at h
    cases h
  | fault kind =>
    rw [hs] at h
    obtain rfl := Except.error.inj h
    exact isSystem_of_stride dir names hs
  | link from_ target rest =>
    rw [hs] at h
    cases links with
    | zero =>
      cases h
      rfl
    | succ links => exact isSystem_of_follow h

theorem isSystem_of_locate {last : Bool} {f : FileFault} (hnull : path.text.toList.contains '\x00' = false)
    (h : t.locate here last path = .error f) : f.kind.isSystem = true := by
  rw [locate, hnull, if_neg Bool.false_ne_true] at h
  split at h
  · cases h
    rfl
  · cases hfollow : follow t last linkLimit (if path.isAbsolute then [] else here) path.names with
    | ok a =>
      rw [hfollow] at h
      cases h
    | error kind =>
      rw [hfollow] at h
      cases h
      exact isSystem_of_follow hfollow

theorem no_null_of_realPath {real : Path} (h : t.realPath here path = .ok real) :
    path.text.toList.contains '\x00' = false := by
  unfold realPath at h
  split at h
  · cases h
  · rename_i hnull
    rwa [Bool.not_eq_true] at hnull

theorem isOrdinary_of_readText {real : Path} {fault : ReadFault} (hreal : t.realPath here path = .ok real)
    (h : t.readText here path = .error fault) : fault.isOrdinary = true := by
  unfold readText at h
  cases hlocate : t.locate here true path with
  | error f =>
    rw [hlocate] at h
    cases h
    exact isSystem_of_locate (no_null_of_realPath hreal) hlocate
  | ok a =>
    obtain ⟨place, e⟩ := a
    rw [hlocate] at h
    cases e with
    | file content =>
      dsimp only at h
      cases hcontent : contentText content with
      | ok text =>
        rw [hcontent] at h
        cases h
      | error refusal =>
        rw [hcontent] at h
        cases h
        rfl
    | directory | link target =>
      cases h
      rfl

end FileTree

end CodeAtlas
