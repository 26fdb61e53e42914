import CodeAtlas.Proofs.FileTree.Reading
import CodeAtlas.Proofs.FileTree.TooLong

/-! What is answered to a request for a file. Whatever is at the end of the path, there is one answer to it: what is in
    the file, that it is none, that there is nothing, or why the file is no text. Only a path that is too long to be
    looked up has no answer. -/

namespace CodeAtlas.FileTree

/-- What a request for a file is to be answered with. A file is text where its octets are those that a text is written
    as; of that text the line ends are unified. A database that has its table is no text, for whichever octets of it. -/
inductive Answers (t : FileTree) (here : Place) (target : String) : String → Prop
  | nothing {f : FileFault} : t.locate here true (Path.ofText target) = .error f → f.kind.meansAbsent = true →
      Answers t here target ("File not found: " ++ target)
  | noFile {place : Place} {e : Entry} : t.locate here true (Path.ofText target) = .ok ⟨place, e⟩ →
      (∀ content, e ≠ .file content) → Answers t here target (target ++ " is not a file")
  | text {place : Place} {bytes : List UInt8} {cs ds : List Char} :
      t.locate here true (Path.ofText target) = .ok ⟨place, .file (.octets bytes)⟩ → Text.Utf8.encode cs = bytes →
      Text.UnifiesLineEnds cs ds → Answers t here target (String.ofList ds)
  | noText {place : Place} {bytes : List UInt8} {refusal : Text.Utf8.Refusal} :
      t.locate here true (Path.ofText target) = .ok ⟨place, .file (.octets bytes)⟩ →
      (∀ cs, Text.Utf8.encode cs ≠ bytes) → Text.Utf8.decode bytes = .error refusal →
      Answers t here target ("File reading failed - " ++ refusal.message)
  | emptyDatabase {place : Place} : t.locate here true (Path.ofText target) = .ok ⟨place, .file (.database none)⟩ →
      Answers t here target ""
  | database {place : Place} {table : Store.Table} {refusal : Text.Utf8.Refusal} :
      t.locate here true (Path.ofText target) = .ok ⟨place, .file (.database (some table))⟩ →
      contentText (.database (some table)) = .error refusal →
      Answers t here target ("File reading failed - " ++ refusal.message)

variable {t : FileTree} {here place : Place} {target answer text : String} {e : Entry} {content : Content}

theorem decode_eq_error {bytes : List UInt8} (h : ∀ cs, Text.Utf8.encode cs ≠ bytes) :
    ∃ refusal, Text.Utf8.decode bytes = .error refusal := by
  cases hdecode : Text.Utf8.decode bytes with
  | ok cs => exact absurd (Text.Utf8.decode_eq_ok_iff.mp hdecode) (h cs)
  | error refusal => exact ⟨refusal, rfl⟩

theorem describeFile_of_nothing {f : FileFault} (h : t.locate here true (Path.ofText target) = .error f)
    (habsent : f.kind.meansAbsent = true) : t.describeFile here target = .ok ("File not found: " ++ target) := by
  simp [describeFile, probe, h, habsent]

theorem describeFile_of_noFile (h : t.locate here true (Path.ofText target) = .ok ⟨place, e⟩)
    (hentry : ∀ content, e ≠ .file content) : t.describeFile here target = .ok (target ++ " is not a file") := by
  rw [describeFile, probe, h]
  cases e with
  | directory | link target => rfl
  | file content => exact absurd rfl (hentry content)

theorem describeFile_of_text (h : t.locate here true (Path.ofText target) = .ok ⟨place, .file content⟩)
    (hcontent : contentText content = .ok text) : t.describeFile here target = .ok text := by
  have hread : t.readText here (Path.ofText target) = .ok text := by
    rw [readText, h]
    exact congrArg (Except.mapError ReadFault.encoding) hcontent
  rw [describeFile, probe, h]
  dsimp only
  rw [hread]

theorem describeFile_of_refusal {refusal : Text.Utf8.Refusal}
    (h : t.locate here true (Path.ofText target) = .ok ⟨place, .file content⟩)
    (hcontent : contentText content = .error refusal) :
    t.describeFile here target = .ok ("File reading failed - " ++ refusal.message) := by
  have hread : t.readText here (Path.ofText target) = .error (.encoding refusal) := by
    rw [readText, h]
    exact congrArg (Except.mapError ReadFault.encoding) hcontent
  rw [describeFile, probe, h]
  dsimp only
  rw [hread]
  rfl

theorem Answers.describeFile (h : Answers t here target answer) : t.describeFile here target = .ok answer := by
  cases h with
  | nothing h habsent => exact describeFile_of_nothing h habsent
  | noFile h hentry => exact describeFile_of_noFile h hentry
  | text h hcs hunifies => exact describeFile_of_text h (contentText_eq_ok_iff.mpr (hcs ▸ .octets hunifies))
  | noText h _ hrefusal => exact describeFile_of_refusal h (by rw [contentText, hrefusal]; rfl)
  | emptyDatabase h => exact describeFile_of_text h rfl
  | database h hrefusal => exact describeFile_of_refusal h hrefusal

/-- There is an answer unless the path is too long. -/
theorem exists_answers (hlong : ¬IsTooLong t here (Path.ofText target)) : ∃ answer, Answers t here target answer := by
  cases hlocate : t.locate here true (Path.ofText target) with
  | error f =>
    rcases locate_fault_cases hlocate with hkind | habsent
    · exact absurd (locate_eq_tooLong_iff.mp ⟨hlocate, hkind⟩).1 hlong
    · exact ⟨_, .nothing hlocate habsent⟩
  | ok a =>
    obtain ⟨place, e⟩ := a
    rcases e with _ | (bytes | _ | table) | target
    · exact ⟨_, .noFile hlocate (by simp)⟩
    · by_cases htext : ∃ cs, Text.Utf8.encode cs = bytes
      · obtain ⟨cs, hcs⟩ := htext
        exact ⟨_, .text hlocate hcs (Text.unifiesLineEnds_iff.mpr rfl)⟩
      · obtain ⟨refusal, hrefusal⟩ := decode_eq_error (not_exists.mp htext)
        exact ⟨_, .noText hlocate (not_exists.mp htext) hrefusal⟩
    · exact ⟨_, .emptyDatabase hlocate⟩
    · exact ⟨_, .database hlocate rfl⟩
    · exact ⟨_, .noFile hlocate (by simp)⟩

/-- A request for a file is answered with what it is to be answered with, and with nothing else. Only where the path is
    too long does it fail, with the fault of the system. -/
theorem describeFile_answers (t : FileTree) (here : Place) (target : String) :
    (∀ answer, t.describeFile here target = .ok answer ↔ Answers t here target answer) ∧
      ∀ f, t.describeFile here target = .error f ↔
        IsTooLong t here (Path.ofText target) ∧ f = ⟨.nameTooLong, (Path.ofText target).text⟩ := by
  by_cases hlong : IsTooLong t here (Path.ofText target)
  · have hfails : t.describeFile here target = .error ⟨.nameTooLong, (Path.ofText target).text⟩ := by
      rw [describeFile, probe_eq_error_iff.mpr ⟨hlong, rfl⟩]
    refine ⟨fun answer => ⟨fun h => ?_, fun h => h.describeFile⟩, fun f => ?_⟩
    · rw [hfails] at h
      cases h
    · rw [hfails, Except.error.injEq, eq_comm]
      exact ⟨fun h => ⟨hlong, h⟩, And.right⟩
  · obtain ⟨found, hfound⟩ := exists_answers hlong
    refine ⟨fun answer => ⟨fun h => ?_, fun h => h.describeFile⟩, fun f => ?_⟩
    · obtain rfl := Except.ok.inj (hfound.describeFile.symm.trans h)
      exact hfound
    · rw [hfound.describeFile]
      exact ⟨fun h => (by cases h), fun h => absurd h.1 hlong⟩

/-- A name that is too long is no answer but a fault. -/
theorem describeFile_longName : describeFile {} [] longName = .error ⟨.nameTooLong, longName⟩ := by
  rw [describeFile, probe_longName]

end CodeAtlas.FileTree
