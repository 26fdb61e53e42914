import CodeAtlas.Proofs.Text.Words
import CodeAtlas.Search.Terms

/-! The terms of a query: its words, each in lower case for itself. All of their characters are in lower case, and a query
    without terms is empty, too long or blank. -/

namespace CodeAtlas.Search

open Text

/-- The store lower-cases a term again, which leaves it as it is. -/
theorem lowerChars_of_mem_terms {c : Config} {query term : String} (h : term ∈ c.terms query) :
    lowerChars term.toList = term.toList := by
  unfold Config.terms at h
  split at h
  · cases h
  · have hword := mem_words.mp h
    rw [wordsChars, List.mem_filter, lower, String.toList_ofList] at hword
    exact lowerChars_eq_self fun d hd => isLower_of_mem_lowerChars d (mem_of_mem_splitWhere hword.1 d hd).1

theorem lower_of_mem_terms {c : Config} {query term : String} (h : term ∈ c.terms query) : lower term = term := by
  rw [lower, lowerChars_of_mem_terms h, String.ofList_toList]

/-- Nothing is looked for with a query that is empty, too long or blank, and with no other. -/
theorem terms_eq_nil_iff {c : Config} {query : String} :
    c.terms query = [] ↔ query.isEmpty = true ∨ c.maxQueryLength < query.length ∨ isBlankText query = true := by
  unfold Config.terms
  split
  · rename_i h
    rw [Bool.or_eq_true, decide_eq_true_eq] at h
    exact iff_of_true rfl (h.imp_right Or.inl)
  · rename_i h
    rw [Bool.or_eq_true, decide_eq_true_eq, not_or] at h
    rw [words, List.map_eq_nil_iff, wordsChars_eq_nil_iff, lower, String.toList_ofList, lowerChars,
      all_isBlank_lowerFrom]
    constructor
    · exact fun hb => Or.inr (Or.inr hb)
    · rintro (he | hl | hb)
      · exact absurd he h.1
      · exact absurd hl h.2
      · exact hb

/-! ### Words -/

variable {c : Config} {query term joined : String}

/-- A term is a word. -/
theorem isWord_of_mem_terms (h : term ∈ c.terms query) :
    term.toList ≠ [] ∧ ∀ d ∈ term.toList, isBlank d = false := by
  unfold Config.terms at h
  split at h
  · cases h
  · have hruns := areRuns_wordsChars (lower query).toList
    have hword := mem_words.mp h
    exact ⟨hruns.ne_nil _ hword, hruns.not_blank _ hword⟩

theorem terms_of_length (hne : query ≠ "") (hlength : query.length ≤ c.maxQueryLength) :
    c.terms query = (words query).map lower := by
  have hempty : query.isEmpty = false := by
    rw [Bool.eq_false_iff]
    exact fun h => hne (String.isEmpty_iff.mp h)
  rw [Config.terms, hempty, decide_eq_false (Nat.not_lt.mpr hlength), Bool.or_false, if_neg Bool.false_ne_true, words_lower]

/-- Terms that are put together with blanks between them are the terms of the whole. -/
theorem terms_of_isJoined (h : IsJoined ((c.terms query).map String.toList) joined.toList)
    (hlength : joined.length ≤ c.maxQueryLength) : c.terms joined = c.terms query := by
  have hruns : AreRuns joined.toList ((c.terms query).map String.toList) :=
    h.areRuns (List.forall_mem_map.mpr fun _ ht => (isWord_of_mem_terms ht).1)
      (List.forall_mem_map.mpr fun _ ht => (isWord_of_mem_terms ht).2)
  have hwords : words joined = c.terms query := by
    rw [words, ← areRuns_iff.mp hruns, List.map_map]
    exact (List.map_congr_left fun _ _ => String.ofList_toList).trans (List.map_id _)
  by_cases hempty : joined = ""
  · rw [← hwords, hempty]
    rfl
  · rw [terms_of_length hempty hlength, hwords]
    exact (List.map_congr_left fun _ ht => lower_of_mem_terms ht).trans (List.map_id _)

/-- The terms of a query that is neither empty nor too long are its longest stretches without a blank, each of them in lower
    case for itself. None of them is empty or has a blank in it, and lower case leaves them as they are; there are none just
    when the query is blank; and put together with blanks between them they are the terms of the whole again. -/
theorem terms_are_words_in_lower_case (c : Config) (query : String) (hne : 1 ≤ query.length)
    (hlength : query.length ≤ c.maxQueryLength) :
    (∃ runs, AreRuns query.toList runs ∧ c.terms query = (runs.map String.ofList).map lower) ∧
    (∀ term ∈ c.terms query, term ≠ "" ∧ (∀ d ∈ term.toList, isBlank d = false) ∧ lower term = term) ∧
    (c.terms query = [] ↔ isBlankText query = true) ∧
    ∀ joined : String, IsJoined ((c.terms query).map String.toList) joined.toList → joined.length ≤ c.maxQueryLength →
      c.terms joined = c.terms query := by
  have hquery : query ≠ "" := by
    rintro rfl
    exact absurd hne (by decide)
  refine ⟨⟨_, areRuns_wordsChars _, terms_of_length hquery hlength⟩, fun term ht => ?_, ?_, fun _ => terms_of_isJoined⟩
  · obtain ⟨hterm, hclear⟩ := isWord_of_mem_terms ht
    exact ⟨fun hempty => hterm (String.toList_eq_nil_iff.mpr hempty), hclear, lower_of_mem_terms ht⟩
  · rw [terms_eq_nil_iff]
    constructor
    · rintro (hempty | hlong | hblank)
      · exact absurd (String.isEmpty_iff.mp hempty) hquery
      · exact absurd hlength (Nat.not_le.mpr hlong)
      · exact hblank
    · exact fun hblank => Or.inr (Or.inr hblank)

/-- The first word ends in a sigma, the second one becomes longer, and the blank between them is no space. -/
theorem terms_of_two_words :
    let query := " ΑΣ\u3000İb"
    1 ≤ query.length ∧ query.length ≤ ({} : Config).maxQueryLength ∧ ({} : Config).terms query = ["ας", "i̇b"] ∧
      ({} : Config).terms "ας \t i̇b" = ["ας", "i̇b"] ∧ isBlankText query = false := by
  intro query
  have hterms : ({} : Config).terms query = ["ας", "i̇b"] := by decide +kernel
  have hne : 1 ≤ query.length := by decide
  have hlength : query.length ≤ ({} : Config).maxQueryLength := by decide
  obtain ⟨-, -, hnil, hjoined⟩ := terms_are_words_in_lower_case {} query hne hlength
  rw [hterms] at hnil hjoined
  refine ⟨hne, hlength, hterms, hjoined "ας \t i̇b" ?_ (by decide), ?_⟩
  · have hgap : ∀ d ∈ " \t ".toList, isBlank d = true := List.all_eq_true.mp (by decide)
    exact IsJoined.cons "ας".toList " \t ".toList (by decide) hgap (by decide) (IsJoined.single _)
  · rw [Bool.eq_false_iff]
    exact fun hblank => absurd (hnil.mpr hblank) (by decide)

end CodeAtlas.Search
