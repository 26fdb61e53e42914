import CodeAtlas.Proofs.Text.Pieces

/-! The words of a text are its longest stretches without a blank. Lower case leaves blanks as they are, and across a blank
    no sigma sees anything, so that the words of a text in lower case are its words in lower case, each for itself. -/

namespace CodeAtlas.Text

/-! ### Longest stretches -/

/-- `runs` are the longest stretches of a text without a blank, in order. Each of them reaches up to a blank or to the end
    of the text. -/
inductive AreRuns : List Char → List (List Char) → Prop
  | nil : AreRuns [] []
  | blank {c : Char} {cs : List Char} {runs : List (List Char)} : isBlank c = true → AreRuns cs runs → AreRuns (c :: cs) runs
  | run {run rest : List Char} {runs : List (List Char)} : run ≠ [] → (∀ c ∈ run, isBlank c = false) →
      (∀ c ∈ rest.head?, isBlank c = true) → AreRuns rest runs → AreRuns (run ++ rest) (run :: runs)

variable {c : Char} {cs run rest after : List Char} {runs parts : List (List Char)}

theorem AreRuns.single (hne : run ≠ []) (h : ∀ c ∈ run, isBlank c = false) : AreRuns run [run] := by
  have hrun := @AreRuns.run run [] [] hne h (fun _ hd => by cases hd) AreRuns.nil
  rwa [List.append_nil] at hrun

theorem wordsChars_cons_of_isBlank (hc : isBlank c = true) : wordsChars (c :: cs) = wordsChars cs := by
  rw [wordsChars, splitWhere_cons_of hc, List.filter_cons_of_neg (by simp), wordsChars]

theorem wordsChars_of_not (hne : run ≠ []) (h : ∀ c ∈ run, isBlank c = false) : wordsChars run = [run] := by
  rw [wordsChars, splitWhere_of_not h, List.filter_cons_of_pos (by simpa using hne), List.filter_nil]

theorem wordsChars_append (hne : run ≠ []) (h : ∀ c ∈ run, isBlank c = false) (hrest : ∀ c ∈ rest.head?, isBlank c = true) :
    wordsChars (run ++ rest) = run :: wordsChars rest := by
  cases rest with
  | nil =>
    rw [List.append_nil, wordsChars_of_not hne h]
    rfl
  | cons c rest =>
    have hc : isBlank c = true := hrest c rfl
    rw [wordsChars, splitWhere_append_cons h hc, List.filter_cons_of_pos (by simpa using hne),
      wordsChars_cons_of_isBlank hc, wordsChars]

theorem areRuns_wordsChars (cs : List Char) : AreRuns cs (wordsChars cs) := by
  rcases splitWhere_cases isBlank cs with hself | ⟨part, c, rest, hcs, hc, hsplit⟩
  · have hnot : ∀ c ∈ cs, isBlank c = false := fun c hc =>
      (mem_of_mem_splitWhere (hself ▸ List.mem_singleton_self cs) c hc).2
    by_cases hnil : cs = []
    · rw [hnil]
      exact AreRuns.nil
    · rw [wordsChars_of_not hnil hnot]
      exact AreRuns.single hnil hnot
  · have hlt : rest.length < cs.length := by
      rw [hcs, List.length_append, List.length_cons]
      omega
    have hrest : AreRuns (c :: rest) (wordsChars (c :: rest)) := by
      rw [wordsChars_cons_of_isBlank hc]
      exact AreRuns.blank hc (areRuns_wordsChars rest)
    rw [hcs]
    by_cases hnil : part = []
    · rwa [hnil, List.nil_append]
    · have hnot : ∀ c ∈ part, isBlank c = false := fun c hc =>
        (mem_of_mem_splitWhere (hsplit ▸ List.mem_cons_self) c hc).2
      have hhead : ∀ d ∈ (c :: rest).head?, isBlank d = true := by
        rintro d ⟨⟩
        exact hc
      rw [wordsChars_append hnil hnot hhead]
      exact AreRuns.run hnil hnot hhead hrest
termination_by cs.length

/-- A text has one list of longest stretches, which is that of its words. -/
theorem areRuns_iff : AreRuns cs runs ↔ runs = wordsChars cs := by
  constructor
  · intro h
    induction h with
    | nil => rfl
    | blank hc _ ih => rw [wordsChars_cons_of_isBlank hc, ih]
    | run hne hnot hrest _ ih => rw [wordsChars_append hne hnot hrest, ih]
  · rintro rfl
    exact areRuns_wordsChars cs

namespace AreRuns

theorem ne_nil (h : AreRuns cs runs) : ∀ run ∈ runs, run ≠ [] := by
  induction h with
  | nil => exact fun _ hrun => by cases hrun
  | blank _ _ ih => exact ih
  | run hne _ _ _ ih => exact List.forall_mem_cons.mpr ⟨hne, ih⟩

theorem not_blank (h : AreRuns cs runs) : ∀ run ∈ runs, ∀ c ∈ run, isBlank c = false := by
  induction h with
  | nil => exact fun _ hrun => by cases hrun
  | blank _ _ ih => exact ih
  | run _ hnot _ _ ih => exact List.forall_mem_cons.mpr ⟨hnot, ih⟩

/-- Blanks in front of a text change nothing. -/
theorem append_blanks (h : AreRuns cs runs) : ∀ {gap : List Char}, (∀ c ∈ gap, isBlank c = true) → AreRuns (gap ++ cs) runs
  | [], _ => h
  | _ :: _, hgap => by
    obtain ⟨hc, hrest⟩ := List.forall_mem_cons.mp hgap
    exact AreRuns.blank hc (h.append_blanks hrest)

end AreRuns

/-! ### Lower case -/

theorem lowerFrom_cons_of_isBlank (hc : isBlank c = true) (cased : Bool) (cs : List Char) :
    lowerFrom cased (c :: cs) = c :: lowerChars cs := by
  have hsigma : c ≠ capitalSigma := by
    rintro rfl
    exact absurd hc (by decide)
  have hdotted : c ≠ dottedCapitalI := by
    rintro rfl
    exact absurd hc (by decide)
  have hborder := isBorder_of_isBlank hc
  have hafter : casedAfter cased c = false := by
    rw [casedAfter, hborder.not_ignorable, hborder.not_cased]
    rfl
  rw [lowerFrom, lowerInContext, if_neg hsigma, if_neg hdotted, lowerChar_of_isBlank hc, hafter]
  rfl

/-- Where a blank stands between two parts, or where one of them ends the text, each has its lower case for itself. -/
theorem lowerChars_append (h : ∀ c ∈ after.head?, isBlank c = true) (cs : List Char) :
    lowerChars (cs ++ after) = lowerChars cs ++ lowerChars after := by
  rw [lowerChars, lowerFrom_append fun c hc => isBorder_of_isBlank (h c hc)]
  cases after with
  | nil => rfl
  | cons c after =>
    have hc : isBlank c = true := h c rfl
    rw [lowerFrom_cons_of_isBlank hc, ← lowerFrom_cons_of_isBlank hc false]
    rfl

theorem head?_lowerChars (h : ∀ c ∈ cs.head?, isBlank c = true) : ∀ c ∈ (lowerChars cs).head?, isBlank c = true := by
  cases cs with
  | nil => exact h
  | cons c cs =>
    rw [lowerChars, lowerFrom_cons_of_isBlank (h c rfl)]
    exact h

/-- The longest stretches of a text in lower case are those of the text, each in lower case. -/
theorem AreRuns.lower (h : AreRuns cs runs) : AreRuns (lowerChars cs) (runs.map lowerChars) := by
  induction h with
  | nil => exact AreRuns.nil
  | blank hc _ ih =>
    rw [lowerChars, lowerFrom_cons_of_isBlank hc]
    exact AreRuns.blank hc ih
  | run hne hnot hrest _ ih =>
    rw [lowerChars_append hrest]
    exact AreRuns.run (lowerChars_ne_nil hne) (isBlank_of_mem_lowerFrom hnot) (head?_lowerChars hrest) ih

theorem wordsChars_lowerChars (cs : List Char) : wordsChars (lowerChars cs) = (wordsChars cs).map lowerChars :=
  (areRuns_iff.mp (areRuns_wordsChars cs).lower).symm

theorem words_lower (s : String) : words (lower s) = (words s).map lower := by
  rw [words, lower, String.toList_ofList, wordsChars_lowerChars, words, List.map_map, List.map_map]
  refine List.map_congr_left fun word _ => ?_
  rw [Function.comp_apply, Function.comp_apply, lower, String.toList_ofList]

/-! ### Words put together again -/

/-- A text is put together from words with blanks, at least one, between any two of them. -/
inductive IsJoined : List (List Char) → List Char → Prop
  | nil : IsJoined [] []
  | single (word : List Char) : IsJoined [word] word
  | cons {words : List (List Char)} {text : List Char} (word gap : List Char) : gap ≠ [] → (∀ c ∈ gap, isBlank c = true) →
      words ≠ [] → IsJoined words text → IsJoined (word :: words) (word ++ (gap ++ text))

/-- From the text the same words are read. -/
theorem IsJoined.areRuns (h : IsJoined parts cs) (hne : ∀ word ∈ parts, word ≠ [])
    (hnot : ∀ word ∈ parts, ∀ c ∈ word, isBlank c = false) : AreRuns cs parts := by
  induction h with
  | nil => exact AreRuns.nil
  | single word => exact AreRuns.single (hne word (List.mem_singleton_self _)) (hnot word (List.mem_singleton_self _))
  | cons word gap hgap hblank _ _ ih =>
    obtain ⟨hword, hwords⟩ := List.forall_mem_cons.mp hne
    obtain ⟨hclear, hothers⟩ := List.forall_mem_cons.mp hnot
    refine AreRuns.run hword hclear (fun c hc => hblank c ?_) ((ih hwords hothers).append_blanks hblank)
    rw [List.head?_append_of_ne_nil _ hgap] at hc
    exact List.mem_of_head? hc

end CodeAtlas.Text
