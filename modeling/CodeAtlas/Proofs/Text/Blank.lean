import CodeAtlas.Text.Blank
import Mathlib.Data.List.DropRight

/-! Trimmed texts and the parts of a text. Trimming a second time changes nothing, and texts that are put together
    with commas between them are the parts of the whole, but for the blanks beside the commas. -/

namespace CodeAtlas.Text

/-! ### Trimming -/

theorem trimChars_eq (cs : List Char) : trimChars cs = (cs.dropWhile isBlank).rdropWhile isBlank := rfl

theorem mem_of_mem_trimChars {c : Char} {cs : List Char} (h : c ∈ trimChars cs) : c ∈ cs :=
  (List.dropWhile_sublist _).subset ((List.rdropWhile_prefix _ _).subset h)

theorem trimChars_trimChars (cs : List Char) : trimChars (trimChars cs) = trimChars cs := by
  have hstart : (trimChars cs).dropWhile isBlank = trimChars cs := by
    refine List.dropWhile_eq_self_iff.mpr fun hlength => ?_
    have hfront : trimChars cs <+: cs.dropWhile isBlank := List.rdropWhile_prefix _ _
    rw [hfront.getElem hlength]
    exact List.dropWhile_get_zero_not isBlank cs _
  rw [trimChars_eq (trimChars cs), hstart, trimChars_eq, List.rdropWhile_idempotent]

theorem trimChars_cons_of_isBlank {c : Char} {cs : List Char} (h : isBlank c = true) :
    trimChars (c :: cs) = trimChars cs := by
  rw [trimChars_eq, trimChars_eq, List.dropWhile_cons_of_pos h]

theorem trimChars_eq_nil_iff {cs : List Char} : trimChars cs = [] ↔ ∀ c ∈ cs, isBlank c = true := by
  rw [trimChars_eq, List.rdropWhile_eq_nil_iff]
  refine ⟨fun h c hc => ?_, fun h c hc => h c ((List.dropWhile_sublist _).subset hc)⟩
  rw [← List.takeWhile_append_dropWhile (p := isBlank) (l := cs)] at hc
  rcases List.mem_append.mp hc with hc | hc
  · exact List.mem_takeWhile_imp hc
  · exact h c hc

/-- Just of a blank text nothing is left once it is trimmed. -/
theorem trim_eq_empty_iff {s : String} : trim s = "" ↔ isBlankText s = true := by
  rw [trim, String.ofList_eq_empty_iff, trimChars_eq_nil_iff, isBlankText, List.all_eq_true]

theorem trim_trim (s : String) : trim (trim s) = trim s := by
  rw [trim, trim, String.toList_ofList, trimChars_trimChars]

/-- The second text is what stands in the first one between the blanks at its two ends. -/
structure Trims (s t : String) : Prop where
  between : ∃ before after : List Char, s.toList = before ++ t.toList ++ after ∧ (∀ c ∈ before, isBlank c = true) ∧
    ∀ c ∈ after, isBlank c = true
  first : ∀ c rest, t.toList = c :: rest → isBlank c = false
  last : ∀ rest c, t.toList = rest ++ [c] → isBlank c = false

theorem trims_trim (s : String) : Trims s (trim s) := by
  have htrim : (trim s).toList = (s.toList.dropWhile isBlank).rdropWhile isBlank := by
    rw [trim, String.toList_ofList, trimChars_eq]
  refine ⟨⟨s.toList.takeWhile isBlank, (s.toList.dropWhile isBlank).rtakeWhile isBlank, ?_, ?_, ?_⟩, ?_, ?_⟩
  · rw [htrim, List.append_assoc, List.rdropWhile_append_rtakeWhile, List.takeWhile_append_dropWhile]
  · exact fun c hc => List.mem_takeWhile_imp hc
  · exact fun c hc => List.mem_rtakeWhile_imp hc
  · intro c rest h
    have hfront : c :: rest <+: s.toList.dropWhile isBlank := by
      rw [← h, htrim]
      exact List.rdropWhile_prefix _ _
    obtain ⟨after, hafter⟩ := hfront
    have hhead := List.head?_dropWhile_not isBlank s.toList
    rw [← hafter] at hhead
    exact hhead
  · intro rest c h
    rw [htrim] at h
    have hne : (s.toList.dropWhile isBlank).rdropWhile isBlank ≠ [] := by
      rw [h]
      exact List.concat_ne_nil c rest
    have hlast := List.rdropWhile_last_not isBlank (s.toList.dropWhile isBlank) hne
    simpa [h] using hlast

/-- There is only one way to trim a text. -/
theorem trims_iff {s t : String} : Trims s t ↔ trim s = t := by
  refine ⟨fun h => ?_, fun h => h ▸ trims_trim s⟩
  obtain ⟨before, after, hs, hbefore, hafter⟩ := h.between
  have hlast : t.toList.rdropWhile isBlank = t.toList := List.rdropWhile_eq_self_iff.mpr fun hne => by
    rw [h.last _ _ (List.dropLast_append_getLast hne).symm]
    exact Bool.false_ne_true
  have hend : (t.toList ++ after).rdropWhile isBlank = t.toList := by
    rw [List.rdropWhile, List.reverse_append, List.dropWhile_append_of_pos fun c hc => hafter c (List.mem_reverse.mp hc)]
    exact hlast
  have hchars : trimChars s.toList = t.toList := by
    rw [hs, trimChars_eq, List.append_assoc, List.dropWhile_append_of_pos hbefore]
    cases ht : t.toList with
    | nil =>
      rw [List.nil_append, List.dropWhile_eq_nil_iff.mpr hafter]
      rfl
    | cons c rest =>
      rw [ht] at hend
      rw [List.cons_append, List.dropWhile_cons_of_neg (by simp [h.first c rest ht])]
      exact hend
  rw [trim, hchars, String.ofList_toList]

/-! ### Parts and words -/

theorem splitWhere_ne_nil {p : Char → Bool} : ∀ cs : List Char, splitWhere p cs ≠ []
  | [] => List.cons_ne_nil _ _
  | c :: cs => by
    rw [splitWhere]
    split
    · exact List.cons_ne_nil _ _
    · split <;> exact List.cons_ne_nil _ _

/-- With a character that does not part the text, the first part grows. -/
theorem splitWhere_cons_of_not {p : Char → Bool} {c : Char} {cs : List Char} (hc : p c = false) :
    ∃ part parts, splitWhere p cs = part :: parts ∧ splitWhere p (c :: cs) = (c :: part) :: parts := by
  cases hs : splitWhere p cs with
  | nil => exact absurd hs (splitWhere_ne_nil cs)
  | cons part parts =>
    refine ⟨part, parts, rfl, ?_⟩
    rw [splitWhere, hs]
    simp [hc]

theorem splitWhere_cons_of {p : Char → Bool} {c : Char} {cs : List Char} (hc : p c = true) :
    splitWhere p (c :: cs) = [] :: splitWhere p cs := by
  rw [splitWhere, if_pos hc]

theorem mem_of_mem_splitWhere {p : Char → Bool} : ∀ {cs part : List Char}, part ∈ splitWhere p cs →
    ∀ d ∈ part, d ∈ cs ∧ p d = false
  | [], part, h, d, hd => by
    obtain rfl := List.mem_singleton.mp h
    cases hd
  | c :: cs, part, h, d, hd => by
    cases hc : p c with
    | true =>
      rw [splitWhere_cons_of hc] at h
      rcases List.mem_cons.mp h with rfl | h
      · cases hd
      · obtain ⟨hm, hp⟩ := mem_of_mem_splitWhere h d hd
        exact ⟨List.mem_cons_of_mem c hm, hp⟩
    | false =>
      obtain ⟨first, parts, hs, hcons⟩ := @splitWhere_cons_of_not _ c cs hc
      have inTail : ∀ q ∈ splitWhere p cs, d ∈ q → d ∈ c :: cs ∧ p d = false := fun q hq hd => by
        obtain ⟨hm, hp⟩ := mem_of_mem_splitWhere hq d hd
        exact ⟨List.mem_cons_of_mem c hm, hp⟩
      rw [hcons] at h
      rw [hs] at inTail
      rcases List.mem_cons.mp h with rfl | h
      · rcases List.mem_cons.mp hd with rfl | hd
        · exact ⟨List.mem_cons_self, hc⟩
        · exact inTail first List.mem_cons_self hd
      · exact inTail part (List.mem_cons_of_mem first h) hd

theorem mem_splitWhere_of_mem {p : Char → Bool} {c : Char} (hc : p c = false) : ∀ {cs : List Char}, c ∈ cs →
    ∃ part ∈ splitWhere p cs, c ∈ part
  | [], h => by cases h
  | d :: cs, h => by
    cases hd : p d with
    | true =>
      have hcs : c ∈ cs := (List.mem_cons.mp h).resolve_left fun heq => by simp [heq, hd] at hc
      obtain ⟨part, hpart, hmem⟩ := mem_splitWhere_of_mem hc hcs
      rw [splitWhere_cons_of hd]
      exact ⟨part, List.mem_cons_of_mem _ hpart, hmem⟩
    | false =>
      obtain ⟨first, parts, hsplit, hcons⟩ := @splitWhere_cons_of_not _ d cs hd
      rw [hcons]
      rcases List.mem_cons.mp h with rfl | h
      · exact ⟨_, List.mem_cons_self, List.mem_cons_self⟩
      · obtain ⟨part, hpart, hmem⟩ := mem_splitWhere_of_mem hc h
        rw [hsplit] at hpart
        rcases List.mem_cons.mp hpart with rfl | hpart
        · exact ⟨_, List.mem_cons_self, List.mem_cons_of_mem _ hmem⟩
        · exact ⟨part, List.mem_cons_of_mem _ hpart, hmem⟩

variable {p : Char → Bool} {c : Char} {part : List Char}

theorem splitWhere_of_not (h : ∀ d ∈ part, p d = false) : splitWhere p part = [part] := by
  induction part with
  | nil => rfl
  | cons d rest ih =>
    rw [splitWhere, ih fun e he => h e (List.mem_cons_of_mem d he)]
    simp [h d List.mem_cons_self]

/-- What stands before the first character that parts a text is its first part. -/
theorem splitWhere_append_cons (h : ∀ d ∈ part, p d = false) (hc : p c = true) (cs : List Char) :
    splitWhere p (part ++ c :: cs) = part :: splitWhere p cs := by
  induction part with
  | nil => rw [List.nil_append, splitWhere_cons_of hc]
  | cons d rest ih =>
    rw [List.cons_append, splitWhere, ih fun e he => h e (List.mem_cons_of_mem d he)]
    simp [h d List.mem_cons_self]

/-- All parts of a text are blank if there is nothing in it but commas and blanks. -/
theorem forall_isBlankText_commaParts_iff {s : String} :
    (∀ part ∈ commaParts s, isBlankText part = true) ↔ ∀ c ∈ s.toList, c = ',' ∨ isBlank c = true := by
  simp only [commaParts, isBlankText, List.forall_mem_map, String.toList_ofList, List.all_eq_true]
  constructor
  · intro h c hc
    cases hcomma : c == ',' with
    | true => exact Or.inl (beq_iff_eq.mp hcomma)
    | false =>
      obtain ⟨part, hpart, hmem⟩ := @mem_splitWhere_of_mem (· == ',') c hcomma _ hc
      exact Or.inr (h part hpart c hmem)
  · intro h part hpart c hc
    obtain ⟨hmem, hcomma⟩ := mem_of_mem_splitWhere hpart c hc
    exact (h c hmem).resolve_left fun heq => by simp [heq] at hcomma

theorem wordsChars_eq_nil_iff {cs : List Char} : wordsChars cs = [] ↔ cs.all isBlank = true := by
  induction cs with
  | nil => simp [wordsChars, splitWhere]
  | cons c cs ih =>
    cases hc : isBlank c with
    | true =>
      have : wordsChars (c :: cs) = wordsChars cs := by simp [wordsChars, splitWhere_cons_of hc]
      rw [this, ih, List.all_cons, hc, Bool.true_and]
    | false =>
      obtain ⟨part, parts, -, hcons⟩ := @splitWhere_cons_of_not _ c cs hc
      simp [wordsChars, hcons, hc]

theorem mem_words {s word : String} : word ∈ words s ↔ word.toList ∈ wordsChars s.toList := by
  rw [words, List.mem_map]
  constructor
  · rintro ⟨cs, hcs, rfl⟩
    rwa [String.toList_ofList]
  · intro h
    exact ⟨word.toList, h, String.ofList_toList⟩

end CodeAtlas.Text
