import CodeAtlas.Proofs.Index.Keywords
import CodeAtlas.Proofs.Text.Lower

/-! Which tags a text gives. Of parts that are the same in lower case the first one is taken as it is spelled, and of all
    that would be taken the first ones, as many as there is room for. In the normal form they stand between commas with a
    space after each, and there they are found again. -/

namespace CodeAtlas.Index

open Text

/-! ### Parts between separators -/

/-- The stretches of a text between its separators, of which each is a comma with a space after it. -/
def separated : List Char → List (List Char)
  | [] => [[]]
  | ',' :: ' ' :: cs => [] :: separated cs
  | c :: cs => (separated cs).modifyHead (c :: ·)

def separatedParts (s : String) : List String := (separated s.toList).map String.ofList

variable {part : List Char} {tags : List String}

theorem separated_cons_of_ne {c : Char} (hc : (c == ',') = false) (cs : List Char) :
    separated (c :: cs) = (separated cs).modifyHead (c :: ·) := by
  rw [separated]
  rintro rest rfl
  cases hc

theorem separated_of_no_comma (h : ∀ c ∈ part, (c == ',') = false) : separated part = [part] := by
  induction part with
  | nil => rfl
  | cons c cs ih =>
    obtain ⟨hc, hcs⟩ := List.forall_mem_cons.mp h
    rw [separated_cons_of_ne hc, ih hcs]
    rfl

theorem separated_append (h : ∀ c ∈ part, (c == ',') = false) (cs : List Char) :
    separated (part ++ ',' :: ' ' :: cs) = part :: separated cs := by
  induction part with
  | nil => rfl
  | cons c rest ih =>
    obtain ⟨hc, hrest⟩ := List.forall_mem_cons.mp h
    rw [List.cons_append, separated_cons_of_ne hc, ih hrest]
    rfl

/-- Tags have no comma, so that between the separators of a normal form nothing stands but they. -/
theorem separatedParts_intercalate (hne : tags ≠ []) (h : ∀ tag ∈ tags, IsTag tag) :
    separatedParts (", ".intercalate tags) = tags := by
  rw [separatedParts]
  induction tags with
  | nil => exact absurd rfl hne
  | cons tag rest ih =>
    obtain ⟨htag, hrest⟩ := List.forall_mem_cons.mp h
    cases rest with
    | nil =>
      rw [String.intercalate_singleton, separated_of_no_comma htag.no_comma, List.map_singleton, String.ofList_toList]
    | cons next rest =>
      have hwhole : (", ".intercalate (tag :: next :: rest)).toList =
          tag.toList ++ ',' :: ' ' :: (", ".intercalate (next :: rest)).toList := by
        simp [String.intercalate_cons_cons]
      rw [hwhole, separated_append htag.no_comma, List.map_cons, String.ofList_toList, ih (List.cons_ne_nil _ _) hrest]

/-! ### First occurrences -/

variable {raw tag part : String} {seen parts : List String} {limit : Nat}

/-- In lower case the tags are the parts that they are chosen from, but for those seen before. -/
theorem mem_map_distinctTags_iff {key : String} : ∀ {seen parts : List String},
    key ∈ (distinctTags seen parts).map lower ↔ key ∈ parts.map lower ∧ key ∉ seen
  | seen, [] => by simp [distinctTags]
  | seen, part :: rest => by
    rw [distinctTags]
    split
    · rename_i hpart
      rw [mem_map_distinctTags_iff, List.map_cons, List.mem_cons]
      refine and_congr_left fun hkey => (or_iff_right ?_).symm
      rintro rfl
      exact hkey (List.contains_iff_mem.mp hpart)
    · rename_i hpart
      rw [List.contains_iff_mem] at hpart
      rw [List.map_cons, List.mem_cons, mem_map_distinctTags_iff, List.map_cons, List.mem_cons, List.mem_cons]
      constructor
      · rintro (rfl | ⟨hkey, hnew⟩)
        · exact ⟨Or.inl rfl, hpart⟩
        · exact ⟨Or.inr hkey, fun hseen => hnew (Or.inr hseen)⟩
      · rintro ⟨rfl | hkey, hnew⟩
        · exact Or.inl rfl
        · by_cases heq : key = lower part
          · exact Or.inl heq
          · exact Or.inr ⟨hkey, not_or.mpr ⟨heq, hnew⟩⟩

/-- A tag is spelled as the first of the parts that are the same in lower case. -/
theorem find?_of_mem_distinctTags : ∀ {seen parts : List String}, ∀ tag ∈ distinctTags seen parts,
    parts.find? (fun part => lower part == lower tag) = some tag
  | _, [], _, h => by cases h
  | seen, part :: rest, tag, h => by
    have hnew := not_mem_seen_of_mem_distinctTags tag h
    rw [distinctTags] at h
    split at h
    · rename_i hpart
      have hne : (lower part == lower tag) = false := by
        rw [beq_eq_false_iff_ne]
        intro heq
        exact hnew (heq ▸ List.contains_iff_mem.mp hpart)
      rw [List.find?_cons, hne]
      exact find?_of_mem_distinctTags tag h
    · rcases List.mem_cons.mp h with rfl | h
      · rw [List.find?_cons, beq_self_eq_true]
      · have hne : (lower part == lower tag) = false := by
          rw [beq_eq_false_iff_ne]
          intro heq
          exact not_mem_seen_of_mem_distinctTags tag h (heq ▸ List.mem_cons_self)
        rw [List.find?_cons, hne]
        exact find?_of_mem_distinctTags tag h

theorem idxOf_lt_cons_of_ne {x y z : String} {l : List String} (hx : x ≠ z) (hy : y ≠ z) (h : l.idxOf x < l.idxOf y) :
    (z :: l).idxOf x < (z :: l).idxOf y := by
  rw [List.idxOf_cons_ne l hx.symm, List.idxOf_cons_ne l hy.symm]
  exact Nat.succ_lt_succ h

/-- Tags stand in the order in which they come first. -/
theorem pairwise_distinctTags : ∀ seen parts : List String,
    (distinctTags seen parts).Pairwise fun s t => parts.idxOf s < parts.idxOf t
  | _, [] => List.Pairwise.nil
  | seen, part :: rest => by
    rw [distinctTags]
    split
    · rename_i hpart
      have hne : ∀ tag ∈ distinctTags seen rest, tag ≠ part := by
        rintro tag htag rfl
        exact not_mem_seen_of_mem_distinctTags tag htag (List.contains_iff_mem.mp hpart)
      exact (pairwise_distinctTags seen rest).imp_of_mem fun hs ht => idxOf_lt_cons_of_ne (hne _ hs) (hne _ ht)
    · have hne : ∀ tag ∈ distinctTags (lower part :: seen) rest, tag ≠ part := by
        rintro tag htag rfl
        exact not_mem_seen_of_mem_distinctTags tag htag List.mem_cons_self
      refine List.pairwise_cons.mpr ⟨fun tag htag => ?_, ?_⟩
      · rw [List.idxOf_cons_self, List.idxOf_cons_ne rest (hne tag htag).symm]
        exact Nat.succ_pos _
      · exact (pairwise_distinctTags _ rest).imp_of_mem fun hs ht => idxOf_lt_cons_of_ne (hne _ hs) (hne _ ht)

theorem idxOf_le_of_find? {p : String → Bool} {s : String} (h : parts.find? p = some tag) (hs : p s = true) :
    parts.idxOf tag ≤ parts.idxOf s := by
  obtain ⟨htag, before, after, rfl, hbefore⟩ := List.find?_eq_some_iff_append.mp h
  have hnot : ∀ x, p x = true → x ∉ before := fun x hx hmem => by
    simpa [hx] using hbefore x hmem
  rw [List.idxOf_append_of_notMem (hnot tag htag), List.idxOf_append_of_notMem (hnot s hs), List.idxOf_cons_self]
  exact Nat.add_le_add_left (Nat.zero_le _) _

/-! ### Choosing tags -/

/-- The parts of a text between its commas, without the blanks around them. -/
def trimmedParts (raw : String) : List String := (commaParts raw).map trim

/-- The tags are chosen from a text: the first parts that are not blank and unlike, in lower case, all parts before them,
    up to a limit. -/
structure AreFirstTags (raw : String) (limit : Nat) (tags : List String) : Prop where
  length_le : tags.length ≤ limit
  areTags : ∀ tag ∈ tags, IsTag tag
  distinct : (tags.map lower).Nodup
  inOrder : tags.Pairwise fun s t => (trimmedParts raw).idxOf s < (trimmedParts raw).idxOf t
  asFirst : ∀ tag ∈ tags, (trimmedParts raw).find? (fun part => lower part == lower tag) = some tag
  complete : tags.length < limit → ∀ part ∈ commaParts raw, isBlankText part = false →
    ∃ tag ∈ tags, lower tag = lower (trim part)
  /-- What is left out comes behind all tags. -/
  leading : ∀ part ∈ commaParts raw, isBlankText part = false → (∀ tag ∈ tags, lower tag ≠ lower (trim part)) →
    ∀ tag ∈ tags, (trimmedParts raw).idxOf tag < (trimmedParts raw).idxOf (trim part)

/-- To leave blank parts out is the same as to have seen the empty tag before. -/
theorem distinctTags_filter : ∀ {seen seen' parts : List String}, (∀ key, key ∈ seen' ↔ key = "" ∨ key ∈ seen) →
    distinctTags seen (parts.filter fun tag => !tag.isEmpty) = distinctTags seen' parts
  | _, _, [], _ => rfl
  | seen, seen', part :: rest, h => by
    by_cases hpart : part = ""
    · have hseen : seen'.contains (lower part) = true :=
        List.contains_iff_mem.mpr ((h _).mpr (Or.inl (lower_eq_empty_iff.mpr hpart)))
      rw [List.filter_cons_of_neg (by simp [hpart]), distinctTags_filter h, distinctTags, if_pos hseen]
    · have hsame : seen'.contains (lower part) = seen.contains (lower part) := by
        rw [Bool.eq_iff_iff, List.contains_iff_mem, List.contains_iff_mem, h,
          or_iff_right fun heq => hpart (lower_eq_empty_iff.mp heq)]
      rw [List.filter_cons_of_pos (by simpa using hpart), distinctTags, distinctTags, hsame, distinctTags_filter h]
      congr 2
      refine distinctTags_filter fun key => ?_
      rw [List.mem_cons, List.mem_cons, h, or_left_comm]

theorem tags_eq (raw : String) (limit : Nat) : Index.tags raw limit = (distinctTags [""] (trimmedParts raw)).take limit := by
  have hfilter : distinctTags [] (tagParts raw) = distinctTags [""] (trimmedParts raw) :=
    distinctTags_filter fun key => by simp
  rw [Index.tags, hfilter, takeUpTo_natCast]

/-- A part that is not blank has its like among the tags, if there is room for all of them. -/
theorem exists_like_of_part (hpart : part ∈ commaParts raw) (hblank : isBlankText part = false) :
    ∃ tag ∈ distinctTags [""] (trimmedParts raw), lower tag = lower (trim part) := by
  refine List.mem_map.mp (mem_map_distinctTags_iff.mpr ⟨List.mem_map_of_mem (List.mem_map_of_mem hpart), ?_⟩)
  rw [List.mem_singleton, lower_eq_empty_iff, trim_eq_empty_iff, hblank]
  exact Bool.false_ne_true

theorem areFirstTags_tags (raw : String) (limit : Nat) : AreFirstTags raw limit (Index.tags raw limit) where
  length_le := length_tags_le raw limit
  areTags _ htag := isTag_of_mem_tags htag
  distinct := nodup_tags raw limit
  inOrder := by
    rw [tags_eq]
    exact (pairwise_distinctTags _ _).sublist (List.take_sublist _ _)
  asFirst tag htag := by
    rw [tags_eq] at htag
    exact find?_of_mem_distinctTags tag (List.mem_of_mem_take htag)
  complete hroom part hpart hblank := by
    rw [tags_eq] at hroom ⊢
    rw [List.length_take] at hroom
    rw [List.take_of_length_le (by omega)]
    exact exists_like_of_part hpart hblank
  leading part hpart hblank hout tag htag := by
    obtain ⟨like, hlike, heq⟩ := exists_like_of_part hpart hblank
    rw [tags_eq] at hout htag
    -- What is like the part has been cut off, so that it stands behind the tags, and the part is not before it.
    have hcut : like ∈ (distinctTags [""] (trimmedParts raw)).drop limit := by
      rw [← List.take_append_drop limit (distinctTags [""] (trimmedParts raw))] at hlike
      exact (List.mem_append.mp hlike).resolve_left fun hkept => hout like hkept heq
    have hordered := pairwise_distinctTags [""] (trimmedParts raw)
    rw [← List.take_append_drop limit (distinctTags [""] (trimmedParts raw)), List.pairwise_append] at hordered
    refine (hordered.2.2 tag htag like hcut).trans_le (idxOf_le_of_find? (find?_of_mem_distinctTags like hlike) ?_)
    rw [heq, beq_self_eq_true]

/-! ### Normal forms -/

theorem intercalate_ne_empty (hne : tags ≠ []) (h : ∀ tag ∈ tags, IsTag tag) : ", ".intercalate tags ≠ "" := by
  intro hempty
  have hparts := separatedParts_intercalate hne h
  rw [hempty] at hparts
  exact (h "" (hparts ▸ List.mem_singleton_self _)).ne_empty rfl

theorem normalizeKeywords_eq_empty_iff : normalizeKeywords raw limit = "" ↔ Index.tags raw limit = [] := by
  refine ⟨fun h => ?_, fun h => by rw [normalizeKeywords, h, String.intercalate_nil]⟩
  by_contra hne
  exact intercalate_ne_empty hne (fun tag htag => isTag_of_mem_tags htag) h

theorem tags_eq_nil_iff (hlimit : 1 ≤ limit) :
    Index.tags raw limit = [] ↔ ∀ c ∈ raw.toList, c = ',' ∨ isBlank c = true := by
  rw [← forall_isBlankText_commaParts_iff]
  constructor
  · intro h part hpart
    cases hblank : isBlankText part with
    | true => rfl
    | false =>
      obtain ⟨tag, htag, -⟩ := (areFirstTags_tags raw limit).complete (by rw [h]; exact hlimit) part hpart hblank
      rw [h] at htag
      cases htag
  · intro h
    refine List.eq_nil_iff_forall_not_mem.mpr fun tag htag => ?_
    have hfound := List.mem_of_find?_eq_some ((areFirstTags_tags raw limit).asFirst tag htag)
    obtain ⟨part, hpart, rfl⟩ := List.mem_map.mp hfound
    exact (isTag_of_mem_tags htag).ne_empty (trim_eq_empty_iff.mpr (h part hpart))

/-- To normalize a normal form is to choose fewer tags or the same. Between its separators a normal form has the first
    tags of the text that it was made of; and it is empty, if there is room for a tag at all, only where the text has
    nothing but commas and blanks. -/
theorem normal_form_has_first_tags (raw : String) (limit limit' : Nat) :
    normalizeKeywords (normalizeKeywords raw limit) limit' = normalizeKeywords raw (min limit' limit : Nat) ∧
    normalizeKeywords (normalizeKeywords raw limit) limit = normalizeKeywords raw limit ∧
    (normalizeKeywords raw limit ≠ "" → AreFirstTags raw limit (separatedParts (normalizeKeywords raw limit))) ∧
    (1 ≤ limit → (normalizeKeywords raw limit = "" ↔ ∀ c ∈ raw.toList, c = ',' ∨ isBlank c = true)) := by
  refine ⟨normalizeKeywords_twice raw limit limit', normalizeKeywords_normalizeKeywords raw limit, fun hne => ?_,
    fun hlimit => normalizeKeywords_eq_empty_iff.trans (tags_eq_nil_iff hlimit)⟩
  have hparts : separatedParts (normalizeKeywords raw limit) = Index.tags raw limit :=
    separatedParts_intercalate (tags_ne_nil hne) fun tag htag => isTag_of_mem_tags htag
  rw [hparts]
  exact areFirstTags_tags raw limit

/-- The second tag is spelled in two ways, there is no room for the third one, and one part is blank. -/
theorem normal_form_of_four_parts :
    let raw := "b , ΑΣ,\t,ας,c"
    normalizeKeywords raw 2 = "b, ΑΣ" ∧ normalizeKeywords (normalizeKeywords raw 2) 1 = normalizeKeywords raw 1 ∧
      normalizeKeywords raw 2 ≠ "" ∧ AreFirstTags raw 2 ["b", "ΑΣ"] ∧ 1 ≤ 2 ∧
      ¬∀ c ∈ raw.toList, c = ',' ∨ isBlank c = true := by
  intro raw
  have hform : normalizeKeywords raw 2 = "b, ΑΣ" := by decide +kernel
  have hne : normalizeKeywords raw 2 ≠ "" := by
    rw [hform]
    decide
  obtain ⟨htwice, -, htags, hempty⟩ := normal_form_has_first_tags raw 2 1
  have hchosen := htags hne
  rw [show normalizeKeywords raw (2 : Nat) = "b, ΑΣ" from hform] at hchosen
  exact ⟨hform, htwice, hne, hchosen, by decide, fun hblank => hne ((hempty (by decide)).mpr hblank)⟩

end CodeAtlas.Index
