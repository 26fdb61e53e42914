import CodeAtlas.Index.Keywords
import CodeAtlas.Proofs.Text.Blank
import Mathlib.Data.List.Nodup

/-! Keywords in their normal form. They are put together from tags that are trimmed, not empty, free of commas and
    distinct in whatever letter case, and from the keywords the same tags are read again. -/

namespace CodeAtlas.Index

open Text

/-- A tag as it stands by itself. -/
structure IsTag (tag : String) : Prop where
  trimmed : trim tag = tag
  ne_empty : tag ≠ ""
  no_comma : ∀ c ∈ tag.toList, (c == ',') = false

variable {raw tag : String} {tags : List String}

/-! ### Reading tags -/

theorem map_trim_commaParts (s : String) : (commaParts s).map trim =
    (splitWhere (· == ',') s.toList).map fun part => String.ofList (trimChars part) := by
  rw [commaParts, List.map_map]
  refine List.map_congr_left fun part _ => ?_
  rw [Function.comp_apply, trim, String.toList_ofList]

theorem isTag_of_mem_tagParts (h : tag ∈ tagParts raw) : IsTag tag := by
  rw [tagParts, map_trim_commaParts, List.mem_filter, List.mem_map] at h
  obtain ⟨⟨part, hpart, rfl⟩, hne⟩ := h
  refine ⟨?_, ?_, fun c hc => ?_⟩
  · rw [trim, String.toList_ofList, trimChars_trimChars]
  · simpa using hne
  · rw [String.toList_ofList] at hc
    exact (mem_of_mem_splitWhere hpart c (mem_of_mem_trimChars hc)).2

/-- The parts of tags with commas between them are the tags, but for the blanks after the commas. -/
theorem map_trim_commaParts_intercalate (hne : tags ≠ []) (h : ∀ tag ∈ tags, IsTag tag) :
    (commaParts (", ".intercalate tags)).map trim = tags := by
  rw [map_trim_commaParts]
  induction tags with
  | nil => exact absurd rfl hne
  | cons tag rest ih =>
    obtain ⟨htag, hrest⟩ := List.forall_mem_cons.mp h
    have hself : String.ofList (trimChars tag.toList) = tag := htag.trimmed
    cases rest with
    | nil =>
      rw [String.intercalate_singleton, splitWhere_of_not htag.no_comma, List.map_singleton, hself]
    | cons next rest =>
      have hwhole : (", ".intercalate (tag :: next :: rest)).toList =
          tag.toList ++ ',' :: ' ' :: (", ".intercalate (next :: rest)).toList := by
        simp [String.intercalate_cons_cons]
      -- The blank after the comma goes into the first part of what follows, where it is trimmed away.
      obtain ⟨part, parts, hparts, hspace⟩ :=
        @splitWhere_cons_of_not (· == ',') ' ' (", ".intercalate (next :: rest)).toList rfl
      have hih := ih (List.cons_ne_nil _ _) hrest
      rw [hparts, List.map_cons] at hih
      rw [hwhole, splitWhere_append_cons htag.no_comma rfl, hspace, List.map_cons, List.map_cons, hself,
        trimChars_cons_of_isBlank rfl, hih]

theorem tagParts_intercalate (h : ∀ tag ∈ tags, IsTag tag) : tagParts (", ".intercalate tags) = tags := by
  cases tags with
  | nil => rfl
  | cons tag rest =>
    rw [tagParts, map_trim_commaParts_intercalate (List.cons_ne_nil _ _) h, List.filter_eq_self]
    exact fun t ht => by simpa using (h t ht).ne_empty

/-! ### Distinct tags -/

theorem distinctTags_sublist : ∀ (seen tags : List String), (distinctTags seen tags).Sublist tags
  | _, [] => List.Sublist.refl _
  | seen, tag :: rest => by
    rw [distinctTags]
    split
    · exact (distinctTags_sublist seen rest).cons tag
    · exact (distinctTags_sublist _ rest).cons_cons tag

theorem not_mem_seen_of_mem_distinctTags : ∀ {seen tags : List String}, ∀ tag ∈ distinctTags seen tags,
    lower tag ∉ seen
  | _, [], _, h => by cases h
  | seen, first :: rest, tag, h => by
    rw [distinctTags] at h
    split at h
    · exact not_mem_seen_of_mem_distinctTags tag h
    · rename_i hfirst
      rcases List.mem_cons.mp h with rfl | h
      · exact fun hseen => hfirst (List.contains_iff_mem.mpr hseen)
      · exact fun hseen => not_mem_seen_of_mem_distinctTags tag h (List.mem_cons_of_mem _ hseen)

theorem nodup_distinctTags : ∀ (seen tags : List String), ((distinctTags seen tags).map lower).Nodup
  | _, [] => List.nodup_nil
  | seen, tag :: rest => by
    rw [distinctTags]
    split
    · exact nodup_distinctTags seen rest
    · rw [List.map_cons, List.nodup_cons]
      refine ⟨fun h => ?_, nodup_distinctTags _ rest⟩
      obtain ⟨other, hother, heq⟩ := List.mem_map.mp h
      exact not_mem_seen_of_mem_distinctTags other hother (heq ▸ List.mem_cons_self)

/-- Tags that are distinct already stay as they are. -/
theorem distinctTags_eq_self : ∀ {seen tags : List String}, (tags.map lower).Nodup →
    (∀ tag ∈ tags, lower tag ∉ seen) → distinctTags seen tags = tags
  | _, [], _, _ => rfl
  | seen, tag :: rest, hnodup, hseen => by
    obtain ⟨hfirst, hrest⟩ := List.nodup_cons.mp hnodup
    obtain ⟨hnew, hothers⟩ := List.forall_mem_cons.mp hseen
    rw [distinctTags, if_neg fun h => hnew (List.contains_iff_mem.mp h), distinctTags_eq_self hrest fun other hother => ?_]
    intro hmem
    rcases List.mem_cons.mp hmem with heq | hmem
    · exact hfirst (heq ▸ List.mem_map_of_mem hother)
    · exact hothers other hother hmem

/-! ### Normal forms -/

theorem takeUpTo_sublist {α : Type} (n : Int) (l : List α) : (takeUpTo n l).Sublist l := by
  unfold takeUpTo
  split <;> exact List.take_sublist _ _

theorem takeUpTo_natCast {α : Type} (n : Nat) (l : List α) : takeUpTo (n : Int) l = l.take n := by
  rw [takeUpTo, if_neg (Int.not_lt.mpr (Int.natCast_nonneg n)), Int.toNat_natCast]

theorem isTag_of_mem_tags {limit : Int} (h : tag ∈ Index.tags raw limit) : IsTag tag :=
  isTag_of_mem_tagParts ((distinctTags_sublist [] _).subset ((takeUpTo_sublist limit _).subset h))

theorem nodup_tags (raw : String) (limit : Int) : ((Index.tags raw limit).map lower).Nodup :=
  (nodup_distinctTags [] (tagParts raw)).sublist ((takeUpTo_sublist limit _).map lower)

/-- From a normal form its own tags are read. -/
theorem tags_normalizeKeywords (raw : String) (limit limit' : Int) :
    Index.tags (normalizeKeywords raw limit) limit' = takeUpTo limit' (Index.tags raw limit) := by
  rw [Index.tags, normalizeKeywords, tagParts_intercalate fun tag htag => isTag_of_mem_tags htag,
    distinctTags_eq_self (nodup_tags raw limit) fun tag _ => List.not_mem_nil]

/-- Of two limits, one after the other, the lower one counts. -/
theorem normalizeKeywords_twice (raw : String) (limit limit' : Nat) :
    normalizeKeywords (normalizeKeywords raw limit) limit' = normalizeKeywords raw (min limit' limit : Nat) := by
  rw [normalizeKeywords, tags_normalizeKeywords, normalizeKeywords, Index.tags, takeUpTo_natCast, Index.tags,
    takeUpTo_natCast, takeUpTo_natCast, List.take_take]

theorem normalizeKeywords_normalizeKeywords (raw : String) (limit : Nat) :
    normalizeKeywords (normalizeKeywords raw limit) limit = normalizeKeywords raw limit := by
  rw [normalizeKeywords_twice, Nat.min_self]

example : normalizeKeywords (normalizeKeywords " b,A ,a,, c" 2) 2 = "b, A" := by decide

theorem tags_ne_nil {limit : Int} (h : normalizeKeywords raw limit ≠ "") : Index.tags raw limit ≠ [] := fun hnil => by
  rw [normalizeKeywords, hnil] at h
  exact h String.intercalate_nil

/-- The parts of a normal form are its tags, but for the blanks around them. -/
theorem map_trim_commaParts_normalizeKeywords {limit : Int} (h : normalizeKeywords raw limit ≠ "") :
    (commaParts (normalizeKeywords raw limit)).map trim = Index.tags raw limit :=
  map_trim_commaParts_intercalate (tags_ne_nil h) fun _ htag => isTag_of_mem_tags htag

theorem length_tags_le (raw : String) (limit : Nat) : (Index.tags raw limit).length ≤ limit := by
  rw [Index.tags, takeUpTo_natCast]
  exact List.length_take_le _ _

end CodeAtlas.Index
