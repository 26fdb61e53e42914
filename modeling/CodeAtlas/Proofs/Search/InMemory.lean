import CodeAtlas.Proofs.Search.Ranking
import CodeAtlas.Proofs.Store.Memory
import Mathlib

/-! Searching the store in memory. A term contributes the first few records that match it, where the search and
    the store agree on what a match is since a term is in lower case already. A hit is scored by all of the terms,
    and hits of equal score stand in the order in which the terms contributed them. -/

namespace CodeAtlas.Search
open Store

/-! ### Matches -/

def InKeywords (t : String) (r : Record) : Prop := t.toList <:+: folded r.keywords

def InDescription (t : String) (r : Record) : Prop := t.toList <:+: folded r.description

/-- The term occurs in a text of the record, which is in lower case for this. -/
def Matches (t : String) (r : Record) : Prop := InKeywords t r ∨ InDescription t r

instance (t : String) (r : Record) : Decidable (InKeywords t r) := inferInstanceAs (Decidable (_ <:+: _))

instance (t : String) (r : Record) : Decidable (InDescription t r) := inferInstanceAs (Decidable (_ <:+: _))

instance (t : String) (r : Record) : Decidable (Matches t r) := inferInstanceAs (Decidable (_ ∨ _))

/-- The points of a record for one term, by the usual weights. -/
def termScore (r : Record) (t : String) : Int :=
  (if InKeywords t r then 4 else 0) + (if InDescription t r then 2 else 0) +
    (if InKeywords t r ∧ InDescription t r then 2 else 0)

/-- The records that a term contributes. -/
def batchOf (stored : List Record) (limit : Nat) (t : String) : List Record :=
  (stored.filter fun r => Matches t r).take limit

/-- What a search of stored records gives, when a term contributes at most `limit` of them. -/
structure Answers (stored : List Record) (limit : Nat) (terms : List String) (hits : List Scored) : Prop where
  known : ∀ h ∈ hits, h.record ∈ stored
  found : ∀ i r, stored[i]? = some r → (r ∈ hits.map Scored.record ↔
    ∃ t ∈ terms, Matches t r ∧ ((stored.take i).countP fun r => Matches t r) < limit)
  once : (hits.map Scored.id).Nodup
  scores : ∀ h ∈ hits, h.score = (terms.map (termScore h.record)).sum ∧ 2 ≤ h.score
  ordered : hits.Pairwise fun a b => b.score < a.score ∨ a.score = b.score ∧
    (terms.flatMap (batchOf stored limit)).idxOf a.record < (terms.flatMap (batchOf stored limit)).idxOf b.record
  complete : (∀ t ∈ terms, (stored.countP fun r => Matches t r) ≤ limit) → ∀ r, (r ∈ hits.map Scored.record ↔
    r ∈ stored ∧ 0 < (terms.map (termScore r)).sum)

variable {r : Record} {t : String} {terms : List String} {stored : List Record} {limit : Nat}

/-- The store looks for a term as the score does. -/
theorem holds_eq (h : Text.lowerChars t.toList = t.toList) : r.texts.holds t = decide (Matches t r) := by
  rw [Texts.holds, containsTerm, containsTerm, h, Bool.eq_iff_iff, Bool.or_eq_true, Text.occursIn_iff,
    Text.occursIn_iff, decide_eq_true_eq]
  rfl

/-! ### Scores -/

theorem sum_termAwards (k d : Bool) : ((termAwards k d).map ({} : Weights).of).sum =
    (if k = true then 4 else 0) + (if d = true then 2 else 0) + (if k = true ∧ d = true then 2 else 0) := by
  cases k <;> cases d <;> rfl

theorem score_eq_sum (r : Record) : ∀ terms : List String, score {} r terms = (terms.map (termScore r)).sum
  | [] => rfl
  | t :: terms => by
    have hterm : ((termAwards (Text.occursIn t.toList (folded r.keywords))
        (Text.occursIn t.toList (folded r.description))).map ({} : Weights).of).sum = termScore r t := by
      simp only [sum_termAwards, Text.occursIn_iff]
      rfl
    rw [List.map_cons, List.sum_cons, ← score_eq_sum r terms, ← hterm, score, score, ← List.sum_append,
      ← List.map_append]
    rfl

theorem termScore_nonneg : 0 ≤ termScore r t := by
  unfold termScore
  split <;> split <;> split <;> decide

theorem two_le_termScore (h : Matches t r) : 2 ≤ termScore r t := by
  unfold termScore
  rcases h with h | h
  · rw [if_pos h]
    split <;> split <;> decide
  · rw [if_pos h]
    split <;> split <;> decide

theorem termScore_eq_zero (h : ¬Matches t r) : termScore r t = 0 := by
  unfold termScore
  rw [if_neg fun hk => h (Or.inl hk), if_neg fun hd => h (Or.inr hd), if_neg fun hb => h (Or.inl hb.1)]
  rfl

theorem sum_termScore_nonneg : ∀ terms : List String, 0 ≤ (terms.map (termScore r)).sum
  | [] => Int.le_refl 0
  | t :: terms => by
    have ht : 0 ≤ termScore r t := termScore_nonneg
    rw [List.map_cons, List.sum_cons]
    exact Int.add_nonneg ht (sum_termScore_nonneg terms)

/-- One term that matches is worth two points. -/
theorem two_le_sum (ht : t ∈ terms) (h : Matches t r) : 2 ≤ (terms.map (termScore r)).sum := by
  obtain ⟨before, after, rfl⟩ := List.append_of_mem ht
  rw [List.map_append, List.map_cons, List.sum_append, List.sum_cons]
  have hbefore : 0 ≤ (before.map (termScore r)).sum := sum_termScore_nonneg before
  have hafter : 0 ≤ (after.map (termScore r)).sum := sum_termScore_nonneg after
  have := two_le_termScore h
  omega

theorem sum_eq_zero : ∀ {terms : List String}, (∀ t ∈ terms, ¬Matches t r) → (terms.map (termScore r)).sum = 0
  | [], _ => rfl
  | t :: terms, h => by
    rw [List.map_cons, List.sum_cons, termScore_eq_zero (h t List.mem_cons_self),
      sum_eq_zero fun t ht => h t (List.mem_cons_of_mem _ ht)]
    rfl

theorem sum_pos_iff : 0 < (terms.map (termScore r)).sum ↔ ∃ t ∈ terms, Matches t r := by
  constructor
  · intro hpos
    by_contra hnone
    have hzero : (terms.map (termScore r)).sum = 0 := sum_eq_zero fun t ht hm => hnone ⟨t, ht, hm⟩
    omega
  · rintro ⟨t, ht, h⟩
    have := two_le_sum ht h
    omega

/-! ### Contributions -/

/-- An element is among the first `n` that pass if it passes and fewer than `n` before it do. -/
theorem mem_take_filter_iff {α : Type} {p : α → Bool} {x : α} : ∀ {l : List α} {i n : Nat}, l.Nodup →
    l[i]? = some x → (x ∈ (l.filter p).take n ↔ p x = true ∧ (l.take i).countP p < n)
  | [], i, n, _, hx => by cases hx
  | y :: l, 0, n, hl, hx => by
    obtain rfl : y = x := Option.some.inj hx
    have hy : y ∉ (l.filter p).take n := fun h =>
      (List.nodup_cons.mp hl).1 (List.mem_filter.mp (List.mem_of_mem_take h)).1
    cases hp : p y with
    | true => cases n <;> simp [hp]
    | false => simp [hp, hy]
  | y :: l, i + 1, n, hl, hx => by
    obtain ⟨hy, hl⟩ := List.nodup_cons.mp hl
    have hne : x ≠ y := fun h => hy (h ▸ List.mem_of_getElem? hx)
    cases hp : p y with
    | false =>
      rw [List.filter_cons_of_neg (by simp [hp]), List.take_succ_cons, List.countP_cons_of_neg (by simp [hp])]
      exact mem_take_filter_iff hl hx
    | true =>
      rw [List.filter_cons_of_pos hp, List.take_succ_cons, List.countP_cons_of_pos hp]
      cases n with
      | zero => simp
      | succ n =>
        -- The first element takes one of the places and counts as one that stands before.
        rw [List.take_succ_cons, List.mem_cons, or_iff_right hne, mem_take_filter_iff hl hx,
          Nat.add_lt_add_iff_right]

theorem mem_of_mem_batchOf (h : r ∈ batchOf stored limit t) : r ∈ stored ∧ Matches t r := by
  obtain ⟨hr, hm⟩ := List.mem_filter.mp (List.mem_of_mem_take h)
  exact ⟨hr, of_decide_eq_true hm⟩

theorem batchOf_eq_filter (h : (stored.countP fun r => Matches t r) ≤ limit) :
    batchOf stored limit t = stored.filter fun r => Matches t r := by
  rw [batchOf, List.take_of_length_le]
  rwa [← List.countP_eq_length_filter]

/-! ### Kept copies with their places -/

/-- Copies of a record that all have the same score are represented by the first one. -/
theorem Ranks.place_eq_idxOf {records : List Record} {points : Record → Int} {kept : List Placed}
    (h : Ranks (records.map fun r => ⟨r, points r⟩) kept) {c : Placed} (hc : c ∈ kept) :
    c.1.record ∈ records ∧ c.1.score = points c.1.record ∧ c.2 = records.idxOf c.1.record := by
  have hcopy := h.copies c hc
  rw [List.getElem?_map] at hcopy
  obtain ⟨r, hr, hrc⟩ := Option.map_eq_some_iff.mp hcopy
  have hrecord : c.1.record = r := congrArg Scored.record hrc.symm
  have hscore : c.1.score = points c.1.record := by rw [← hrc]
  rw [← hrecord] at hr
  have hmem : c.1.record ∈ records := List.mem_of_getElem? hr
  refine ⟨hmem, hscore, Nat.le_antisymm ?_ ?_⟩
  -- The first of the equal copies has the same score, so the kept one is not behind it.
  · have hfirst : records[records.idxOf c.1.record]? = some c.1.record :=
      List.getElem?_idxOf hmem
    obtain ⟨-, hle⟩ := h.best c hc (records.idxOf c.1.record) ⟨c.1.record, points c.1.record⟩
      (by rw [List.getElem?_map, hfirst]; rfl) rfl
    exact hle hscore.symm
  · obtain ⟨hlt, heq⟩ := List.getElem?_eq_some_iff.mp hr
    by_contra hgt
    have := List.not_of_lt_findIdx (Nat.not_le.mp hgt)
    simp [heq] at this

/-- With one id for each stored record the record itself is a hit if any term contributes it. -/
theorem Ranks.mem_records_iff {records : List Record} {points : Record → Int} {kept : List Placed}
    (h : Ranks (records.map fun r => ⟨r, points r⟩) kept) (hrecords : ∀ r ∈ records, r ∈ stored)
    (hids : (stored.map Record.id).Nodup) : r ∈ (kept.map (·.1)).map Scored.record ↔ r ∈ records := by
  rw [List.map_map]
  constructor
  · intro hr
    obtain ⟨c, hc, rfl⟩ := List.mem_map.mp hr
    exact (h.place_eq_idxOf hc).1
  · intro hr
    have hid : r.id ∈ kept.map (·.1.id) := by
      refine (h.ids _).mpr (List.mem_map.mpr ⟨⟨r, points r⟩, ?_, rfl⟩)
      exact List.mem_map.mpr ⟨r, hr, rfl⟩
    obtain ⟨c, hc, hcid⟩ := List.mem_map.mp hid
    have hrecord : c.1.record = r :=
      List.inj_on_of_nodup_map hids (hrecords _ (h.place_eq_idxOf hc).1) (hrecords r hr) hcid
    exact List.mem_map.mpr ⟨c, hc, hrecord⟩

/-- Ranking what the terms contribute answers the search. -/
theorem answers_rank (hids : (stored.map Record.id).Nodup) (limit : Nat) (terms : List String) :
    Answers stored limit terms
      (rank ((terms.flatMap (batchOf stored limit)).map fun r => ⟨r, score {} r terms⟩)) := by
  have hranks := @ranks_firstPlaced ((terms.flatMap (batchOf stored limit)).map fun r => ⟨r, score {} r terms⟩)
  rw [rank_eq]
  generalize firstPlaced [] _ = kept at hranks ⊢
  have hbatches : ∀ r ∈ terms.flatMap (batchOf stored limit), r ∈ stored ∧ ∃ t ∈ terms, Matches t r := fun r hr => by
    obtain ⟨t, ht, hr⟩ := List.mem_flatMap.mp hr
    exact ⟨(mem_of_mem_batchOf hr).1, t, ht, (mem_of_mem_batchOf hr).2⟩
  have hmem : ∀ r, r ∈ (kept.map (·.1)).map Scored.record ↔ r ∈ terms.flatMap (batchOf stored limit) := fun r =>
    hranks.mem_records_iff (fun r hr => (hbatches r hr).1) hids
  constructor
  case known =>
    intro h hh
    exact (hbatches _ ((hmem _).mp (List.mem_map.mpr ⟨h, hh, rfl⟩))).1
  case found =>
    intro i r hr
    rw [hmem, List.mem_flatMap]
    refine exists_congr fun t => and_congr_right fun _ => ?_
    rw [batchOf, mem_take_filter_iff (List.Nodup.of_map _ hids) hr, decide_eq_true_eq]
  case once =>
    rw [List.map_map]
    exact hranks.distinct
  case scores =>
    intro h hh
    obtain ⟨c, hc, rfl⟩ := List.mem_map.mp hh
    obtain ⟨hc, hscore, -⟩ := hranks.place_eq_idxOf hc
    obtain ⟨-, t, ht, hm⟩ := hbatches _ hc
    rw [hscore, score_eq_sum]
    exact ⟨rfl, two_le_sum ht hm⟩
  case ordered =>
    rw [List.pairwise_map]
    refine hranks.pairwise_ahead.imp_of_mem fun {a b} ha hb hab => ?_
    rw [← (hranks.place_eq_idxOf ha).2.2, ← (hranks.place_eq_idxOf hb).2.2]
    exact hab.imp_right fun h => ⟨h.1.symm, h.2⟩
  case complete =>
    intro hfew r
    rw [hmem, List.mem_flatMap, sum_pos_iff]
    constructor
    · rintro ⟨t, ht, hr⟩
      exact ⟨(mem_of_mem_batchOf hr).1, t, ht, (mem_of_mem_batchOf hr).2⟩
    · rintro ⟨hr, t, ht, hm⟩
      refine ⟨t, ht, ?_⟩
      rw [batchOf_eq_filter (hfew t ht)]
      exact List.mem_filter.mpr ⟨hr, decide_eq_true hm⟩

/-- Whatever was written to a store in memory, a search of it finds every record that one of the terms matches
    as one of the first of the store, scores it by all of the terms, and puts higher scores first. -/
theorem search_memory_answers (rs : List Record) (us : List (Timestamp × Record)) (hrs : ∀ r ∈ rs, r.Searchable)
    (hus : ∀ u ∈ us, u.2.Searchable) (config : Config) (notesScores : Bool) (query : String) (order : List Nat)
    (h : order.Perm (List.range (config.terms query).length)) :
    let store := (Memory.ofList rs).upserts us
    let report := ({ config, notesScores } : Engine).searchWith (fun _ l => store.find (some l.term) l.limit)
      order query
    store.ids = (rs.map Record.id ++ us.map fun u => u.2.id).eraseDups ∧
      ∃ hits, report.hits = .ok hits ∧ Answers store.records config.perTermLimit (config.terms query) hits := by
  intro store report
  have hbatch : ∀ i t, (config.terms query)[i]? = some t →
      store.find (some t) config.perTermLimit = .ok (batchOf store.records config.perTermLimit t) := fun i t ht => by
    have hlower := lowerChars_of_mem_terms (List.mem_of_getElem? ht)
    rw [Memory.find_eq (Memory.searchable_history hrs hus), batchOf,
      List.filter_congr fun r _ => holds_eq hlower]
  have hconcatenated : ((config.terms query).mapIdx fun _ t => batchOf store.records config.perTermLimit t).flatten =
      (config.terms query).flatMap (batchOf store.records config.perTermLimit) := by
    rw [List.flatMap_def]
    exact congrArg List.flatten (List.ext_getElem? fun i => by rw [List.getElem?_mapIdx, List.getElem?_map])
  have hhits : report.hits = .ok (rank (((config.terms query).flatMap
      (batchOf store.records config.perTermLimit)).map fun r => ⟨r, score {} r (config.terms query)⟩)) := by
    rw [← hconcatenated]
    exact Engine.searchWith_hits_of_batches (e := { config, notesScores }) h hbatch
  exact ⟨Memory.ids_history rs us, _, hhits, answers_rank (Memory.nodup_history rs us) _ _⟩

/-- The first record has been written anew and takes the one place that the second term has. -/
theorem search_rewritten_store :
    let rs := [sketch "x" "a" "", sketch "y" "b" "a"]
    let us := [((sketch "x" "" "").updated, sketch "x" "" "B")]
    let config : Config := { perTermLimit := 1, concurrent := true }
    let store := (Memory.ofList rs).upserts us
    let hits := [Scored.mk (sketch "y" "b" "a") 6, ⟨sketch "x" "" "B", 2⟩]
    (({ config } : Engine).searchWith (fun _ l => store.find (some l.term) l.limit) [1, 0] "a B").hits = .ok hits ∧
      store.ids = [some "x", some "y"] ∧
      Answers [sketch "x" "" "B", sketch "y" "b" "a"] 1 ["a", "b"] hits := by
  intro rs us config store hits
  have hterms : config.terms "a B" = ["a", "b"] := by decide +kernel
  have h : [1, 0].Perm (List.range (config.terms "a B").length) := by
    rw [hterms]
    decide
  have hrs : ∀ r ∈ rs, r.Searchable := by
    intro r hr
    rcases List.mem_pair.mp hr with rfl | rfl <;> exact ⟨rfl, rfl⟩
  have hus : ∀ u ∈ us, u.2.Searchable := by
    intro u hu
    obtain rfl := List.mem_singleton.mp hu
    exact ⟨rfl, rfl⟩
  obtain ⟨hids, found, hfound, hanswers⟩ := search_memory_answers rs us hrs hus config true "a B" [1, 0] h
  have hhits : (({ config } : Engine).searchWith (fun _ l => store.find (some l.term) l.limit) [1, 0] "a B").hits =
      .ok hits := by cbv
  obtain rfl : found = hits := Except.ok.inj (hfound.symm.trans hhits)
  rw [hterms] at hanswers
  exact ⟨hhits, hids, hanswers⟩

end CodeAtlas.Search
