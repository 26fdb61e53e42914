import CodeAtlas.Proofs.Search.Lookups
import Mathlib

/-! What a ranking is. Of each record the copy of greatest score is kept, and of several such copies the one
    retrieved first; the kept copies stand in the order of falling scores, those of equal score in the order of
    their retrieval. No two lists meet this, and the stable sort followed by the scan for first copies does. -/

namespace CodeAtlas.Search

/-- A copy and its place in the order of retrieval. -/
abbrev Placed := Scored × Nat

/-- `a` has the higher score, or the same score and the earlier place. -/
def Ahead (a b : Placed) : Prop := b.1.score < a.1.score ∨ b.1.score = a.1.score ∧ a.2 < b.2

namespace Ahead

theorem irrefl (a : Placed) : ¬Ahead a a := by
  rintro (h | ⟨-, h⟩)
  · exact Int.lt_irrefl _ h
  · exact Nat.lt_irrefl _ h

theorem asymm {a b : Placed} (h : Ahead a b) (h' : Ahead b a) : False := by
  rcases h with h | ⟨h, hp⟩ <;> rcases h' with h' | ⟨h', hp'⟩ <;> omega

end Ahead

/-- The copies that a ranking keeps of the retrieved ones. -/
structure Ranks (retrieved : List Scored) (kept : List Placed) : Prop where
  copies : ∀ c ∈ kept, retrieved[c.2]? = some c.1
  distinct : (kept.map (·.1.id)).Nodup
  ids : ∀ id, id ∈ kept.map (·.1.id) ↔ id ∈ retrieved.map Scored.id
  falling : kept.Pairwise fun a b => b.1.score ≤ a.1.score
  best : ∀ c ∈ kept, ∀ i s, retrieved[i]? = some s → s.id = c.1.id →
    s.score ≤ c.1.score ∧ (s.score = c.1.score → c.2 ≤ i)
  ties : kept.Pairwise fun a b => a.1.score = b.1.score → a.2 < b.2

/-- The hits are the kept copies of the retrieved ones. -/
def IsRanking (retrieved hits : List Scored) : Prop := ∃ kept, Ranks retrieved kept ∧ hits = kept.map (·.1)

namespace Ranks
variable {retrieved : List Scored} {kept other : List Placed}

theorem pairwise_ahead (h : Ranks retrieved kept) : kept.Pairwise Ahead := by
  refine (h.falling.and h.ties).imp fun {a b} hab => ?_
  obtain ⟨hle, htie⟩ := hab
  rcases Int.lt_or_eq_of_le hle with hlt | heq
  · exact Or.inl hlt
  · exact Or.inr ⟨heq, htie heq.symm⟩

theorem nodup (h : Ranks retrieved kept) : kept.Nodup := by
  refine h.pairwise_ahead.imp fun {a b} hab heq => ?_
  rw [heq] at hab
  exact Ahead.irrefl b hab

/-- The kept copy of a record is the only one that is best. -/
theorem mem_of_mem (h : Ranks retrieved kept) (h' : Ranks retrieved other) {c : Placed} (hc : c ∈ kept) :
    c ∈ other := by
  have hid : c.1.id ∈ other.map (·.1.id) :=
    (h'.ids _).mpr ((h.ids _).mp (List.mem_map.mpr ⟨c, hc, rfl⟩))
  obtain ⟨d, hd, hdc⟩ := List.mem_map.mp hid
  obtain ⟨hle, hfirst⟩ := h.best c hc d.2 d.1 (h'.copies d hd) hdc
  obtain ⟨hle', hfirst'⟩ := h'.best d hd c.2 c.1 (h.copies c hc) hdc.symm
  have hscore : d.1.score = c.1.score := Int.le_antisymm hle hle'
  have hplace : d.2 = c.2 := Nat.le_antisymm (hfirst' hscore.symm) (hfirst hscore)
  have hcopy : d.1 = c.1 := by
    have := h'.copies d hd
    rw [hplace, h.copies c hc] at this
    exact (Option.some.inj this).symm
  have : d = c := Prod.ext hcopy hplace
  exact this ▸ hd

theorem unique (h : Ranks retrieved kept) (h' : Ranks retrieved other) : other = kept := by
  -- Both hold the same copies without repetition, and only one order of these is an order of ranks.
  have hperm : other.Perm kept :=
    (List.perm_ext_iff_of_nodup h'.nodup h.nodup).mpr fun _ => ⟨h'.mem_of_mem h, h.mem_of_mem h'⟩
  exact hperm.eq_of_pairwise (fun _ _ _ _ hab hba => (hab.asymm hba).elim) h'.pairwise_ahead h.pairwise_ahead

end Ranks

/-! ### The scan for first copies -/

/-- The scan, with the places of the copies. -/
def firstPlaced (seen : List (Option String)) : List Placed → List Placed
  | [] => []
  | c :: rest => if seen.contains c.1.id then firstPlaced seen rest else c :: firstPlaced (c.1.id :: seen) rest

theorem map_firstPlaced : ∀ (seen : List (Option String)) (cs : List Placed),
    (firstPlaced seen cs).map (·.1) = firstPerId seen (cs.map (·.1))
  | _, [] => rfl
  | seen, c :: cs => by
    rw [firstPlaced, List.map_cons, firstPerId]
    split
    · exact map_firstPlaced seen cs
    · rw [List.map_cons, map_firstPlaced (c.1.id :: seen) cs]

theorem firstPlaced_sublist : ∀ (seen : List (Option String)) (cs : List Placed), (firstPlaced seen cs).Sublist cs
  | _, [] => List.Sublist.refl _
  | seen, c :: cs => by
    rw [firstPlaced]
    split
    · exact (firstPlaced_sublist seen cs).cons c
    · exact (firstPlaced_sublist (c.1.id :: seen) cs).cons_cons c

theorem not_mem_seen_of_mem_firstPlaced : ∀ {seen : List (Option String)} {cs : List Placed},
    ∀ c ∈ firstPlaced seen cs, c.1.id ∉ seen
  | _, [], _, h => by cases h
  | seen, d :: cs, c, h => by
    rw [firstPlaced] at h
    split at h
    · exact not_mem_seen_of_mem_firstPlaced c h
    · rename_i hd
      rcases List.mem_cons.mp h with rfl | h
      · exact fun hm => hd (List.contains_iff_mem.mpr hm)
      · exact fun hm => not_mem_seen_of_mem_firstPlaced c h (List.mem_cons_of_mem _ hm)

theorem nodup_firstPlaced : ∀ (seen : List (Option String)) (cs : List Placed),
    ((firstPlaced seen cs).map (·.1.id)).Nodup
  | _, [] => List.nodup_nil
  | seen, c :: cs => by
    rw [firstPlaced]
    split
    · exact nodup_firstPlaced seen cs
    · rw [List.map_cons, List.nodup_cons]
      refine ⟨fun hm => ?_, nodup_firstPlaced _ cs⟩
      obtain ⟨d, hd, hid⟩ := List.mem_map.mp hm
      exact not_mem_seen_of_mem_firstPlaced d hd (hid ▸ List.mem_cons_self)

/-- Of every record that has not been seen a copy is kept, and it stands before all others of that record. -/
theorem exists_mem_firstPlaced {R : Placed → Placed → Prop} : ∀ {seen : List (Option String)} {cs : List Placed},
    cs.Pairwise R → ∀ c ∈ cs, c.1.id ∉ seen → ∃ d ∈ firstPlaced seen cs, d.1.id = c.1.id ∧ (d = c ∨ R d c)
  | _, [], _, _, h, _ => by cases h
  | seen, b :: cs, hR, c, hc, hseen => by
    obtain ⟨hb, hcs⟩ := List.pairwise_cons.mp hR
    by_cases hbc : b.1.id = c.1.id
    · refine ⟨b, ?_, hbc, ?_⟩
      · rw [firstPlaced, if_neg fun h => hseen (hbc ▸ List.contains_iff_mem.mp h)]
        exact List.mem_cons_self
      · rcases List.mem_cons.mp hc with rfl | hc
        · exact Or.inl rfl
        · exact Or.inr (hb c hc)
    · have hc' : c ∈ cs := by
        rcases List.mem_cons.mp hc with rfl | hc
        · exact absurd rfl hbc
        · exact hc
      rw [firstPlaced]
      split
      · exact exists_mem_firstPlaced hcs c hc' hseen
      · have hseen' : c.1.id ∉ b.1.id :: seen := fun hm => by
          rcases List.mem_cons.mp hm with h | h
          · exact hbc h.symm
          · exact hseen h
        obtain ⟨d, hd, h⟩ := exists_mem_firstPlaced hcs c hc' hseen'
        exact ⟨d, List.mem_cons_of_mem _ hd, h⟩

/-! ### The stable sort -/

/-- The retrieved copies in the order of the sort, with their places. -/
def sortedCopies (retrieved : List Scored) : List Placed := retrieved.zipIdx.mergeSort (List.zipIdxLE Scored.before)

variable {retrieved : List Scored}

theorem map_sortedCopies : (sortedCopies retrieved).map (·.1) = retrieved.mergeSort Scored.before := List.mergeSort_zipIdx

theorem mem_sortedCopies {c : Placed} : c ∈ sortedCopies retrieved ↔ retrieved[c.2]? = some c.1 :=
  List.mem_mergeSort.trans List.mem_zipIdx_iff_getElem?

theorem before_trans (a b c : Scored) (hab : a.before b = true) (hbc : b.before c = true) : a.before c = true := by
  simp only [Scored.before, decide_eq_true_eq] at hab hbc ⊢
  exact Int.le_trans hbc hab

theorem before_total (a b : Scored) : (a.before b || b.before a) = true := by
  simp only [Scored.before, Bool.or_eq_true, decide_eq_true_eq]
  exact Int.le_total b.score a.score

theorem pairwise_ahead_sortedCopies : (sortedCopies retrieved).Pairwise Ahead := by
  have hle : (sortedCopies retrieved).Pairwise fun a b => List.zipIdxLE Scored.before a b = true :=
    List.pairwise_mergeSort (List.zipIdxLE_trans before_trans) (List.zipIdxLE_total before_total) _
  -- The order of the sort is not strict; it is on copies whose places differ.
  have hplaces : (sortedCopies retrieved).Pairwise fun a b => a.2 ≠ b.2 := by
    have hnodup : ((sortedCopies retrieved).map Prod.snd).Nodup := by
      refine ((List.mergeSort_perm retrieved.zipIdx _).map Prod.snd).nodup_iff.mpr ?_
      rw [List.zipIdx_map_snd]
      exact List.nodup_range'
    exact List.pairwise_map.mp hnodup
  refine (hle.and hplaces).imp fun {a b} hab => ?_
  obtain ⟨hle, hne⟩ := hab
  simp only [List.zipIdxLE, Scored.before, decide_eq_true_eq] at hle
  split at hle
  · split at hle
    · rw [decide_eq_true_eq] at hle
      exact Or.inr ⟨by omega, by omega⟩
    · exact Or.inl (by omega)
  · cases hle

/-- Of every retrieved copy's record one copy is kept, which is that copy or stands ahead of it. -/
theorem exists_kept {i : Nat} {s : Scored} (hi : retrieved[i]? = some s) :
    ∃ d ∈ firstPlaced [] (sortedCopies retrieved), d.1.id = s.id ∧ (d = (s, i) ∨ Ahead d (s, i)) :=
  exists_mem_firstPlaced pairwise_ahead_sortedCopies (s, i) (mem_sortedCopies.mpr hi) List.not_mem_nil

/-- Sorting and scanning keeps what a ranking keeps. -/
theorem ranks_firstPlaced : Ranks retrieved (firstPlaced [] (sortedCopies retrieved)) where
  copies c hc := mem_sortedCopies.mp ((firstPlaced_sublist [] _).subset hc)
  distinct := nodup_firstPlaced [] _
  ids id := by
    constructor
    · intro h
      obtain ⟨c, hc, rfl⟩ := List.mem_map.mp h
      have := mem_sortedCopies.mp ((firstPlaced_sublist [] _).subset hc)
      exact List.mem_map.mpr ⟨c.1, List.mem_of_getElem? this, rfl⟩
    · intro h
      obtain ⟨s, hs, rfl⟩ := List.mem_map.mp h
      obtain ⟨i, hi⟩ := List.getElem?_of_mem hs
      obtain ⟨d, hd, hid, -⟩ := exists_kept hi
      exact List.mem_map.mpr ⟨d, hd, hid⟩
  falling := by
    refine (pairwise_ahead_sortedCopies.sublist (firstPlaced_sublist [] _)).imp fun {a b} hab => ?_
    rcases hab with h | ⟨h, -⟩
    · exact Int.le_of_lt h
    · exact Int.le_of_eq h
  best c hc i s hi hid := by
    obtain ⟨d, hd, hds, hfirst⟩ := exists_kept hi
    -- The copy that stands before `s` is the kept one, since ids are distinct.
    have hdc : d = c := List.inj_on_of_nodup_map (nodup_firstPlaced [] _) hd hc (hds.trans hid)
    subst hdc
    rcases hfirst with rfl | h | ⟨h, hp⟩
    · exact ⟨Int.le_refl _, fun _ => Nat.le_refl _⟩
    · exact ⟨Int.le_of_lt h, fun heq => absurd heq (Int.ne_of_lt h)⟩
    · exact ⟨Int.le_of_eq h, fun _ => Nat.le_of_lt hp⟩
  ties := by
    refine (pairwise_ahead_sortedCopies.sublist (firstPlaced_sublist [] _)).imp fun {a b} hab heq => ?_
    rcases hab with h | ⟨-, h⟩
    · omega
    · exact h

theorem rank_eq : rank retrieved = (firstPlaced [] (sortedCopies retrieved)).map (·.1) := by
  rw [map_firstPlaced, map_sortedCopies, rank]

theorem isRanking_rank : IsRanking retrieved (rank retrieved) := ⟨_, ranks_firstPlaced, rank_eq⟩

theorem IsRanking.eq_rank {hits : List Scored} (h : IsRanking retrieved hits) : hits = rank retrieved := by
  obtain ⟨kept, hk, rfl⟩ := h
  rw [rank_eq, ranks_firstPlaced.unique hk]

/-! ### Searching -/

variable {ε : Type}

/-- Of a search whose lookups all succeed the hits are the ranking of everything retrieved, term by term. -/
theorem search_hits_isRanking (e : Engine) (outcome : Nat → Lookup → Except ε (List Record)) (order : List Nat)
    (query : String) (batch : Nat → String → List Record)
    (h : order.Perm (List.range (e.config.terms query).length))
    (hok : ∀ i t, (e.config.terms query)[i]? = some t →
      outcome i ⟨t, e.config.perTermLimit⟩ = .ok (batch i t)) :
    let concatenated := ((e.config.terms query).mapIdx batch).flatten
    let retrieved := concatenated.map fun r => Scored.mk r (score e.weights r (e.config.terms query))
    ∃ hits, (e.searchWith outcome order query).hits = .ok hits ∧ IsRanking retrieved hits ∧
      ∀ other, IsRanking retrieved other → other = hits :=
  ⟨_, Engine.searchWith_hits_of_batches h hok, isRanking_rank, fun _ hother => hother.eq_rank⟩

/-- A copy with only keywords and a description. -/
def sketch (id keywords description : String) : Record where
  id := some id
  content := some ""
  description := some description
  keywords := some keywords
  created := ⟨2024, 1, 1, 0, 0, 0, 0, some 0⟩
  updated := ⟨2024, 1, 1, 0, 0, 0, 0, some 0⟩

/-- Keywords count against a record here, so that the later copy of one is kept and the earlier of the other. -/
theorem search_keeps_better_copies :
    let e : Engine := { weights := { keyword := -1, description := 2, both := 0 } }
    let batch : Nat → String → List Record := fun _ t =>
      if t = "a" then [sketch "x" "a" "", sketch "y" "" "a"] else [sketch "x" "" "b", sketch "y" "b" "b"]
    let outcome : Nat → Lookup → Except Empty (List Record) := fun i l => .ok (batch i l.term)
    let hits := [Scored.mk (sketch "y" "" "a") 2, ⟨sketch "x" "" "b", 2⟩]
    (e.searchWith outcome [1, 0] "A b").hits = .ok hits ∧
      IsRanking [⟨sketch "x" "a" "", -1⟩, ⟨sketch "y" "" "a", 2⟩, ⟨sketch "x" "" "b", 2⟩, ⟨sketch "y" "b" "b", 1⟩]
        hits := by
  intro e batch outcome hits
  have hterms : e.config.terms "A b" = ["a", "b"] := by decide +kernel
  have h : [1, 0].Perm (List.range (e.config.terms "A b").length) := by
    rw [hterms]
    decide
  obtain ⟨found, hfound, hranking, -⟩ := search_hits_isRanking e outcome [1, 0] "A b" batch h fun _ _ _ => rfl
  have hhits : (e.searchWith outcome [1, 0] "A b").hits = .ok hits := by cbv
  obtain rfl : found = hits := Except.ok.inj (hfound.symm.trans hhits)
  rw [hterms] at hranking
  exact ⟨hhits, hranking⟩

end CodeAtlas.Search
