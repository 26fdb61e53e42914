import CodeAtlas.Proofs.Search.Ranking
import Mathlib

/-! Queries with the same terms in another order. What is retrieved comes in another order then, and of a record
    another copy may be the first one; but the greatest score among its copies stays, and a ranking shows each record
    with that. So the hits stand for the same records with the same scores, and only those of equal score may change
    places. A lookup that fails does so in both orders. -/

namespace CodeAtlas.Search

/-- The record that a hit stands for, and its score. -/
def Scored.standing (s : Scored) : Option String × Int := (s.id, s.score)

/-- The hits of a score, by their records. -/
def tied (points : Int) (hits : List Scored) : List (Option String) :=
  (hits.filter fun s => s.score = points).map Scored.id

/-- The same records with the same scores, where records of equal score may have changed places. -/
structure SameStandings (hits hits' : List Scored) : Prop where
  standings : ∀ x, x ∈ hits.map Scored.standing ↔ x ∈ hits'.map Scored.standing
  length : hits.length = hits'.length
  scores : hits.map (·.score) = hits'.map (·.score)
  ties : ∀ points, (tied points hits).Perm (tied points hits')

variable {ε : Type} {retrieved retrieved' hits hits' : List Scored}

/-! ### Rankings -/

/-- A record is shown with the greatest score among its copies. -/
theorem IsRanking.mem_standings_iff (h : IsRanking retrieved hits) {id : Option String} {points : Int} :
    (id, points) ∈ hits.map Scored.standing ↔
      (∃ s ∈ retrieved, s.standing = (id, points)) ∧ ∀ s ∈ retrieved, s.id = id → s.score ≤ points := by
  obtain ⟨kept, hkept, rfl⟩ := h
  constructor
  · intro hmem
    obtain ⟨s, hs, hstanding⟩ := List.mem_map.mp hmem
    obtain ⟨c, hc, rfl⟩ := List.mem_map.mp hs
    obtain ⟨rfl, rfl⟩ := Prod.mk.inj hstanding
    refine ⟨⟨c.1, List.mem_of_getElem? (hkept.copies c hc), rfl⟩, fun s hs hid => ?_⟩
    obtain ⟨i, hi⟩ := List.getElem?_of_mem hs
    exact (hkept.best c hc i s hi hid).1
  · rintro ⟨⟨s, hs, hstanding⟩, hgreatest⟩
    obtain ⟨rfl, rfl⟩ := Prod.mk.inj hstanding
    obtain ⟨c, hc, hid⟩ := List.mem_map.mp ((hkept.ids s.id).mpr (List.mem_map.mpr ⟨s, hs, rfl⟩))
    obtain ⟨i, hi⟩ := List.getElem?_of_mem hs
    -- The kept copy is no worse than `s`, and nothing retrieved is better.
    have hscore : c.1.score = s.score := Int.le_antisymm
      (hgreatest c.1 (List.mem_of_getElem? (hkept.copies c hc)) hid) (hkept.best c hc i s hi hid.symm).1
    exact List.mem_map.mpr ⟨c.1, List.mem_map.mpr ⟨c, hc, rfl⟩, by rw [Scored.standing, hid, hscore]⟩

theorem IsRanking.nodup_standings (h : IsRanking retrieved hits) : (hits.map Scored.standing).Nodup := by
  obtain ⟨kept, hkept, rfl⟩ := h
  refine List.Nodup.of_map Prod.fst ?_
  rw [List.map_map, List.map_map]
  exact hkept.distinct

theorem IsRanking.falling (h : IsRanking retrieved hits) : (hits.map (·.score)).Pairwise (· ≥ ·) := by
  obtain ⟨kept, hkept, rfl⟩ := h
  rw [List.map_map, List.pairwise_map]
  exact hkept.falling

theorem IsRanking.perm_standings (h : IsRanking retrieved hits) (h' : IsRanking retrieved' hits')
    (hperm : retrieved.Perm retrieved') : (hits.map Scored.standing).Perm (hits'.map Scored.standing) := by
  refine (List.perm_ext_iff_of_nodup h.nodup_standings h'.nodup_standings).mpr fun ⟨id, points⟩ => ?_
  rw [h.mem_standings_iff, h'.mem_standings_iff]
  simp only [hperm.mem_iff]

theorem tied_eq (points : Int) (hits : List Scored) :
    tied points hits = ((hits.map Scored.standing).filter fun x => x.2 = points).map (·.1) := by
  rw [tied, List.filter_map, List.map_map]
  rfl

/-- Rankings of the same copies in two orders. -/
theorem IsRanking.sameStandings (h : IsRanking retrieved hits) (h' : IsRanking retrieved' hits')
    (hperm : retrieved.Perm retrieved') : SameStandings hits hits' := by
  have hstandings := h.perm_standings h' hperm
  have hscores : (hits.map (·.score)).Perm (hits'.map (·.score)) := by
    simpa [Function.comp_def, Scored.standing] using hstandings.map Prod.snd
  exact {
    standings := fun _ => hstandings.mem_iff
    length := by simpa using hstandings.length_eq
    -- Both lists of scores fall, so that they are equal as soon as one is a permutation of the other.
    scores := hscores.eq_of_pairwise (fun _ _ _ _ hab hba => Int.le_antisymm hba hab) h.falling h'.falling
    ties := fun points => by
      rw [tied_eq, tied_eq]
      exact (hstandings.filter _).map _ }

/-! ### Terms in another order -/

theorem score_perm {terms terms' : List String} (h : terms.Perm terms') (w : Weights) (r : Record) :
    score w r terms = score w r terms' := by
  have hawards : (awards r terms).Perm (awards r terms') := h.flatMap_right _
  exact (hawards.map w.of).sum_eq

/-- Outcomes in two orders are gathered to the same records, unless there is a failure among them. -/
theorem gather_perm {outcomes outcomes' : List (Except ε (List Record))} (h : outcomes.Perm outcomes') :
    ((∀ x, .error x ∉ outcomes) ∧ ∃ found found' : List Record, gather outcomes = .ok found ∧
      gather outcomes' = .ok found' ∧ found.Perm found') ∨
    ∃ x x', .error x ∈ outcomes ∧ gather outcomes = .error x ∧ gather outcomes' = .error x' := by
  have hnone (found : List (List Record)) (x : ε) : .error x ∉ found.map (.ok : _ → Except ε (List Record)) := by simp
  obtain ⟨found, rfl⟩ | ⟨found, x, rest, rfl⟩ := outcomes_cases outcomes
  · obtain ⟨found', rfl⟩ | ⟨found', x', rest', rfl⟩ := outcomes_cases outcomes'
    · have hfound : found.Perm found' := (List.map_perm_map_iff fun _ _ => Except.ok.inj).mp h
      exact Or.inl ⟨hnone found, _, _, gather_map_ok found, gather_map_ok found', hfound.flatten⟩
    · exact absurd (h.mem_iff.mpr (List.mem_append_right _ List.mem_cons_self)) (hnone found x')
  · have hx : .error x ∈ found.map .ok ++ .error x :: rest := List.mem_append_right _ List.mem_cons_self
    obtain ⟨found', rfl⟩ | ⟨found', x', rest', rfl⟩ := outcomes_cases outcomes'
    · exact absurd (h.mem_iff.mp hx) (hnone found' x)
    · exact Or.inr ⟨x, x', hx, gather_of_error found, gather_of_error found'⟩

/-! ### Searching -/

theorem mapIdx_lookups (e : Engine) (answer : Lookup → Except ε (List Record)) (query : String) :
    (e.lookups query).mapIdx (fun _ l => answer l) =
      (e.config.terms query).map fun t => answer ⟨t, e.config.perTermLimit⟩ := by
  refine List.ext_getElem? fun i => ?_
  rw [List.getElem?_mapIdx, Engine.lookups, List.getElem?_map, List.getElem?_map, Option.map_map]
  rfl

/-- Two queries with the same terms, each as often, find the same records with the same scores, in whatever order the
    terms stand and the outcomes of the lookups arrive, as long as a lookup is answered by its term and limit alone.
    Where a lookup fails, both searches fail. -/
theorem search_reordered (e : Engine) (answer : Lookup → Except ε (List Record)) {query query' : String}
    {order order' : List Nat} (hterms : (e.config.terms query).Perm (e.config.terms query'))
    (horder : order.Perm (List.range (e.config.terms query).length))
    (horder' : order'.Perm (List.range (e.config.terms query').length)) :
    let outcome := (e.searchWith (fun _ l => answer l) order query).hits
    let outcome' := (e.searchWith (fun _ l => answer l) order' query').hits
    ((∀ t ∈ e.config.terms query, ∃ batch, answer ⟨t, e.config.perTermLimit⟩ = .ok batch) →
      ∃ hits hits', outcome = .ok hits ∧ outcome' = .ok hits' ∧ SameStandings hits hits') ∧
    ∀ t ∈ e.config.terms query, ∀ x, answer ⟨t, e.config.perTermLimit⟩ = .error x →
      ∃ y y', outcome = .error y ∧ outcome' = .error y' := by
  intro outcome outcome'
  have houtcome := @Engine.searchWith_hits _ e (fun _ l => answer l) _ _ horder
  have houtcome' := @Engine.searchWith_hits _ e (fun _ l => answer l) _ _ horder'
  rw [mapIdx_lookups] at houtcome houtcome'
  obtain ⟨hsound, found, found', hfound, hfound', hperm⟩ | ⟨x, x', hmem, hx, hx'⟩ :=
    gather_perm (hterms.map fun t => answer ⟨t, e.config.perTermLimit⟩)
  · rw [hfound] at houtcome
    rw [hfound'] at houtcome'
    refine ⟨fun _ => ⟨_, _, houtcome, houtcome', isRanking_rank.sameStandings isRanking_rank ?_⟩, fun t ht y hy => ?_⟩
    · simp only [score_perm hterms]
      exact hperm.map _
    · exact absurd (List.mem_map.mpr ⟨t, ht, hy⟩) (hsound y)
  · rw [hx] at houtcome
    rw [hx'] at houtcome'
    refine ⟨fun hall => ?_, fun _ _ _ _ => ⟨x, x', houtcome, houtcome'⟩⟩
    obtain ⟨t, ht, hfails⟩ := List.mem_map.mp hmem
    obtain ⟨batch, hbatch⟩ := hall t ht
    rw [hbatch] at hfails
    cases hfails

/-- Three copies of two records, of which one changes from lookup to lookup. With the words the other way round the
    records change places, and another copy is shown of one of them. -/
theorem search_swapped :
    let e : Engine := { config := { concurrent := true }, weights := { keyword := -1, description := 2, both := 0 } }
    let answer : Lookup → Except Empty (List Record) := fun l => .ok
      (if l.term = "a" then [sketch "x" "" "a", sketch "y" "" "a"] else [sketch "y" "" "b", sketch "x" "b" "b"])
    let hits := [Scored.mk (sketch "x" "" "a") 2, ⟨sketch "y" "" "a", 2⟩]
    let hits' := [Scored.mk (sketch "y" "" "b") 2, ⟨sketch "x" "" "a", 2⟩]
    (e.searchWith (fun _ l => answer l) [1, 0] "a b").hits = .ok hits ∧
      (e.searchWith (fun _ l => answer l) [0, 1] "B A").hits = .ok hits' ∧ SameStandings hits hits' := by
  intro e answer hits hits'
  have hterms : e.config.terms "a b" = ["a", "b"] := by decide +kernel
  have hterms' : e.config.terms "B A" = ["b", "a"] := by decide +kernel
  have hperm : (e.config.terms "a b").Perm (e.config.terms "B A") := by
    rw [hterms, hterms']
    decide
  have horder : [1, 0].Perm (List.range (e.config.terms "a b").length) := by
    rw [hterms]
    decide
  have horder' : [0, 1].Perm (List.range (e.config.terms "B A").length) := by
    rw [hterms']
    decide
  obtain ⟨found, found', hfound, hfound', hsame⟩ :=
    (search_reordered e answer hperm horder horder').1 fun _ _ => ⟨_, rfl⟩
  have hhits : (e.searchWith (fun _ l => answer l) [1, 0] "a b").hits = .ok hits := by cbv
  have hhits' : (e.searchWith (fun _ l => answer l) [0, 1] "B A").hits = .ok hits' := by cbv
  obtain rfl : found = hits := Except.ok.inj (hfound.symm.trans hhits)
  obtain rfl : found' = hits' := Except.ok.inj (hfound'.symm.trans hhits')
  exact ⟨hhits, hhits', hsame⟩

end CodeAtlas.Search
