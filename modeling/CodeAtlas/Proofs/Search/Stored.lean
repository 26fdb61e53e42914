import CodeAtlas.Proofs.Search.InMemory
import CodeAtlas.Proofs.Store.Requests

/-! Searching the store of a workspace. The store stays as it is from one lookup to the next, so that every term has a
    batch of its own, whatever its place among the terms. -/

namespace CodeAtlas

open Search Store

/-- In memory every lookup is answered by the first records that hold the term. -/
theorem Workspace.answer_in_memory {w : Workspace} {m : Memory} (hstore : w.store = .memory m)
    (hsearchable : ∀ r ∈ m.records, r.Searchable) (term : String) (limit : Nat) :
    w.answer term limit = .ok ((m.records.filter fun r => r.texts.holds term).take limit) := by
  rw [answer, find, hstore]
  simp only [Memory.find_eq hsearchable]
  rfl

namespace Search

variable {e : Engine} {query : String} {order : List Nat} {terms : List String} {r : Record}

/-- Where lookups depend on nothing but the term, the hits are ranked from the batches of the terms. -/
theorem Engine.searchWith_hits_of_find {ε : Type} (find : String → Nat → Except ε (List Record))
    {batch : String → List Record} (h : order.Perm (List.range (e.config.terms query).length))
    (hfind : ∀ t ∈ e.config.terms query, find t e.config.perTermLimit = .ok (batch t)) :
    (e.searchWith (fun _ l => find l.term l.limit) order query).hits =
      .ok (rank (((e.config.terms query).flatMap batch).map fun r =>
        ⟨r, score e.weights r (e.config.terms query)⟩)) := by
  have hbatches : ((e.config.terms query).mapIdx fun _ t => batch t).flatten = (e.config.terms query).flatMap batch := by
    rw [List.flatMap_def]
    exact congrArg List.flatten (List.ext_getElem? fun i => by rw [List.getElem?_mapIdx, List.getElem?_map])
  rw [← hbatches]
  exact searchWith_hits_of_batches h fun i t ht => hfind t (List.mem_of_getElem? ht)

/-- A search of a store in memory, no two records of which have the same id. -/
theorem answers_in_memory {w : Workspace} {m : Memory} (hstore : w.store = .memory m) (hids : m.ids.Nodup)
    (hsearchable : ∀ r ∈ m.records, r.Searchable) (config : Config) (notesScores : Bool)
    (h : order.Perm (List.range (config.terms query).length)) :
    ∃ hits, (({ config, notesScores } : Engine).searchWith (fun _ l => w.answer l.term l.limit) order query).hits =
        .ok hits ∧ Answers m.records config.perTermLimit (config.terms query) hits := by
  have hfind : ∀ t ∈ config.terms query,
      w.answer t config.perTermLimit = .ok (batchOf m.records config.perTermLimit t) := by
    intro t ht
    have hlower := lowerChars_of_mem_terms ht
    rw [w.answer_in_memory hstore hsearchable, batchOf, List.filter_congr fun r _ => holds_eq hlower]
  refine ⟨_, Engine.searchWith_hits_of_find (fun t limit => w.answer t limit) h hfind, ?_⟩
  exact answers_rank hids _ _

/-- Every term that stands in the keywords is worth four points. -/
theorem four_mul_length_le_sum (h : ∀ t ∈ terms, InKeywords t r) :
    4 * (terms.length : Int) ≤ (terms.map (termScore r)).sum := by
  induction terms with
  | nil => simp
  | cons t rest ih =>
    obtain ⟨ht, hrest⟩ := List.forall_mem_cons.mp h
    have hfour : 4 ≤ termScore r t := by
      unfold termScore
      rw [if_pos ht]
      split <;> split <;> decide
    have := ih hrest
    simp only [List.length_cons, List.map_cons, List.sum_cons]
    omega

end Search

end CodeAtlas
