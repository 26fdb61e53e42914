import CodeAtlas.Proofs.Search.Ranking

/-! The letter case of a query. A query and its lower case have the same terms, as long as both are let pass: the guard is on
    the length of a query as it is given, and of all characters one, the dotted capital I, becomes longer in lower case. -/

namespace CodeAtlas.Search

open Text

variable {ε : Type} {c : Config} {e : Engine} {query query' : String} {order order' : List Nat}
  {outcome : Nat → Lookup → Except ε (List Record)}

/-! ### Terms -/

/-- The query is not too long, and in lower case it is. -/
def Config.Outgrows (c : Config) (query : String) : Prop :=
  query.length ≤ c.maxQueryLength ∧ c.maxQueryLength < (lower query).length

theorem terms_lower (h : ¬c.Outgrows query) : c.terms (lower query) = c.terms query := by
  by_cases hempty : query = ""
  · rw [hempty]
    rfl
  · by_cases hlong : c.maxQueryLength < query.length
    · have hlonger : c.maxQueryLength < (lower query).length := by
        rw [length_lower]
        omega
      rw [terms_eq_nil_iff.mpr (Or.inr (Or.inl hlong)), terms_eq_nil_iff.mpr (Or.inr (Or.inl hlonger))]
    · have hlength : (lower query).length ≤ c.maxQueryLength :=
        Nat.not_lt.mp fun hlonger => h ⟨Nat.not_lt.mp hlong, hlonger⟩
      rw [terms_of_length hempty (Nat.not_lt.mp hlong), terms_of_length (fun h => hempty (lower_eq_empty_iff.mp h)) hlength,
        words_lower, List.map_map]
      exact List.map_congr_left fun word _ => lower_lower word

/-- A query that becomes too long has terms, and then it has none. -/
theorem terms_of_outgrows (h : c.Outgrows query) : c.terms (lower query) = [] ∧ c.terms query ≠ [] := by
  refine ⟨terms_eq_nil_iff.mpr (Or.inr (Or.inl h.2)), fun hnil => ?_⟩
  obtain ⟨hlength, hlonger⟩ := h
  have hdotted : dottedCapitalI ∈ query.toList := by
    rw [length_lower] at hlonger
    exact List.count_pos_iff.mp (by omega)
  rcases terms_eq_nil_iff.mp hnil with hempty | hlong | hblank
  · rw [String.isEmpty_iff.mp hempty] at hdotted
    cases hdotted
  · omega
  · exact absurd (List.all_eq_true.mp hblank _ hdotted) (by decide)

/-! ### Searches -/

/-- Queries with the same terms make the same lookups and find the same, in whatever order the outcomes arrive. -/
theorem Engine.searchWith_of_same_terms (hterms : e.config.terms query' = e.config.terms query)
    (horder : order.Perm (List.range (e.config.terms query).length))
    (horder' : order'.Perm (List.range (e.config.terms query').length)) :
    (e.searchWith outcome order' query').lookups = (e.searchWith outcome order query).lookups ∧
      (e.searchWith outcome order' query').hits = (e.searchWith outcome order query).hits := by
  constructor
  · simp only [searchWith, retrieve, hterms]
    split <;> rfl
  · rw [searchWith_hits horder, searchWith_hits horder', lookups, lookups, hterms]

theorem Engine.searchWith_of_no_terms (hterms : e.config.terms query = [])
    (horder : order.Perm (List.range (e.config.terms query).length)) :
    (e.searchWith outcome order query).lookups = [] ∧ (e.searchWith outcome order query).hits = .ok [] := by
  constructor
  · simp only [searchWith, retrieve, hterms]
    split <;> rfl
  · rw [searchWith_hits horder, lookups, hterms]
    simp [gather, Except.map, rank, firstPerId]

theorem madeInTurn_ne_zero : ∀ {outcomes : List (Except ε (List Record))}, outcomes ≠ [] → madeInTurn outcomes ≠ 0
  | [], h => absurd rfl h
  | .error _ :: _, _ => Nat.one_ne_zero
  | .ok _ :: _, _ => Nat.succ_ne_zero _

/-- Where there is a term, something is looked up. -/
theorem Engine.lookups_ne_nil (hterms : e.config.terms query ≠ []) :
    (e.searchWith outcome order query).lookups ≠ [] := by
  have hlookups : e.lookups query ≠ [] := fun hnil => hterms (List.map_eq_nil_iff.mp hnil)
  change (e.retrieve (e.config.terms query) outcome order).lookups ≠ []
  unfold retrieve
  split
  · exact hlookups
  · change (e.lookups query).take (madeInTurn ((e.lookups query).mapIdx outcome)) ≠ []
    rw [ne_eq, List.take_eq_nil_iff, not_or]
    exact ⟨madeInTurn_ne_zero (by simpa using hlookups), hlookups⟩

/-- A search by a query in lower case has the terms of the search by the query, makes the same lookups and finds the same,
    whatever the store answers, unless the query grows too long. Then nothing is looked up any more, which it is for the
    query as it was. -/
theorem search_of_query_in_lower_case (e : Engine) (outcome : Nat → Lookup → Except ε (List Record)) (query : String)
    {order order' : List Nat} (horder : order.Perm (List.range (e.config.terms query).length))
    (horder' : order'.Perm (List.range (e.config.terms (lower query)).length)) :
    let given := e.searchWith outcome order query
    let lowered := e.searchWith outcome order' (lower query)
    (¬e.config.Outgrows query →
      lowered.terms = given.terms ∧ lowered.lookups = given.lookups ∧ lowered.hits = given.hits) ∧
    (e.config.Outgrows query → lowered.lookups = [] ∧ lowered.hits = .ok [] ∧ given.lookups ≠ []) := by
  intro given lowered
  refine ⟨fun hfits => ?_, fun houtgrows => ?_⟩
  · have hterms := terms_lower hfits
    exact ⟨hterms, Engine.searchWith_of_same_terms hterms horder horder'⟩
  · obtain ⟨hnone, hsome⟩ := terms_of_outgrows houtgrows
    obtain ⟨hlookups, hhits⟩ := @Engine.searchWith_of_no_terms ε e _ _ outcome hnone horder'
    exact ⟨hlookups, hhits, Engine.lookups_ne_nil hsome⟩

/-- One query stays short enough, and the other one, with as many letters, does not. -/
theorem search_of_two_letters :
    let e : Engine := { config := { maxQueryLength := 2, concurrent := true } }
    let outcome : Nat → Lookup → Except Nat (List Record) := fun i l => if i = 0 then .ok [sketch l.term "" ""] else .error i
    ¬e.config.Outgrows "ΑΣ" ∧ e.config.Outgrows "İİ" ∧
      (e.searchWith outcome [0] (lower "ΑΣ")).lookups = (e.searchWith outcome [0] "ΑΣ").lookups ∧
      (e.searchWith outcome [0] (lower "ΑΣ")).hits = (e.searchWith outcome [0] "ΑΣ").hits ∧
      (e.searchWith outcome [0] "İİ").lookups ≠ [] ∧ (e.searchWith outcome [] (lower "İİ")).lookups = [] := by
  intro e outcome
  have hfits : ¬e.config.Outgrows "ΑΣ" := fun h => absurd h.2 (by decide +kernel)
  have houtgrows : e.config.Outgrows "İİ" := ⟨by decide, by decide +kernel⟩
  have hone : e.config.terms "ΑΣ" = ["ας"] := by decide +kernel
  have hone' : e.config.terms (lower "ΑΣ") = ["ας"] := by decide +kernel
  have htwo : e.config.terms "İİ" = ["i̇i̇"] := by decide +kernel
  have htwo' : e.config.terms (lower "İİ") = [] := by decide +kernel
  obtain ⟨-, hlookups, hhits⟩ := (@search_of_query_in_lower_case _ e outcome "ΑΣ" [0] [0] (by rw [hone]; decide)
    (by rw [hone']; decide)).1 hfits
  obtain ⟨hnone, -, hsome⟩ := (@search_of_query_in_lower_case _ e outcome "İİ" [0] [] (by rw [htwo]; decide)
    (by rw [htwo']; decide)).2 houtgrows
  exact ⟨hfits, houtgrows, hlookups, hhits, hsome, hnone⟩

/-- With a letter for a query the guard lets a dotted capital I pass, and not the two characters of its lower case. -/
theorem search_lost_in_lower_case :
    let e : Engine := { config := { maxQueryLength := 1 } }
    let find : String → Int → Except Empty (List Record) := fun _ _ => .ok [sketch "x" "i̇" ""]
    (e.search find "İ").lookups = [⟨"i̇", 3⟩] ∧ (e.search find "İ").hits = .ok [⟨sketch "x" "i̇" "", 4⟩] ∧
      (e.search find (lower "İ")).lookups = [] ∧ (e.search find (lower "İ")).hits = .ok [] := by
  intro e find
  refine ⟨?_, ?_, ?_, ?_⟩
  all_goals cbv

end CodeAtlas.Search
