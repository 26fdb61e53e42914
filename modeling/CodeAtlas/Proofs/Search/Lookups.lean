import CodeAtlas.Proofs.Search.Terms
import CodeAtlas.Search.Engine

/-! Lookups in turn and lookups at once. Every place is filled by its own outcome, in whatever order the
    outcomes arrive, so that both modes gather the same list: everything found, or the failure that stands
    first among the terms. They differ in the lookups that are made once one has failed. -/

namespace CodeAtlas.Search

variable {ε : Type}

/-! ### Outcomes -/

/-- Either all lookups succeed, or there is a first one that fails. -/
theorem outcomes_cases : ∀ outcomes : List (Except ε (List Record)),
    (∃ found : List (List Record), outcomes = found.map .ok) ∨
      ∃ (found : List (List Record)) (x : ε) (rest : _), outcomes = found.map .ok ++ .error x :: rest
  | [] => Or.inl ⟨[], rfl⟩
  | .error x :: rest => Or.inr ⟨[], x, rest, rfl⟩
  | .ok batch :: rest => by
    rcases outcomes_cases rest with ⟨found, h⟩ | ⟨found, x, tail, h⟩
    · exact Or.inl ⟨batch :: found, by rw [h]; rfl⟩
    · exact Or.inr ⟨batch :: found, x, tail, by rw [h]; rfl⟩

theorem gather_map_ok : ∀ found : List (List Record),
    gather (found.map (.ok : List Record → Except ε (List Record))) = .ok found.flatten
  | [] => rfl
  | batch :: found => by
    rw [List.map_cons, gather, gather_map_ok found, List.flatten_cons]

theorem gather_of_error {x : ε} {rest : List (Except ε (List Record))} : ∀ found : List (List Record),
    gather (found.map .ok ++ .error x :: rest) = .error x
  | [] => rfl
  | batch :: found => by
    rw [List.map_cons, List.cons_append, gather, gather_of_error found]

theorem madeInTurn_map_ok : ∀ found : List (List Record),
    madeInTurn (found.map (.ok : List Record → Except ε (List Record))) = found.length
  | [] => rfl
  | batch :: found => by
    rw [List.map_cons, madeInTurn, madeInTurn_map_ok found, List.length_cons]

theorem madeInTurn_of_error {x : ε} {rest : List (Except ε (List Record))} : ∀ found : List (List Record),
    madeInTurn (found.map .ok ++ .error x :: rest) = found.length + 1
  | [] => rfl
  | batch :: found => by
    rw [List.map_cons, List.cons_append, madeInTurn, madeInTurn_of_error found, List.length_cons]

/-- Up to the first failure every lookup has found something, be it nothing. -/
theorem split_at_failure {outcomes : List (Except ε (List Record))} {i : Nat} {x : ε}
    (hi : outcomes[i]? = some (.error x)) (before : ∀ j < i, ∃ batch, outcomes[j]? = some (.ok batch)) :
    ∃ (found : List (List Record)) (rest : _), outcomes = found.map .ok ++ .error x :: rest ∧ found.length = i := by
  rcases outcomes_cases outcomes with ⟨found, rfl⟩ | ⟨found, y, rest, rfl⟩
  · obtain ⟨batch, -, hb⟩ := List.mem_map.mp (List.mem_of_getElem? hi)
    cases hb
  · have failing : (found.map .ok ++ .error y :: rest)[found.length]? = some (.error y) := by
      rw [List.getElem?_append_right (Nat.le_of_eq (List.length_map _)), List.length_map, Nat.sub_self]
      rfl
    rcases Nat.lt_trichotomy i found.length with hlt | rfl | hgt
    · rw [List.getElem?_append_left (by rwa [List.length_map]), List.getElem?_map,
        List.getElem?_eq_getElem hlt] at hi
      cases hi
    · rw [failing] at hi
      cases hi
      exact ⟨found, rest, rfl, rfl⟩
    · obtain ⟨batch, hb⟩ := before _ hgt
      rw [failing] at hb
      cases hb

/-! ### Arrival -/

/-- A place that an outcome has arrived for holds it, the others hold what they held. -/
theorem getElem?_foldl_set {α : Type} (outcomes : List α) (j : Nat) : ∀ (order : List Nat) (places : List (Option α)),
    (order.foldl (fun places i => places.set i outcomes[i]?) places)[j]? =
      if j < places.length ∧ j ∈ order then some outcomes[j]? else places[j]?
  | [], places => by simp
  | i :: order, places => by
    -- The place may be filled now and again later, with the same outcome both times.
    rw [List.foldl_cons, getElem?_foldl_set outcomes j order, List.length_set, List.getElem?_set]
    by_cases hj : j < places.length
    · by_cases hmem : j ∈ order
      · simp [hj, hmem]
      · by_cases hi : i = j
        · subst hi
          simp [hj]
        · simp [hj, hmem, hi, Ne.symm hi]
    · rw [if_neg fun h => hj h.1]
      split
      · rename_i hi
        subst hi
        rw [if_neg hj, if_neg fun h => hj h.1, List.getElem?_eq_none (Nat.le_of_not_lt hj)]
      · rw [if_neg fun h => hj h.1]

/-- Once all outcomes have arrived, each is at its place, whatever the order was. -/
theorem arrive_eq_map_some {α : Type} {outcomes : List α} {order : List Nat}
    (h : order.Perm (List.range outcomes.length)) : arrive outcomes order = outcomes.map some := by
  apply List.ext_getElem?
  intro j
  rw [arrive, getElem?_foldl_set, List.length_map, List.getElem?_map]
  by_cases hj : j < outcomes.length
  · have hmem : j ∈ order := h.mem_iff.mpr (List.mem_range.mpr hj)
    rw [if_pos ⟨hj, hmem⟩, List.getElem?_map, List.getElem?_eq_getElem hj]
    rfl
  · rw [if_neg fun h => hj h.1, List.getElem?_map, List.getElem?_eq_none (Nat.le_of_not_lt hj)]
    rfl

theorem atOnce_found {lookups : List Lookup} {outcomes : List (Except ε (List Record))} {order : List Nat}
    (h : order.Perm (List.range outcomes.length)) : (atOnce lookups outcomes order).found = gather outcomes := by
  have hid : (outcomes.map some).filterMap id = outcomes := by
    rw [List.filterMap_map]
    exact List.filterMap_some
  rw [atOnce, arrive_eq_map_some h, hid]

namespace Engine

/-- The lookups that the terms of a query ask for. -/
def lookups (e : Engine) (query : String) : List Lookup :=
  (e.config.terms query).map fun t => ⟨t, e.config.perTermLimit⟩

/-- The same engine, making its lookups at once or in turn. -/
def inMode (e : Engine) (concurrent : Bool) : Engine := { e with config := { e.config with concurrent } }

variable {e : Engine} {outcome : Nat → Lookup → Except ε (List Record)} {order : List Nat} {query : String}

/-- In both modes the hits are ranked from what is gathered in the order of the terms. -/
theorem searchWith_hits (h : order.Perm (List.range (e.config.terms query).length)) :
    (e.searchWith outcome order query).hits =
      (gather ((e.lookups query).mapIdx outcome)).map fun records =>
        rank (records.map fun r => ⟨r, score e.weights r (e.config.terms query)⟩) := by
  have hfound : (e.retrieve (e.config.terms query) outcome order).found =
      gather ((e.lookups query).mapIdx outcome) := by
    unfold retrieve
    dsimp only
    split
    · exact atOnce_found (by rwa [List.length_mapIdx, List.length_map])
    · rfl
  rw [Report.hits, searchWith]
  dsimp only
  rw [hfound]
  cases gather ((e.lookups query).mapIdx outcome) <;> rfl

theorem searchWith_hits_of_ok (h : order.Perm (List.range (e.config.terms query).length))
    {found : List (List Record)} (ho : (e.lookups query).mapIdx outcome = found.map .ok) :
    (e.searchWith outcome order query).hits =
      .ok (rank (found.flatten.map fun r => ⟨r, score e.weights r (e.config.terms query)⟩)) := by
  rw [searchWith_hits h, ho, gather_map_ok]
  rfl

theorem searchWith_hits_of_error (h : order.Perm (List.range (e.config.terms query).length))
    {found : List (List Record)} {x : ε} {rest : List (Except ε (List Record))}
    (ho : (e.lookups query).mapIdx outcome = found.map .ok ++ .error x :: rest) :
    (e.searchWith outcome order query).hits = .error x := by
  rw [searchWith_hits h, ho, gather_of_error]
  rfl

/-- With a batch for every term the hits are ranked from the batches in the order of the terms. -/
theorem searchWith_hits_of_batches (h : order.Perm (List.range (e.config.terms query).length))
    {batch : Nat → String → List Record}
    (hok : ∀ i t, (e.config.terms query)[i]? = some t → outcome i ⟨t, e.config.perTermLimit⟩ = .ok (batch i t)) :
    (e.searchWith outcome order query).hits =
      .ok (rank (((e.config.terms query).mapIdx batch).flatten.map fun r =>
        ⟨r, score e.weights r (e.config.terms query)⟩)) := by
  apply searchWith_hits_of_ok h
  apply List.ext_getElem?
  intro i
  rw [List.getElem?_mapIdx, Engine.lookups, List.getElem?_map, List.getElem?_map, List.getElem?_mapIdx]
  cases ht : (e.config.terms query)[i]? with
  | none => rfl
  | some t => exact congrArg some (hok i t ht)

/-- Lookups in turn end with the first that fails. -/
theorem searchWith_lookups_in_turn : ((e.inMode false).searchWith outcome order query).lookups =
    (e.lookups query).take (madeInTurn ((e.lookups query).mapIdx outcome)) := rfl

/-- Where every lookup succeeds there is a batch for each of them. -/
theorem exists_batches (hall : ∀ i l, (e.lookups query)[i]? = some l → ∃ batch, outcome i l = .ok batch) :
    ∃ found : List (List Record), (e.lookups query).mapIdx outcome = found.map .ok ∧
      found.length = (e.lookups query).length := by
  rcases outcomes_cases ((e.lookups query).mapIdx outcome) with ⟨found, h⟩ | ⟨found, x, rest, h⟩
  · refine ⟨found, h, ?_⟩
    have := congrArg List.length h
    rwa [List.length_mapIdx, List.length_map, eq_comm] at this
  · exfalso
    have hx : ((e.lookups query).mapIdx outcome)[found.length]? = some (.error x) := by
      rw [h, List.getElem?_append_right (Nat.le_of_eq (List.length_map _)), List.length_map, Nat.sub_self]
      rfl
    rw [List.getElem?_mapIdx] at hx
    obtain ⟨l, hl, hx⟩ := Option.map_eq_some_iff.mp hx
    obtain ⟨batch, hb⟩ := hall _ l hl
    rw [hx] at hb
    cases hb

/-- The outcomes up to the first failure, where all lookups before it succeed. -/
theorem outcomes_of_first_failure {i : Nat} {l : Lookup} {x : ε} (hl : (e.lookups query)[i]? = some l)
    (hx : outcome i l = .error x)
    (hbefore : ∀ j < i, ∀ l', (e.lookups query)[j]? = some l' → ∃ batch, outcome j l' = .ok batch) :
    ∃ (found : List (List Record)) (rest : _), (e.lookups query).mapIdx outcome = found.map .ok ++ .error x :: rest ∧
      found.length = i := by
  have hfail : ((e.lookups query).mapIdx outcome)[i]? = some (.error x) := by
    rw [List.getElem?_mapIdx, hl, Option.map_some, hx]
  refine split_at_failure hfail fun j hj => ?_
  have hlt : j < (e.lookups query).length := Nat.lt_trans hj (List.getElem?_eq_some_iff.mp hl).1
  obtain ⟨batch, hb⟩ := hbefore j hj _ (List.getElem?_eq_getElem hlt)
  exact ⟨batch, by rw [List.getElem?_mapIdx, List.getElem?_eq_getElem hlt, Option.map_some, hb]⟩

/-- Whatever the order in which outcomes arrive, lookups made at once give what lookups in turn give: the same
    hits, or the failure that is first among the terms. At once all of them are made, in turn only those up to
    the first failure, and without terms none. -/
theorem search_at_once_eq_in_turn (e : Engine) (outcome : Nat → Lookup → Except ε (List Record)) (order : List Nat)
    (query : String) (h : order.Perm (List.range (e.config.terms query).length)) :
    let once := (e.inMode true).searchWith outcome order query
    let turn := (e.inMode false).searchWith outcome order query
    let lookups := (e.config.terms query).map fun t => Lookup.mk t e.config.perTermLimit
    once.hits = turn.hits ∧ once.lookups = lookups ∧
    ((∀ i l, lookups[i]? = some l → ∃ batch, outcome i l = .ok batch) →
      (∃ hits, once.hits = .ok hits ∧ turn.hits = .ok hits) ∧ turn.lookups = lookups) ∧
    (∀ i l x, lookups[i]? = some l → outcome i l = .error x →
      (∀ j < i, ∀ l', lookups[j]? = some l' → ∃ batch, outcome j l' = .ok batch) →
        once.hits = .error x ∧ turn.hits = .error x ∧ turn.lookups = lookups.take (i + 1)) ∧
    (query.isEmpty = true ∨ e.config.maxQueryLength < query.length ∨ Text.isBlankText query = true →
      once.lookups = [] ∧ turn.lookups = [] ∧ once.hits = .ok [] ∧ turn.hits = .ok []) := by
  intro once turn lookups
  have hhits : once.hits = turn.hits :=
    (searchWith_hits (e := e.inMode true) h).trans (searchWith_hits (e := e.inMode false) h).symm
  refine ⟨hhits, rfl, fun hall => ?_, fun i l x hl hx hbefore => ?_, fun hquery => ?_⟩
  · obtain ⟨found, ho, hlen⟩ := exists_batches hall
    have hok := searchWith_hits_of_ok (e := e.inMode false) h ho
    refine ⟨⟨_, hhits.trans hok, hok⟩, ?_⟩
    rw [searchWith_lookups_in_turn, ho, madeInTurn_map_ok, hlen]
    exact List.take_length
  · obtain ⟨found, rest, ho, hlen⟩ := outcomes_of_first_failure hl hx hbefore
    have herror := searchWith_hits_of_error (e := e.inMode false) h ho
    refine ⟨hhits.trans herror, herror, ?_⟩
    rw [searchWith_lookups_in_turn, show (e.lookups query).mapIdx outcome = _ from ho, madeInTurn_of_error, hlen]
    rfl
  · have hterms : e.config.terms query = [] := terms_eq_nil_iff.mpr hquery
    have hnone : lookups = [] := by rw [List.map_eq_nil_iff, hterms]
    have hok : turn.hits = .ok [] := by
      have ho : (e.lookups query).mapIdx outcome = ([] : List (List Record)).map .ok := by
        rw [show e.lookups query = [] from hnone]
        rfl
      rw [searchWith_hits_of_ok (e := e.inMode false) h ho]
      simp [rank, firstPerId]
    refine ⟨hnone, ?_, hhits.trans hok, hok⟩
    rw [searchWith_lookups_in_turn, show e.lookups query = [] from hnone, List.take_nil]

/-- Two of three lookups fail, and the later one of them is the first to arrive. -/
theorem search_second_and_third_fail :
    let outcome : Nat → Lookup → Except Nat (List Record) := fun i _ => if i = 0 then .ok [] else .error i
    let once := (({} : Engine).inMode true).searchWith outcome [2, 1, 0] "b A b"
    let turn := (({} : Engine).inMode false).searchWith outcome [2, 1, 0] "b A b"
    [2, 1, 0].Perm (List.range (({} : Config).terms "b A b").length) ∧
      once.hits = .error 1 ∧ turn.hits = .error 1 ∧
      once.lookups = [⟨"b", 3⟩, ⟨"a", 3⟩, ⟨"b", 3⟩] ∧ turn.lookups = [⟨"b", 3⟩, ⟨"a", 3⟩] := by
  intro outcome once turn
  have hterms : ({} : Config).terms "b A b" = ["b", "a", "b"] := by decide +kernel
  have h : [2, 1, 0].Perm (List.range (({} : Config).terms "b A b").length) := by
    rw [hterms]
    decide
  obtain ⟨-, honce, -, hfail, -⟩ := search_at_once_eq_in_turn {} outcome [2, 1, 0] "b A b" h
  rw [show ({} : Engine).config.terms "b A b" = _ from hterms] at honce hfail
  have hfirst : ∀ j < 1, ∀ l, [Lookup.mk "b" 3, ⟨"a", 3⟩, ⟨"b", 3⟩][j]? = some l →
      ∃ batch, outcome j l = .ok batch := fun j hj l _ => by
    obtain rfl : j = 0 := by omega
    exact ⟨[], rfl⟩
  obtain ⟨hx, hx', hturn⟩ := hfail 1 ⟨"a", 3⟩ 1 rfl rfl hfirst
  exact ⟨h, hx, hx', honce, hturn⟩

end Engine

end CodeAtlas.Search
