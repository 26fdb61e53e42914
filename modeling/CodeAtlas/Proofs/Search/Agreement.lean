import CodeAtlas.Proofs.Search.Stored
import CodeAtlas.Proofs.Store.Agreement

/-! Searching either kind of store. The hits of a search, but for the times of their records, follow from what the store
    says, so that after the same writes they are the same in a database and in memory. Only in one thing do the searches
    differ: a database does not take a limit of more than 63 bits. -/

namespace CodeAtlas

open Store

/-! ### Answers -/

theorem Database.find_of_large_limit (table : Table) (term : String) {limit : Nat} (hlimit : 2 ^ 63 ≤ limit) :
    find (some table) (some term) limit = .error .limitTooLarge := by
  have hlarge : ¬(limit : Int) < 2 ^ 63 := by exact_mod_cast Nat.not_lt.mpr hlimit
  have hunfit : fitsWord limit = false := by rw [fitsWord, decide_eq_false hlarge, Bool.and_false]
  unfold find
  dsimp only
  rw [if_neg (by rw [hunfit]; exact Bool.false_ne_true)]

namespace Workspace

variable {w : Workspace} {l : List Texts}

theorem exists_answer_in_memory (h : SaysInMemory w l) (term : String) (limit : Nat) :
    ∃ rs, w.answer term limit = .ok rs ∧ rs.map Record.texts = Texts.find l term limit := by
  obtain ⟨m, hstore, rfl, hsearchable⟩ := h
  refine ⟨_, answer_in_memory hstore hsearchable term limit, ?_⟩
  rw [Texts.find, Memory.texts, List.filter_map, ← List.map_take]
  rfl

theorem exists_answer_in_database (h : SaysInDatabase w l) (term : String) {limit : Nat} (hlimit : limit < 2 ^ 63) :
    ∃ rs, w.answer term limit = .ok rs ∧ rs.map Record.texts = Texts.find l term limit := by
  obtain ⟨path, place, table, hkeeps, rfl, htimed⟩ := h
  obtain ⟨rs, hrs, htexts⟩ := @Database.find_of_timed _ term _ htimed hlimit
  exact ⟨rs, by rw [answer, hkeeps.find_eq, hrs], htexts⟩

/-- A limit of more than 63 bits is not looked up with. -/
theorem answer_of_large_limit (h : SaysInDatabase w l) (term : String) {limit : Nat} (hlimit : 2 ^ 63 ≤ limit) :
    w.answer term limit = .error .limitTooLarge := by
  obtain ⟨path, place, table, hkeeps, -, -⟩ := h
  rw [answer, hkeeps.find_eq, Database.find_of_large_limit table term hlimit]

end Workspace

namespace Search

open Workspace

/-! ### What of a hit depends on the store -/

/-- A hit without the times of its record. -/
def Scored.plain (s : Scored) : Texts × Int := (s.record.texts, s.score)

/-- A record that says what it is to say, at no time in particular. -/
def timeless (x : Texts) : Record := ⟨x.id, x.content, x.description, x.keywords, ({} : Clock).start, ({} : Clock).start⟩

/-- A copy with its times made alike. -/
def Scored.settled (p : Texts × Int) : Scored := ⟨timeless p.1, p.2⟩

theorem plain_settled (p : Texts × Int) : (Scored.settled p).plain = p := rfl

theorem map_firstPerId {f : Scored → Scored} (hf : ∀ s, (f s).id = s.id) : ∀ (seen : List (Option String))
    (l : List Scored), (firstPerId seen l).map f = firstPerId seen (l.map f)
  | _, [] => rfl
  | seen, s :: rest => by
    rw [List.map_cons, firstPerId, firstPerId, hf]
    split
    · exact map_firstPerId hf seen rest
    · rw [List.map_cons, map_firstPerId hf]

/-- Ranking looks at nothing but ids and scores. -/
theorem map_rank {f : Scored → Scored} (hid : ∀ s, (f s).id = s.id) (hscore : ∀ s, (f s).score = s.score)
    (l : List Scored) : (rank l).map f = rank (l.map f) := by
  have hbefore : ∀ a ∈ l, ∀ b ∈ l, Scored.before a b = Scored.before (f a) (f b) := by
    intro a _ b _
    rw [Scored.before, Scored.before, hscore, hscore]
  rw [rank, rank, map_firstPerId hid, List.map_mergeSort hbefore]

/-- Copies that differ in times alone are ranked alike. -/
theorem plain_rank {l l' : List Scored} (h : l.map Scored.plain = l'.map Scored.plain) :
    (rank l).map Scored.plain = (rank l').map Scored.plain := by
  have hsettle : ∀ l : List Scored,
      (rank l).map Scored.plain = (rank ((l.map Scored.plain).map Scored.settled)).map Scored.plain := by
    intro l
    have hrank := @map_rank (fun s => Scored.settled s.plain) (fun _ => rfl) (fun _ => rfl) l
    rw [List.map_map]
    refine Eq.trans ?_ (congrArg (List.map Scored.plain) hrank)
    rw [List.map_map]
    exact List.map_congr_left fun s _ => (plain_settled s.plain).symm
  rw [hsettle l, hsettle l', h]

/-- The hits, without times, that follow from what a store says. -/
def hitsIn (l : List Texts) (e : Engine) (query : String) : List (Texts × Int) :=
  let terms := e.config.terms query
  (rank ((terms.flatMap fun t => Texts.find l t e.config.perTermLimit).map fun x =>
    ⟨timeless x, score e.weights (timeless x) terms⟩)).map Scored.plain

/-! ### Searches -/

variable {w v : Workspace} {e : Engine} {query : String} {order : List Nat} {l : List Texts}

/-- A store that answers every term by what it says gives the hits that follow from that. -/
theorem exists_hits (h : order.Perm (List.range (e.config.terms query).length))
    (hanswer : ∀ t ∈ e.config.terms query, ∃ rs, w.answer t e.config.perTermLimit = .ok rs ∧
      rs.map Record.texts = Texts.find l t e.config.perTermLimit) :
    ∃ hits, (e.searchWith (fun _ l => w.answer l.term l.limit) order query).hits = .ok hits ∧
      hits.map Scored.plain = hitsIn l e query := by
  have hbatches : ∀ t, ∃ rs, t ∈ e.config.terms query → w.answer t e.config.perTermLimit = .ok rs ∧
      rs.map Record.texts = Texts.find l t e.config.perTermLimit := by
    intro t
    by_cases ht : t ∈ e.config.terms query
    · obtain ⟨rs, hrs⟩ := hanswer t ht
      exact ⟨rs, fun _ => hrs⟩
    · exact ⟨[], fun h => absurd h ht⟩
  choose batch hbatch using hbatches
  refine ⟨_, Engine.searchWith_hits_of_find (fun t limit => w.answer t limit) h fun t ht => (hbatch t ht).1, ?_⟩
  apply plain_rank
  have hall : ((e.config.terms query).flatMap batch).map Record.texts =
      (e.config.terms query).flatMap fun t => Texts.find l t e.config.perTermLimit := by
    rw [List.map_flatMap]
    exact List.flatMap_congr fun t ht => (hbatch t ht).2
  rw [← hall, List.map_map, List.map_map, List.map_map]
  exact List.map_congr_left fun r _ => rfl

/-- Where no term can be looked up, the first one ends the search. -/
theorem hits_of_failure {x : Failure} (h : order.Perm (List.range (e.config.terms query).length))
    (hterms : e.config.terms query ≠ []) (hanswer : ∀ t, w.answer t e.config.perTermLimit = .error x) :
    (e.searchWith (fun _ l => w.answer l.term l.limit) order query).hits = .error x := by
  obtain ⟨t, rest, hcons⟩ := List.exists_cons_of_ne_nil hterms
  have houtcomes : (e.lookups query).mapIdx (fun _ l => w.answer l.term l.limit) =
      [].map Except.ok ++ .error x :: rest.map fun t => w.answer t e.config.perTermLimit := by
    rw [Engine.lookups, hcons, List.map_cons, List.mapIdx_cons, List.map_nil, List.nil_append, hanswer]
    refine congrArg _ (List.ext_getElem? fun i => ?_)
    rw [List.getElem?_mapIdx, List.getElem?_map, List.getElem?_map]
    cases rest[i]? <;> rfl
  exact Engine.searchWith_hits_of_error h houtcomes

/-- After the same requests a search of a database that was fresh gives the same hits as one of a store in memory that was
    empty, as long as a term may contribute less than 2 ^ 63 records. With a larger limit the search in memory goes on
    as ever, and a search of the database that has a term to look up fails. -/
theorem search_agrees_below_limit (w v : Workspace) (path : Path) (hw : w.Fresh path) (hv : v.store = .memory {})
    (qs : List Request) (e : Engine) (query : String) (order : List Nat)
    (h : order.Perm (List.range (e.config.terms query).length)) :
    let search := fun w : Workspace => (e.searchWith (fun _ l => w.answer l.term l.limit) order query).hits
    ∃ hits, search (v.askAll qs).2 = .ok hits ∧
      (e.config.terms query = [] ∨ e.config.perTermLimit < 2 ^ 63 →
        ∃ found, search (w.askAll qs).2 = .ok found ∧ found.map Scored.plain = hits.map Scored.plain) ∧
      (e.config.terms query ≠ [] → 2 ^ 63 ≤ e.config.perTermLimit →
        search (w.askAll qs).2 = .error .limitTooLarge) := by
  intro search
  have hempty : SaysInMemory v [] := ⟨{}, hv, rfl, fun r hr => by cases hr⟩
  obtain ⟨-, hmemory⟩ := askAll_eq (fun w l q => @saysInMemory_ask w l q) qs v [] hempty
  obtain ⟨-, hdatabase⟩ := askAll_eq (fun w l q => @saysInDatabase_ask w l q) qs w [] hw.saysInDatabase
  obtain ⟨hits, hhits, hplain⟩ := exists_hits h fun t _ => exists_answer_in_memory hmemory t e.config.perTermLimit
  refine ⟨hits, hhits, fun hlimit => ?_, fun hterms hlarge => ?_⟩
  · have hanswer : ∀ t ∈ e.config.terms query, ∃ rs, (w.askAll qs).2.answer t e.config.perTermLimit = .ok rs ∧
        rs.map Record.texts = Texts.find (Texts.answers [] qs).2 t e.config.perTermLimit := by
      intro t ht
      rcases hlimit with hnone | hsmall
      · rw [hnone] at ht
        cases ht
      · exact exists_answer_in_database hdatabase t hsmall
    obtain ⟨found, hfound, hsame⟩ := exists_hits h hanswer
    exact ⟨found, hfound, hsame.trans hplain.symm⟩
  · exact hits_of_failure h hterms fun t => answer_of_large_limit hdatabase t hlarge

/-- An engine with a limit that does not fit a word of 64 bits. -/
def unboundedEngine : Engine := { config := { perTermLimit := 2 ^ 63 } }

/-- One card is found in memory with any limit, and in a database with a small one. -/
theorem search_newShelf_by_limit :
    let qs := [writeCard "x" "" "a"]
    let search := fun (e : Engine) (w : Workspace) =>
      (e.searchWith (fun _ l => (w.askAll qs).2.answer l.term l.limit) [0] "A").hits
    (∃ hits found, search {} {} = .ok hits ∧ search {} newShelf = .ok found ∧
      hits.map Scored.plain = [((card "x" "" "a").texts, 4)] ∧ found.map Scored.plain = hits.map Scored.plain) ∧
    (∃ hits, search unboundedEngine {} = .ok hits) ∧ search unboundedEngine newShelf = .error .limitTooLarge := by
  intro qs search
  have hterms : ({} : Config).terms "A" = ["a"] := by decide +kernel
  have hmany : unboundedEngine.config.terms "A" = ["a"] := by decide +kernel
  have horder : [0].Perm (List.range (({} : Config).terms "A").length) := by
    rw [hterms]
    exact List.Perm.refl _
  have horder' : [0].Perm (List.range (unboundedEngine.config.terms "A").length) := by
    rw [hmany]
    exact List.Perm.refl _
  obtain ⟨hits, hhits, hsmall, -⟩ :=
    search_agrees_below_limit newShelf {} shelf fresh_newShelf rfl qs {} "A" [0] horder
  obtain ⟨found, hfound, hsame⟩ := hsmall (Or.inr (by decide))
  obtain ⟨hits', hhits', -, hlarge⟩ :=
    search_agrees_below_limit newShelf {} shelf fresh_newShelf rfl qs unboundedEngine "A" [0] horder'
  refine ⟨⟨hits, found, hhits, hfound, ?_, hsame⟩, ⟨hits', hhits'⟩, ?_⟩
  · have hcard : (({} : Engine).searchWith (fun _ l =>
        (Workspace.askAll {} [writeCard "x" "" "a"]).2.answer l.term l.limit) [0] "A").hits =
        .ok [⟨card "x" "" "a", 4⟩] := by cbv
    obtain rfl := Except.ok.inj (hhits.symm.trans hcard)
    rfl
  · exact hlarge (by rw [hmany]; exact List.cons_ne_nil _ _) (Nat.le_refl _)

/-- The searches do not agree whatever the limit is. -/
theorem exists_search_only_in_memory : ¬∀ (qs : List Request) (e : Engine) (query : String) (order : List Nat),
    order.Perm (List.range (e.config.terms query).length) → ∃ found hits : List Scored,
      (e.searchWith (fun _ l => (newShelf.askAll qs).2.answer l.term l.limit) order query).hits = .ok found ∧
      (e.searchWith (fun _ l => (Workspace.askAll {} qs).2.answer l.term l.limit) order query).hits = .ok hits ∧
      found.map Scored.plain = hits.map Scored.plain := by
  intro hall
  have hterms : unboundedEngine.config.terms "a" = ["a"] := by decide +kernel
  have horder : [0].Perm (List.range (unboundedEngine.config.terms "a").length) := by
    rw [hterms]
    exact List.Perm.refl _
  obtain ⟨found, -, hfound, -⟩ := hall [writeCard "x" "" "a"] unboundedEngine "a" [0] horder
  have hsays : SaysInDatabase (newShelf.askAll [writeCard "x" "" "a"]).2 [(card "x" "" "a").texts] :=
    (askAll_eq (fun w l q => @saysInDatabase_ask w l q) _ newShelf [] fresh_newShelf.saysInDatabase).2
  have hfails := hits_of_failure horder (by rw [hterms]; exact List.cons_ne_nil _ _) fun t =>
    answer_of_large_limit hsays t (Nat.le_refl (2 ^ 63))
  rw [hfails] at hfound
  cases hfound

end Search

end CodeAtlas
