import CodeAtlas.Proofs.Search.Agreement
import CodeAtlas.Proofs.Text.Sigmas

/-! What stands in a record letter by letter, and whether it finds the record. Lower case is made of the record and of
    what is looked for apart from one another, and still they match, unless a sigma ends a word in one of them only. -/

namespace CodeAtlas

open Search Store Text

variable {w : Workspace} {l : List Texts} {x : Texts} {s : String}

namespace Texts

/-- The text stands in the keywords or the description, and there its sigmas end words as they do in it alone. -/
def Shows (x : Texts) (s : String) : Prop :=
  ∃ text before after, (x.keywords = some text ∨ x.description = some text) ∧
    text.toList = before ++ (s.toList ++ after) ∧ SigmasAgree before s.toList after

theorem holds_of_shows (h : x.Shows s) : x.holds s = true := by
  obtain ⟨text, before, after, htext, hsplit, hsigmas⟩ := h
  have hcontains : containsTerm text s = true := by
    rw [containsTerm, hsplit]
    exact occursIn_iff.mpr hsigmas.lowerChars_within
  rw [holds, Bool.or_eq_true]
  rcases htext with htext | htext
  · exact Or.inl (by rwa [htext])
  · exact Or.inr (by rwa [htext])

/-- What is looked for may be in lower case already. -/
theorem holds_lower : x.holds (lower s) = x.holds s := by
  unfold holds containsTerm
  rw [lower, String.toList_ofList, lowerChars_lowerChars]

theorem mem_find {term : String} {limit : Nat} (hx : x ∈ l) (hholds : x.holds term = true) (hlimit : l.length ≤ limit) :
    x ∈ find l term limit := by
  rw [find, List.take_of_length_le ((List.length_filter_le _ _).trans hlimit)]
  exact List.mem_filter.mpr ⟨hx, hholds⟩

end Texts

namespace Search

/-! ### Words -/

/-- A query without blanks is one term. -/
theorem terms_of_word {c : Config} (hs : s ≠ "") (hlength : s.length ≤ c.maxQueryLength)
    (hblank : ∀ d ∈ s.toList, isBlank d = false) : c.terms s = [lower s] := by
  have hwords : words s = [s] := by
    rw [words, wordsChars_of_not (fun hnil => hs (String.toList_eq_nil_iff.mp hnil)) hblank, List.map_singleton,
      String.ofList_toList]
  rw [terms_of_length hs hlength, hwords, List.map_singleton]

/-! ### Hits -/

/-- A copy that is the only one with its id is kept. -/
theorem mem_rank_of_only {retrieved : List Scored} {c : Scored} (hc : c ∈ retrieved)
    (honly : ∀ d ∈ retrieved, d.id = c.id → d = c) : c ∈ rank retrieved := by
  obtain ⟨kept, hranks, hrank⟩ := @isRanking_rank retrieved
  obtain ⟨d, hd, hid⟩ := List.mem_map.mp ((hranks.ids c.id).mpr (List.mem_map_of_mem hc))
  have hsame : d.1 = c := honly d.1 (List.mem_of_getElem? (hranks.copies d hd)) hid
  rw [hrank]
  exact List.mem_map.mpr ⟨d, hd, hsame⟩

theorem mem_hitsIn {e : Engine} {query : String} {t : String} (hx : x ∈ l) (honly : ∀ y ∈ l, y.id = x.id → y = x)
    (ht : t ∈ e.config.terms query) (hholds : x.holds t = true) (hlimit : l.length ≤ e.config.perTermLimit) :
    (x, score e.weights (timeless x) (e.config.terms query)) ∈ hitsIn l e query := by
  refine List.mem_map.mpr ⟨⟨timeless x, score e.weights (timeless x) (e.config.terms query)⟩, ?_, rfl⟩
  refine mem_rank_of_only (List.mem_map.mpr ⟨x, ?_, rfl⟩) fun d hd hid => ?_
  · exact List.mem_flatMap.mpr ⟨t, ht, Texts.mem_find hx hholds hlimit⟩
  · obtain ⟨y, hy, rfl⟩ := List.mem_map.mp hd
    obtain ⟨u, -, hfound⟩ := List.mem_flatMap.mp hy
    have hmem : y ∈ l := (List.mem_filter.mp (List.mem_of_mem_take hfound)).1
    rw [honly y hmem hid]

theorem two_le_score {t : String} {terms : List String} (ht : t ∈ terms) (hlower : lowerChars t.toList = t.toList)
    (hholds : x.holds t = true) : 2 ≤ score {} (timeless x) terms := by
  rw [score_eq_sum]
  refine two_le_sum ht ?_
  have := holds_eq (r := timeless x) hlower
  exact of_decide_eq_true (this.symm.trans hholds)

/-! ### Finding what is shown -/

open Workspace

/-- A record whose keywords or description show a text is one that the text matches. A look-up with a large enough limit
    gives it; and if the text is one word and not too long for a query, so does a search by the usual weights, with a
    positive score, where as many records as there are may come of one term. -/
theorem finds_shown (hsaid : SaysInMemory w l ∨ SaysInDatabase w l) (hx : x ∈ l) (hshows : x.Shows s) :
    x.holds s = true ∧
      (∀ limit : Nat, l.length ≤ limit → SaysInMemory w l ∨ limit < 2 ^ 63 →
        ∃ rs, w.answer s limit = .ok rs ∧ x ∈ rs.map Record.texts) ∧
      ((∀ y ∈ l, y.id = x.id → y = x) → s ≠ "" → (∀ c ∈ s.toList, isBlank c = false) →
        ∀ e : Engine, e.weights = {} → s.length ≤ e.config.maxQueryLength → l.length ≤ e.config.perTermLimit →
        SaysInMemory w l ∨ e.config.perTermLimit < 2 ^ 63 →
        ∀ order, order.Perm (List.range (e.config.terms s).length) → ∃ hits,
          (e.searchWith (fun _ l => w.answer l.term l.limit) order s).hits = .ok hits ∧
          ∃ hit ∈ hits, hit.record.texts = x ∧ 0 < hit.score) := by
  have hholds := Texts.holds_of_shows hshows
  have hanswer : ∀ (term : String) (limit : Nat), SaysInMemory w l ∨ limit < 2 ^ 63 →
      ∃ rs, w.answer term limit = .ok rs ∧ rs.map Record.texts = Texts.find l term limit := by
    rintro term limit (hmemory | hfits)
    · exact exists_answer_in_memory hmemory term limit
    · rcases hsaid with hmemory | hdatabase
      · exact exists_answer_in_memory hmemory term limit
      · exact exists_answer_in_database hdatabase term hfits
  refine ⟨hholds, fun limit hlimit hfits => ?_, fun honly hs hblank e hweights hlength hlimit hfits order horder => ?_⟩
  · obtain ⟨rs, hrs, htexts⟩ := hanswer s limit hfits
    exact ⟨rs, hrs, htexts ▸ Texts.mem_find hx hholds hlimit⟩
  · have hterm : lower s ∈ e.config.terms s := by
      rw [terms_of_word hs hlength hblank]
      exact List.mem_singleton_self _
    have hholds' : x.holds (lower s) = true := Texts.holds_lower.trans hholds
    obtain ⟨hits, hhits, hplain⟩ := exists_hits horder fun t _ => hanswer t e.config.perTermLimit hfits
    have hmem := mem_hitsIn hx honly hterm hholds' hlimit
    rw [← hplain] at hmem
    obtain ⟨hit, hhit, heq⟩ := List.mem_map.mp hmem
    obtain ⟨htexts, hscore⟩ := Prod.mk.inj heq
    refine ⟨hits, hhits, hit, hhit, htexts, ?_⟩
    rw [hscore, hweights]
    exact Int.lt_of_lt_of_le (by decide) (two_le_score hterm (lowerChars_of_mem_terms hterm) hholds')

/-- The last word of the keywords ends in a sigma, and the description has an `İ`. -/
def sigmaCard : Record := { card "x" "" "ΑΣΑ, ΑΣ" with description := some "aİb" }

theorem isWhole_sigmaCard : sigmaCard.IsWhole := ⟨⟨rfl, rfl⟩, rfl, rfl⟩

theorem newShelf_finds_shown :
    let w := (newShelf.askAll [.upsert {} sigmaCard isUtc_start isWhole_sigmaCard]).2
    (∃ rs, w.answer "İb" 1 = .ok rs ∧ sigmaCard.texts ∈ rs.map Record.texts) ∧
      ∃ hits, (({} : Engine).searchWith (fun _ l => w.answer l.term l.limit) [0] "ΑΣ").hits = .ok hits ∧
        ∃ hit ∈ hits, hit.record.texts = sigmaCard.texts ∧ 0 < hit.score := by
  intro w
  have hsaid : SaysInDatabase w [sigmaCard.texts] :=
    (askAll_eq (fun w l q => @saysInDatabase_ask w l q) _ newShelf [] fresh_newShelf.saysInDatabase).2
  have hdotted : sigmaCard.texts.Shows "İb" := ⟨"aİb", ['a'], [], Or.inr rfl, by decide,
    sigmasAgree_of_not_mem (by decide) _ _⟩
  have hsigma : sigmaCard.texts.Shows "ΑΣ" := ⟨"ΑΣΑ, ΑΣ", "ΑΣΑ, ".toList, [], Or.inl rfl, by decide,
    sigmasAgree_of_borders (fun c hc => isBorder_of_isBlank (by
      obtain rfl : ' ' = c := by simpa using hc
      rfl)) (by simp) _⟩
  have honly : ∀ y ∈ [sigmaCard.texts], y.id = sigmaCard.texts.id → y = sigmaCard.texts :=
    fun y hy _ => List.mem_singleton.mp hy
  have hterms : ({} : Config).terms "ΑΣ" = ["ας"] := by decide +kernel
  obtain ⟨-, hfind, -⟩ := finds_shown (Or.inr hsaid) (List.mem_singleton_self _) hdotted
  obtain ⟨-, -, hsearch⟩ := finds_shown (Or.inr hsaid) (List.mem_singleton_self _) hsigma
  exact ⟨hfind 1 (by decide) (Or.inr (by decide)),
    hsearch honly (by decide) (by simp [isBlank]) {} rfl (by decide) (by decide) (Or.inr (by decide)) [0]
      (by rw [show ({} : Engine).config.terms "ΑΣ" = ["ας"] from hterms]; exact List.Perm.refl _)⟩

/-- A sigma at the end of what is looked for ends a word there, and in the record it does not. -/
theorem exists_part_not_found :
    let qs := [writeCard "x" "" "ΑΣΑ", .find "ΑΣ" 1 (by decide)]
    "ΑΣ".toList <:+: "ΑΣΑ".toList ∧ (newShelf.askAll qs).1 = [.ok (.wrote true), .ok (.found [])] ∧
      (askAll {} qs).1 = [.ok (.wrote true), .ok (.found [])] := by
  intro qs
  have hanswers : (Texts.answers [] qs).1 = [.wrote true, .found []] := by decide +kernel
  have hdatabase := askAll_eq (fun w l q => @saysInDatabase_ask w l q) qs newShelf [] fresh_newShelf.saysInDatabase
  have hmemory := askAll_eq (fun w l q => @saysInMemory_ask w l q) qs {} [] ⟨{}, rfl, rfl, fun r hr => by cases hr⟩
  exact ⟨by decide, hdatabase.1.trans (congrArg _ hanswers), hmemory.1.trans (congrArg _ hanswers)⟩

end Search

end CodeAtlas
