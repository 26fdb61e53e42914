import CodeAtlas.Proofs.Index.Committed
import CodeAtlas.Proofs.Search.Stored
import CodeAtlas.Proofs.Text.Pieces

/-! Whatever has been indexed is found again by its own keywords. The keywords are tags with commas between them, so that
    the lower case of a tag stands in that of the keywords, and every term of a search by the tag with it. -/

namespace CodeAtlas.Index

open Search Store Text Workspace

/-! ### Stores filled by indexers -/

/-- The store is in memory, no id stands in it twice, and every record has texts that an indexer has written. -/
structure Fills (w : Workspace) (m : Memory) : Prop where
  store : w.store = .memory m
  distinct : m.ids.Nodup
  committed : ∀ r ∈ m.records, ∃ c, Committed c r.texts

/-- Workspaces with a store in memory that was empty at first and that only indexers have written to, each with
    settings and models of its own. Between the runs anything may change but the store. -/
inductive Indexed : Workspace → Prop
  | start {w : Workspace} : w.store = .memory {} → Indexed w
  | run {w : Workspace} {μ : Type} (x : Indexer) (m : Models μ) (k : μ) (root : String) : Indexed w →
    Indexed (x.run (Session.means m) w.tree w.here root ⟨w, k⟩).2.workspace
  | change {w w' : Workspace} : Indexed w → w'.store = w.store → Indexed w'

section Fills
variable {w : Workspace} {m : Memory}

theorem nodup_ids_put {r : Record} (h : m.ids.Nodup) : (m.put r).ids.Nodup := by
  by_cases hr : r.id ∈ m.ids
  · rwa [Memory.ids_put_of_mem hr]
  · rw [Memory.ids_put_of_not_mem hr]
    refine List.nodup_append.mpr ⟨h, List.nodup_singleton _, fun a ha b hb hab => hr ?_⟩
    rwa [← List.mem_singleton.mp hb, ← hab]

theorem Fills.sameStore {v : Workspace} (h : Fills w m) (hsame : SameStore w v) : Fills v m :=
  ⟨hsame.store.trans h.store, h.distinct, h.committed⟩

theorem Fills.searchable (h : Fills w m) : ∀ r ∈ m.records, r.Searchable := by
  intro r hr
  obtain ⟨c, hc⟩ := h.committed r hr
  obtain ⟨keywords, hkeywords, -⟩ := hc.keywords
  obtain ⟨description, hdescription, -⟩ := hc.description
  have hk : r.keywords = some keywords := hkeywords
  have hd : r.description = some description := hdescription
  exact ⟨by rw [hk]; rfl, by rw [hd]; rfl⟩

theorem Fills.upsert {r : Record} {c : Config} (h : Fills w m) (hr : Committed c r.texts) :
    (∃ isNew, (w.upsert r).1 = .ok isNew) ∧ ∃ m', Fills (w.upsert r).2 m' := by
  obtain ⟨hanswer, hwritten⟩ := @upsert_in_memory w m r h.store
  refine ⟨⟨_, hanswer⟩, _, hwritten, ?_, fun y hy => ?_⟩
  · rw [Memory.upsert_eq]
    exact nodup_ids_put h.distinct
  · rw [Memory.upsert_eq] at hy
    rcases Memory.mem_records_put hy with rfl | hy
    · exact ⟨c, Memory.texts_stamped.symm ▸ hr⟩
    · exact h.committed y hy

end Fills

section Runs
variable {μ : Type} {x : Indexer} {m : Models μ} {t : FileTree} {here : Place} {s s' : Session μ} {stored : Memory}

theorem committed_of_answerTexts {id id' : String} {answer : Answer} {texts : Texts} {clock : Clock}
    (h : answerTexts x id answer = .ok texts) : Committed x.config (recordOf id' texts clock).texts := by
  unfold answerTexts at h
  cases hread : answer.read id with
  | error f =>
    rw [hread] at h
    cases h
  | ok summary =>
    rw [hread] at h
    dsimp only [Except.bind] at h
    exact committed_recordOf h

theorem Handles.fills {v : Visit} (h : Handles x m t here v s s') (hs : Fills s.workspace stored) :
    ∃ stored', Fills s'.workspace stored' := by
  cases h with
  | unreadable htext hmodel hsame => exact ⟨stored, hs.sameStore hsame⟩
  | declined htext hasked hskips hsame => exact ⟨stored, hs.sameStore hsame⟩
  | written htext hasked htexts hsame hwrite hsame' =>
    obtain ⟨-, stored', hfills⟩ := (hs.sameStore hsame).upsert (committed_of_answerTexts htexts)
    rw [hwrite] at hfills
    exact ⟨stored', hfills.sameStore hsame'⟩

theorem Stops.fills {p : Path} {f : Failure} (h : Stops x m t here p s f s') (hs : Fills s.workspace stored) :
    ∃ stored', Fills s'.workspace stored' := by
  cases h with
  | unresolved hreal => exact ⟨stored, hs⟩
  | failed hreal hkept htext hasked hskips hsame => exact ⟨stored, hs.sameStore hsame⟩
  | unusable hreal hkept htext hasked htexts hsame => exact ⟨stored, hs.sameStore hsame⟩
  | unwritten hreal hkept htext hasked htexts hsame hwrite =>
    -- A write in memory does not fail.
    obtain ⟨⟨isNew, hdone⟩, -⟩ := (hs.sameStore hsame).upsert (committed_of_answerTexts htexts)
    rw [hwrite] at hdone
    cases hdone

theorem Course.fills {visits : List Visit} (h : Course x m t here visits s s') :
    ∀ {stored : Memory}, Fills s.workspace stored → ∃ stored', Fills s'.workspace stored' := by
  induction h with
  | nil => exact fun hs => ⟨_, hs⟩
  | cons hv hrest ih =>
    intro stored hs
    obtain ⟨stored', hs'⟩ := hv.fills hs
    exact ih hs'

/-- A run leaves a store that indexers have filled, also when it fails. -/
theorem fills_run (x : Indexer) (m : Models μ) (t : FileTree) (here : Place) (root : String) (s : Session μ)
    (hs : Fills s.workspace stored) :
    ∃ stored', Fills (x.run (Session.means m) t here root s).2.workspace stored' := by
  rcases run_cases x m t here root s with ⟨fault, -, hrun⟩ |
    ⟨files, -, ⟨visits, s', hrun, hwalk⟩ | ⟨before, p, after, visits, s₁, f, s', -, hrun, hwalk, hstop⟩⟩
  · rw [hrun]
    exact ⟨stored, hs⟩
  · rw [hrun]
    exact hwalk.course.fills hs
  · rw [hrun]
    obtain ⟨stored', hs'⟩ := hwalk.course.fills hs
    exact hstop.fills hs'

end Runs

theorem Indexed.fills {w : Workspace} (h : Indexed w) : ∃ m, Fills w m := by
  induction h with
  | start hempty => exact ⟨{}, hempty, List.nodup_nil, fun r hr => by cases hr⟩
  | @run w μ x m k root hw ih =>
    obtain ⟨stored, hs⟩ := ih
    exact fills_run x m w.tree w.here root ⟨w, k⟩ hs
  | change hw hstore ih =>
    obtain ⟨stored, hs⟩ := ih
    exact ⟨stored, hstore.trans hs.store, hs.distinct, hs.committed⟩

/-! ### Searching by a tag -/

/-- What is trimmed and not empty is not blank. -/
theorem isBlankText_trim {s : String} (h : trim s ≠ "") : isBlankText (trim s) = false := by
  rw [Bool.eq_false_iff, ne_eq, ← trim_eq_empty_iff, trim_trim]
  exact h

variable {config : Search.Config} {part keywords : String}

theorem terms_trim_ne_nil (hpart : trim part ≠ "") (hlength : (trim part).length ≤ config.maxQueryLength) :
    config.terms (trim part) ≠ [] := by
  intro hnil
  rcases terms_eq_nil_iff.mp hnil with hempty | hlong | hblank
  · exact hpart (String.isEmpty_iff.mp hempty)
  · omega
  · rw [isBlankText_trim hpart] at hblank
    cases hblank

/-- The terms of a search by a tag stand in the lower case of the keywords. -/
theorem term_within_of_mem_commaParts (hpart : part ∈ commaParts keywords) {t : String}
    (ht : t ∈ config.terms (trim part)) : t.toList <:+: (lower keywords).toList := by
  unfold Search.Config.terms at ht
  split at ht
  · cases ht
  · have hword := words_within ht
    rw [lower, String.toList_ofList] at hword ⊢
    exact hword.trans (lowerChars_trim_within hpart)

/-- Whatever indexers have written to a store in memory, a search by one of a record's own tags looks for terms that all
    stand in its keywords. It gives the record, with at least four points for every term, unless as many records as a
    term may contribute stand before it for each of the terms. -/
theorem search_finds_tags (w : Workspace) (h : Indexed w) : ∃ m, w.store = .memory m ∧
    ∀ (config : Search.Config) (notesScores : Bool) (i : Nat) (r : Record), m.records[i]? = some r →
      ∃ keywords, r.keywords = some keywords ∧
        ∀ part ∈ commaParts keywords, (trim part).length ≤ config.maxQueryLength →
          let terms := config.terms (trim part)
          terms ≠ [] ∧ (∀ t ∈ terms, t.toList <:+: (lower keywords).toList) ∧
          ∀ order, order.Perm (List.range terms.length) → ∃ hits,
            (({ config, notesScores } : Engine).searchWith (fun _ l => w.answer l.term l.limit) order
              (trim part)).hits = .ok hits ∧
            ((∃ t ∈ terms, ((m.records.take i).countP fun r => Matches t r) < config.perTermLimit) →
              ∃ hit ∈ hits, hit.record = r ∧ 4 * (terms.length : Int) ≤ hit.score) := by
  obtain ⟨m, hfills⟩ := h.fills
  refine ⟨m, hfills.store, fun config notesScores i r hr => ?_⟩
  obtain ⟨c, hcommitted⟩ := hfills.committed r (List.mem_of_getElem? hr)
  obtain ⟨keywords, hkeywords, -, -, hparts, -⟩ := hcommitted.keywords
  have hk : r.keywords = some keywords := hkeywords
  refine ⟨keywords, hk, fun part hpart hlength => ?_⟩
  intro terms
  have hwithin : ∀ t ∈ terms, t.toList <:+: (lower keywords).toList := fun t ht => term_within_of_mem_commaParts hpart ht
  refine ⟨terms_trim_ne_nil (hparts part hpart) hlength, hwithin, fun order horder => ?_⟩
  have hin : ∀ t ∈ terms, InKeywords t r := by
    intro t ht
    have := hwithin t ht
    rw [lower, String.toList_ofList] at this
    rw [InKeywords, folded, hk]
    exact this
  obtain ⟨hits, hhits, hanswers⟩ :=
    answers_in_memory hfills.store hfills.distinct hfills.searchable config notesScores horder
  refine ⟨hits, hhits, ?_⟩
  rintro ⟨t, ht, hroom⟩
  have hmem : r ∈ hits.map Scored.record := (hanswers.found i r hr).mpr ⟨t, ht, Or.inl (hin t ht), hroom⟩
  obtain ⟨hit, hhit, hrecord⟩ := List.mem_map.mp hmem
  refine ⟨hit, hhit, hrecord, ?_⟩
  rw [(hanswers.scores hit hhit).1, hrecord]
  exact four_mul_length_le_sum hin

/-- A file is indexed with two tags, and a search by the second one finds it. -/
theorem search_finds_oneFile :
    let w := (Indexer.run {} (Session.means saysTheSame) oneFile.tree oneFile.here "a.py" ⟨oneFile, ()⟩).2.workspace
    Indexed w ∧ commaParts "A, b" = ["A", " b"] ∧ ∃ m r, w.store = .memory m ∧ m.records = [r] ∧
      r.texts = ⟨some "/a.py", some "outline", some "Says x.", some "A, b"⟩ ∧
      ∃ hits, (({} : Engine).searchWith (fun _ l => w.answer l.term l.limit) [0] "b").hits = .ok hits ∧
        ∃ hit ∈ hits, hit.record = r ∧ 4 ≤ hit.score := by
  intro w
  have hw : Indexed w := (Indexed.start rfl).run {} saysTheSame () "a.py"
  obtain ⟨m, hstore, hfinds⟩ := search_finds_tags w hw
  have hsaid : w.texts = [⟨some "/a.py", some "outline", some "Says x.", some "A, b"⟩] := rfl
  rw [Workspace.texts, hstore] at hsaid
  obtain ⟨r, hrecords, htexts⟩ := List.map_eq_singleton_iff.mp hsaid
  obtain ⟨keywords, hkeywords, htags⟩ := hfinds {} true 0 r (by rw [hrecords]; rfl)
  obtain rfl : keywords = "A, b" := by
    have : r.keywords = some "A, b" := congrArg CodeAtlas.Texts.keywords htexts
    exact Option.some.inj (hkeywords.symm.trans this)
  have hterms : ({} : Search.Config).terms (trim " b") = ["b"] := by decide +kernel
  obtain ⟨-, -, hsearch⟩ := htags " b" (by decide) (by decide)
  rw [hterms] at hsearch
  obtain ⟨hits, hhits, hfound⟩ := hsearch [0] (List.Perm.refl _)
  refine ⟨hw, by decide, m, r, hstore, hrecords, htexts, hits, hhits, ?_⟩
  obtain ⟨hit, hhit, hrecord, hscore⟩ := hfound ⟨"b", List.mem_singleton_self _, by simp⟩
  exact ⟨hit, hhit, hrecord, by simpa using hscore⟩

end CodeAtlas.Index
