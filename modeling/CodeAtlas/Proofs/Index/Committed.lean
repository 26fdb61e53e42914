import CodeAtlas.Proofs.Index.Keywords
import CodeAtlas.Proofs.Index.Run

/-! What can be in a store that only an indexer writes to. Whatever the models answer and however the runs end, every
    record in it has texts in their normal form, and goes by the real path of a file that was to be indexed. -/

namespace CodeAtlas.Index

open Text

/-! ### Texts in their normal form -/

/-- There is a text, and it is trimmed and not empty. -/
def IsTrimmed (text : Option String) : Prop := ∃ s, text = some s ∧ s ≠ "" ∧ trim s = s

/-- There are keywords. Their parts are no more than allowed, none of them is blank and none stands twice, and to
    normalize them changes nothing. -/
def IsNormal (limit : Nat) (keywords : Option String) : Prop :=
  ∃ s, keywords = some s ∧ 1 ≤ (commaParts s).length ∧ (commaParts s).length ≤ limit ∧
    (∀ part ∈ commaParts s, trim part ≠ "") ∧ ((commaParts s).map fun part => lower (trim part)).Nodup ∧
    normalizeKeywords s limit = s

structure Committed (c : Config) (y : CodeAtlas.Texts) : Prop where
  content : IsTrimmed y.content
  description : IsTrimmed y.description
  keywords : IsNormal c.maxKeywords y.keywords

theorem isTrimmed_trim {s : String} (h : (trim s).isEmpty = false) : IsTrimmed (some (trim s)) := by
  refine ⟨trim s, rfl, fun hempty => ?_, trim_trim s⟩
  rw [hempty] at h
  cases h

theorem isNormal_normalizeKeywords {raw : String} {limit : Nat} (h : (normalizeKeywords raw limit).isEmpty = false) :
    IsNormal limit (some (normalizeKeywords raw limit)) := by
  have hne : normalizeKeywords raw limit ≠ "" := fun hempty => by
    rw [hempty] at h
    cases h
  have hparts := map_trim_commaParts_normalizeKeywords hne
  have hlength : (commaParts (normalizeKeywords raw limit)).length = (Index.tags raw limit).length := by
    rw [← hparts, List.length_map]
  refine ⟨_, rfl, ?_, ?_, fun part hpart => ?_, ?_, normalizeKeywords_normalizeKeywords raw limit⟩
  · rw [hlength]
    exact List.length_pos_iff.mpr (tags_ne_nil hne)
  · rw [hlength]
    exact length_tags_le raw limit
  · have htag : trim part ∈ Index.tags raw limit := hparts ▸ List.mem_map_of_mem hpart
    exact (isTag_of_mem_tags htag).ne_empty
  · have hnodup := nodup_tags raw limit
    rw [← hparts, List.map_map] at hnodup
    exact hnodup

/-- Only texts in their normal form are made of a summary. -/
theorem committed_recordOf {c : Config} {summary : Summary} {id id' : String} {texts : Texts} {clock : Clock}
    (h : summary.texts id c.maxKeywords = .ok texts) : Committed c (recordOf id' texts clock).texts := by
  unfold Summary.texts at h
  dsimp only at h
  split at h
  · cases h
  · rename_i hfull
    simp only [Bool.or_eq_true, not_or, Bool.not_eq_true] at hfull
    cases h
    exact ⟨isTrimmed_trim hfull.1.1, isTrimmed_trim hfull.1.2, isNormal_normalizeKeywords hfull.2⟩

/-! ### Runs -/

section Runs
variable {μ : Type} {x : Indexer} {m : Models μ} {t : FileTree} {here : Place} {s s' : Session μ}

theorem committed_of_handles {v : Visit} {r : Record} (h : Handles x m t here v s s') (hr : v.record? = some r) :
    Committed x.config r.texts ∧ r.id = some v.id := by
  cases h with
  | unreadable | declined => cases hr
  | @written p real text answer texts isNew w w' s s' htext hasked htexts =>
    obtain rfl : recordOf real.text texts s.workspace.clock = r := Option.some.inj hr
    unfold answerTexts at htexts
    cases hread : answer.read real.text with
    | error f =>
      rw [hread] at htexts
      cases htexts
    | ok summary =>
      rw [hread] at htexts
      dsimp only [Except.bind] at htexts
      exact ⟨committed_recordOf htexts, rfl⟩

theorem committed_of_course {visits : List Visit} (h : Course x m t here visits s s') :
    ∀ v ∈ visits, ∀ r, v.record? = some r → Committed x.config r.texts ∧ r.id = some v.id := by
  induction h with
  | nil => exact fun v hv => absurd hv List.not_mem_nil
  | cons hv hrest ih => exact List.forall_mem_cons.mpr ⟨fun r hr => committed_of_handles hv hr, ih⟩

theorem mem_put {l : List CodeAtlas.Texts} {y z : CodeAtlas.Texts} (h : y ∈ CodeAtlas.Texts.put l z) :
    y = z ∨ y ∈ l := by
  unfold CodeAtlas.Texts.put at h
  split at h
  · obtain ⟨old, hold, rfl⟩ := List.mem_map.mp h
    split
    · exact Or.inl rfl
    · exact Or.inr hold
  · rcases List.mem_append.mp h with h | h
    · exact Or.inr h
    · exact Or.inl (List.mem_singleton.mp h)

theorem mem_saidAfter {visits : List Visit} {l : List CodeAtlas.Texts} {y : CodeAtlas.Texts}
    (h : y ∈ saidAfter l visits) : y ∈ l ∨ ∃ v ∈ visits, ∃ r, v.record? = some r ∧ y = r.texts := by
  have hfold : ∀ (rs : List Record) (l : List CodeAtlas.Texts),
      y ∈ rs.foldl (fun l r => CodeAtlas.Texts.put l r.texts) l → y ∈ l ∨ ∃ r ∈ rs, y = r.texts := fun rs => by
    induction rs with
    | nil => exact fun l h => Or.inl h
    | cons r rs ih =>
      intro l h
      rcases ih _ h with h | ⟨other, hother, heq⟩
      · rcases mem_put h with rfl | h
        · exact Or.inr ⟨r, List.mem_cons_self, rfl⟩
        · exact Or.inl h
      · exact Or.inr ⟨other, List.mem_cons_of_mem r hother, heq⟩
  rcases hfold _ l h with h | ⟨r, hr, heq⟩
  · exact Or.inl h
  · obtain ⟨v, hv, hrecord⟩ := List.mem_filterMap.mp hr
    exact Or.inr ⟨v, hv, r, hrecord, heq⟩

/-- The circumstances of a run: the files as they were, and the path that was indexed. -/
structure Outing where
  tree : FileTree
  here : Place
  root : String

/-- The id is the real path of a file that the run collects and does not leave out. -/
def Outing.Finds (x : Indexer) (o : Outing) (id : Option String) : Prop :=
  ∃ files p real, o.tree.collect o.here o.root x.config.includeSuffixes = .ok files ∧ p ∈ files ∧
    o.tree.realPath o.here p = .ok real ∧ real ∉ x.excluded ∧ id = some real.text

theorem Walks.found {files : List Path} {visits : List Visit} {root : String} {v : Visit} {before after : List Path}
    (h : Walks x m t here before visits s s') (hfiles : t.collect here root x.config.includeSuffixes = .ok files)
    (hsplit : files = before ++ after) (hv : v ∈ visits) : Outing.Finds x ⟨t, here, root⟩ (some v.id) := by
  have hkept : (v.path, v.real) ∈ kept x t here before := h.visited ▸ List.mem_map_of_mem hv
  obtain ⟨hp, hreal, hexcluded⟩ := mem_kept_iff.mp hkept
  exact ⟨files, v.path, v.real, hfiles, hsplit ▸ List.mem_append_left after hp, hreal, hexcluded, rfl⟩

/-- What a run adds to a store is in its normal form and found by the run, also when it fails. -/
theorem committed_of_run (x : Indexer) (m : Models μ) (t : FileTree) (here : Place) (root : String) (s : Session μ)
    {y : CodeAtlas.Texts} (h : y ∈ (x.run (Session.means m) t here root s).2.workspace.texts) :
    y ∈ s.workspace.texts ∨ Committed x.config y ∧ Outing.Finds x ⟨t, here, root⟩ y.id := by
  -- However the run ends, what it has added comes from visits that were completed.
  have hadded {files before after : List Path} {visits : List Visit} {s₁ : Session μ}
      (hfiles : t.collect here root x.config.includeSuffixes = .ok files) (hsplit : files = before ++ after)
      (hwalk : Walks x m t here before visits s s₁) (hy : y ∈ s₁.workspace.texts) :
      y ∈ s.workspace.texts ∨ Committed x.config y ∧ Outing.Finds x ⟨t, here, root⟩ y.id := by
    rw [hwalk.course.accounts.said] at hy
    rcases mem_saidAfter hy with hy | ⟨v, hv, r, hrecord, rfl⟩
    · exact Or.inl hy
    · obtain ⟨hcommitted, hid⟩ := committed_of_course hwalk.course v hv r hrecord
      refine Or.inr ⟨hcommitted, ?_⟩
      rw [show r.texts.id = some v.id from hid]
      exact hwalk.found hfiles hsplit hv
  rcases run_cases x m t here root s with ⟨fault, -, hrun⟩ |
    ⟨files, hfiles, ⟨visits, s', hrun, hwalk⟩ | ⟨before, p, after, visits, s₁, f, s', hsplit, hrun, hwalk, hstop⟩⟩
  · rw [hrun] at h
    exact Or.inl h
  · rw [hrun] at h
    exact hadded hfiles (List.append_nil files).symm hwalk h
  · rw [hrun] at h
    exact hadded hfiles hsplit hwalk (hstop.said_eq ▸ h)

end Runs

/-! ### Histories -/

/-- Runs of one indexer over a store that was empty at first, each with models of its own. Between the runs anything
    may change, as long as nothing gets into the store. -/
inductive History (x : Indexer) : List Outing → Workspace → Prop
  | start {w : Workspace} : w.texts = [] → History x [] w
  | run {outings : List Outing} {w : Workspace} {μ : Type} (m : Models μ) (k : μ) (root : String) :
    History x outings w → History x (⟨w.tree, w.here, root⟩ :: outings)
      (x.run (Session.means m) w.tree w.here root ⟨w, k⟩).2.workspace
  | change {outings : List Outing} {w w' : Workspace} : History x outings w → (∀ y ∈ w'.texts, y ∈ w.texts) →
    History x outings w'

/-- Every record that is ever in the store has its texts in their normal form, and goes by the real path of a file
    that one of the runs collected and did not leave out. -/
theorem history_committed (x : Indexer) (outings : List Outing) (w : Workspace) (h : History x outings w) :
    ∀ y ∈ w.texts, Committed x.config y ∧ ∃ o ∈ outings, o.Finds x y.id := by
  induction h with
  | start hempty =>
    rw [hempty]
    exact fun y hy => absurd hy List.not_mem_nil
  | @run outings w μ m k root hw ih =>
    intro y hy
    rcases committed_of_run x m w.tree w.here root ⟨w, k⟩ hy with hold | ⟨hcommitted, hfinds⟩
    · obtain ⟨hcommitted, o, ho, hfinds⟩ := ih y hold
      exact ⟨hcommitted, o, List.mem_cons_of_mem _ ho, hfinds⟩
    · exact ⟨hcommitted, _, List.mem_cons_self, hfinds⟩
  | change hw hkept ih => exact fun y hy => ih y (hkept y hy)

/-- Models that say the same of every file. -/
def saysTheSame : Models Unit where
  chat _ k := (.error (.raised .runtimeError ""), k)
  summarize _ k := (.ok (.summary ⟨" outline\n", "Says x. ", "A, b ,a,"⟩), k)

/-- Models that do not answer. -/
def breaksDown : Models Unit where
  chat _ k := (.error (.raised .runtimeError ""), k)
  summarize _ k := (.error (.raised .runtimeError ""), k)

/-- The record of a run that went well is still there after one that failed. -/
theorem history_oneFile : ∃ w, History {} [⟨oneFile.tree, [], "a.py"⟩, ⟨oneFile.tree, [], "a.py"⟩] w ∧
    w.texts = [⟨some "/a.py", some "outline", some "Says x.", some "A, b"⟩] ∧
    ∀ y ∈ w.texts, Committed {} y ∧ ∃ o ∈ [⟨oneFile.tree, [], "a.py"⟩, ⟨oneFile.tree, [], "a.py"⟩],
      Outing.Finds {} o y.id := by
  have hempty : History {} [] oneFile := .start rfl
  obtain ⟨w, hw⟩ : ∃ w, w =
      (Indexer.run {} (Session.means saysTheSame) oneFile.tree [] "a.py" ⟨oneFile, ()⟩).2.workspace := ⟨_, rfl⟩
  have htree : w.tree = oneFile.tree := by
    rw [hw]
    rfl
  have hhere : w.here = [] := by
    rw [hw]
    rfl
  have hfirst : History {} [⟨oneFile.tree, [], "a.py"⟩] w := by
    rw [hw]
    exact hempty.run saysTheSame () "a.py"
  have hsecond := hfirst.run breaksDown () "a.py"
  rw [htree, hhere] at hsecond
  refine ⟨_, hsecond, ?_, history_committed {} _ _ hsecond⟩
  rw [hw]
  rfl

end CodeAtlas.Index
