import CodeAtlas.Proofs.Index.Entries

/-! Runs side by side. Two ways of working that answer alike, over trees in which the files that are not left out read
    alike, lead to the same outcome; and a run whose calls are written down is the run itself with a list of them. -/

namespace CodeAtlas.Index

open FileTree

variable {α σ τ : Type}

/-- The outcomes are the same, and the states are related. -/
def Matches (R : σ → τ → Prop) (a : α × σ) (b : α × τ) : Prop := b.1 = a.1 ∧ R a.2 b.2

theorem Matches.exists_eq {R : σ → τ → Prop} {a : α × σ} {b : α × τ} {found : α} {s : σ} (h : Matches R a b)
    (ha : a = (found, s)) : ∃ z, b = (found, z) ∧ R s z := by
  subst ha
  exact ⟨b.2, Prod.ext h.1 rfl, h.2⟩

/-- From related states both means lead to the same outcomes and to related states, as long as all records that are
    written have ids of one kind. -/
structure Mirrors [Journal σ] [Journal τ] (R : σ → τ → Prop) (ids : String → Prop) (m : Means σ) (n : Means τ) : Prop where
  ask : ∀ {q s z}, R s z → Matches R (m.ask q s) (n.ask q z)
  write : ∀ {id r s z}, r.id = some id → ids id → R s z → Matches R (m.write r s) (n.write r z)
  now : ∀ {s z}, R s z → Matches R (m.now s) (n.now z)
  add : ∀ {notes s z}, R s z → R (Journal.add notes s) (Journal.add notes z)

/-- A run sees the same of a file in both trees, and writes an id of one kind for it. -/
structure ReadsAlike (x : Indexer) (ids : String → Prop) (t u : FileTree) (here : Place) (p : Path) : Prop where
  realPath : u.realPath here p = t.realPath here p
  source : ∀ real, t.realPath here p = .ok real → real ∉ x.excluded →
    ids real.text ∧ readSource u here p = readSource t here p

section Runs
variable {R : σ → τ → Prop} {ids : String → Prop} {m : Means σ} {n : Means τ} {x : Indexer} {t u : FileTree}
  {here : Place} {p : Path} {id root : String} {files : List Path} {s s' : σ} {z : τ} {report report' : Report}
  {r : Record}

/-- The record of a file has its id. -/
theorem id_of_summarize (h : x.summarize m t here p id s = (.ok r, s')) : r.id = some id := by
  unfold Indexer.summarize at h
  split at h
  · cases h
  · split at h
    · cases h
    · split at h
      · cases h
      · cases h
        rfl

theorem realPaths_sameBut {may : Place → Content → Content → Prop} (h : SameBut may t u) (given : List Path) :
    realPaths u here given = realPaths t here given := by
  induction given with
  | nil => rfl
  | cons p rest ih => rw [realPaths, realPaths, h.realPath, ih]

/-! ### Runs of related means -/

variable [Journal σ] [Journal τ]

theorem mirrors_self (m : Means σ) : Mirrors Eq (fun _ => True) m m where
  ask h := h ▸ ⟨rfl, rfl⟩
  write _ _ h := h ▸ ⟨rfl, rfl⟩
  now h := h ▸ ⟨rfl, rfl⟩
  add h := h ▸ rfl

theorem Mirrors.summarize (h : Mirrors R ids m n) (hsource : readSource u here p = readSource t here p) (hs : R s z) :
    Matches R (x.summarize m t here p id s) (x.summarize n u here p id z) := by
  unfold Indexer.summarize
  rw [hsource]
  cases readSource t here p with
  | error f => exact ⟨rfl, hs⟩
  | ok text =>
    dsimp only
    rcases hasked : m.ask (x.prompt id text) s with ⟨f | answer, s₁⟩
    · obtain ⟨z₁, hz, hs₁⟩ := (h.ask hs).exists_eq hasked
      rw [hz]
      exact ⟨rfl, hs₁⟩
    · obtain ⟨z₁, hz, hs₁⟩ := (h.ask hs).exists_eq hasked
      rw [hz]
      dsimp only
      cases (answer.read id).bind fun summary => summary.texts id x.config.maxKeywords with
      | error f => exact ⟨rfl, hs₁⟩
      | ok texts =>
        obtain ⟨hcreated, hs₂⟩ := h.now hs₁
        obtain ⟨hupdated, hs₃⟩ := h.now hs₂
        exact ⟨by simp only [hcreated, hupdated], hs₃⟩

theorem Mirrors.handle (h : Mirrors R ids m n) (hid : ids id) (hsource : readSource u here p = readSource t here p)
    (hs : R s z) : Matches R (x.handle m t here p id report s) (x.handle n u here p id report z) := by
  unfold Indexer.handle
  dsimp only
  have hnoted : R (Journal.add [info ("Indexing file: " ++ id)] s) (Journal.add [info ("Indexing file: " ++ id)] z) :=
    h.add hs
  have hfirst : Matches R (x.summarize m t here p id _) (x.summarize n u here p id _) := h.summarize hsource hnoted
  rcases hsummary : x.summarize m t here p id (Journal.add [info ("Indexing file: " ++ id)] s) with ⟨f | r, s₁⟩
  · obtain ⟨z₁, hz, hs₁⟩ := hfirst.exists_eq hsummary
    rw [hz]
    dsimp only
    split
    · exact ⟨rfl, h.add hs₁⟩
    · exact ⟨rfl, hs₁⟩
  · obtain ⟨z₁, hz, hs₁⟩ := hfirst.exists_eq hsummary
    rw [hz]
    dsimp only
    have hsecond := h.write (id_of_summarize hsummary) hid hs₁
    rcases hwrite : m.write r s₁ with ⟨f | _ | _, s₂⟩ <;> obtain ⟨z₂, hz₂, hs₂⟩ := hsecond.exists_eq hwrite <;> rw [hz₂]
    · exact ⟨rfl, hs₂⟩
    · exact ⟨rfl, h.add hs₂⟩
    · exact ⟨rfl, h.add hs₂⟩

theorem Mirrors.handleAll (h : Mirrors R ids m n) (hfiles : ∀ p ∈ files, ReadsAlike x ids t u here p) (hs : R s z) :
    Matches R (x.handleAll m t here files report s) (x.handleAll n u here files report z) := by
  induction files generalizing report s z with
  | nil => exact ⟨rfl, hs⟩
  | cons p rest ih =>
    obtain ⟨hp, hrest⟩ := List.forall_mem_cons.mp hfiles
    unfold Indexer.handleAll
    rw [hp.realPath]
    cases hreal : t.realPath here p with
    | error fault => exact ⟨rfl, hs⟩
    | ok real =>
      dsimp only
      by_cases hexcluded : real ∈ x.excluded
      · rw [if_pos (List.contains_iff_mem.mpr hexcluded), if_pos (List.contains_iff_mem.mpr hexcluded)]
        exact ih hrest hs
      · rw [if_neg (mt List.contains_iff_mem.mp hexcluded), if_neg (mt List.contains_iff_mem.mp hexcluded)]
        obtain ⟨hid, hsource⟩ := hp.source real hreal hexcluded
        have hfirst : Matches R (x.handle m t here p real.text report s) (x.handle n u here p real.text report z) :=
          h.handle hid hsource hs
        rcases hhandle : x.handle m t here p real.text report s with ⟨f | report₁, s₁⟩ <;>
          obtain ⟨z₁, hz, hs₁⟩ := hfirst.exists_eq hhandle <;> rw [hz]
        · exact ⟨rfl, hs₁⟩
        · exact ih hrest hs₁

/-- Over trees with the same files to see, related means run to the same outcome. -/
theorem Mirrors.run (h : Mirrors R ids m n)
    (hcollect : u.collect here root x.config.includeSuffixes = t.collect here root x.config.includeSuffixes)
    (hfiles : ∀ files, t.collect here root x.config.includeSuffixes = .ok files →
      ∀ p ∈ files, ReadsAlike x ids t u here p) (hs : R s z) :
    Matches R (x.run m t here root s) (x.run n u here root z) := by
  unfold Indexer.run
  rw [hcollect]
  cases hfound : t.collect here root x.config.includeSuffixes with
  | error f => exact ⟨rfl, hs⟩
  | ok files => exact h.handleAll (hfiles files hfound) hs

/-! ### Ids in a report -/

theorem ids_of_handle (h : x.handle m t here p id report s = (.ok report', s')) :
    ∀ i ∈ report'.ids, i ∈ report.ids ∨ i = id := by
  unfold Indexer.handle at h
  dsimp only at h
  split at h
  · split at h
    · cases h
      simp only [Report.ids, List.mem_append, List.mem_singleton]
      tauto
    · cases h
  · split at h
    · cases h
    · cases h
      simp only [Report.ids, List.mem_append, List.mem_singleton]
      tauto
    · cases h
      simp only [Report.ids, List.mem_append, List.mem_singleton]
      tauto

theorem ids_of_handleAll (hfiles : ∀ p ∈ files, ReadsAlike x ids t u here p) (hreport : ∀ i ∈ report.ids, ids i)
    (h : x.handleAll m t here files report s = (.ok report', s')) : ∀ i ∈ report'.ids, ids i := by
  induction files generalizing report s with
  | nil =>
    obtain ⟨hsame, -⟩ := Prod.mk.inj h
    exact Except.ok.inj hsame ▸ hreport
  | cons p rest ih =>
    obtain ⟨hp, hrest⟩ := List.forall_mem_cons.mp hfiles
    unfold Indexer.handleAll at h
    cases hreal : t.realPath here p with
    | error fault =>
      rw [hreal] at h
      cases h
    | ok real =>
      rw [hreal] at h
      dsimp only at h
      split at h
      · exact ih hrest hreport h
      · rename_i hkept
        rcases hhandle : x.handle m t here p real.text report s with ⟨f | report₁, s₁⟩
        · rw [hhandle] at h
          cases h
        · rw [hhandle] at h
          refine ih hrest (fun i hi => ?_) h
          rcases ids_of_handle hhandle i hi with hold | rfl
          · exact hreport i hold
          · exact (hp.source real hreal (mt List.contains_iff_mem.mpr hkept)).1

theorem ids_of_run (hfiles : ∀ files, t.collect here root x.config.includeSuffixes = .ok files →
      ∀ p ∈ files, ReadsAlike x ids t u here p) (h : x.run m t here root s = (.ok report, s')) :
    ∀ i ∈ report.ids, ids i := by
  unfold Indexer.run at h
  cases hfound : t.collect here root x.config.includeSuffixes with
  | error f =>
    rw [hfound] at h
    cases h
  | ok files =>
    rw [hfound] at h
    exact ids_of_handleAll (hfiles files hfound) (fun i hi => absurd hi List.not_mem_nil) h

/-! ### Runs whose calls are written down -/

/-- What a run asks the model, and what it hands to the store. -/
inductive Call where
  | asked (q : Prompt)
  | wrote (r : Record)

/-- Keeps a list of the calls beside the state. -/
def Means.logged (m : Means σ) : Means (σ × List Call) where
  ask q s := ((m.ask q s.1).1, (m.ask q s.1).2, s.2 ++ [.asked q])
  write r s := ((m.write r s.1).1, (m.write r s.1).2, s.2 ++ [.wrote r])
  now s := ((m.now s.1).1, (m.now s.1).2, s.2)

instance : Journal (σ × List Call) where
  add notes s := (Journal.add notes s.1, s.2)

/-- Writing down the calls changes nothing else. -/
theorem mirrors_logged (m : Means σ) :
    Mirrors (fun s (z : σ × List Call) => z.1 = s) (fun _ => True) m m.logged where
  ask h := h ▸ ⟨rfl, rfl⟩
  write _ _ h := h ▸ ⟨rfl, rfl⟩
  now h := h ▸ ⟨rfl, rfl⟩
  add h := h ▸ rfl

/-- The states are related, the same calls have been made, and what has been written has ids of one kind. -/
structure Logged (R : σ → τ → Prop) (ids : String → Prop) (s : σ × List Call) (z : τ × List Call) : Prop where
  state : R s.1 z.1
  calls : z.2 = s.2
  wrote : ∀ r, .wrote r ∈ s.2 → ∃ id, r.id = some id ∧ ids id

theorem Mirrors.logged (h : Mirrors R ids m n) : Mirrors (Logged R ids) ids m.logged n.logged where
  ask {q s z} hs := ⟨(h.ask hs.state).1, (h.ask hs.state).2, by simp only [Means.logged, hs.calls], fun r hr =>
    hs.wrote r (by simpa [Means.logged] using hr)⟩
  write {id r s z} hid hids hs := ⟨(h.write hid hids hs.state).1, (h.write hid hids hs.state).2,
    by simp only [Means.logged, hs.calls], fun r' hr' => by
      rcases List.mem_append.mp hr' with hold | hnew
      · exact hs.wrote r' hold
      · obtain rfl := Call.wrote.inj (List.mem_singleton.mp hnew)
        exact ⟨id, hid, hids⟩⟩
  now hs := ⟨(h.now hs.state).1, (h.now hs.state).2, hs.calls, hs.wrote⟩
  add hs := ⟨h.add hs.state, hs.calls, hs.wrote⟩

end Runs

end CodeAtlas.Index
