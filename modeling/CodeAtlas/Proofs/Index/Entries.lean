import CodeAtlas.Proofs.FileTree.Collecting
import CodeAtlas.Proofs.Index.Committed
import CodeAtlas.Proofs.Store.Holdings

/-! What becomes of the entries of a tree in a run. Each file that is collected and not left out is in one of the lists
    of the report, under its real path; if model and store do their part, only entries that cannot be looked up at all
    keep the run from a report. -/

namespace CodeAtlas.Index

open FileTree Workspace

variable {μ : Type} {x : Indexer} {m : Models μ} {t : FileTree} {here : Place} {s s' : Session μ}

/-! ### The lists of a report -/

/-- The ids in the lists of a report, list after list. -/
def Report.ids (r : Report) : List String := r.inserted ++ r.updated ++ r.skipped

namespace Visit

/-- The file has a record, be it new or not. -/
def writtenId? (v : Visit) : Option String :=
  match v.fate with
  | .written _ _ _ => some v.id
  | _ => none

theorem perm_writtenIds (visits : List Visit) :
    (visits.filterMap insertedId? ++ visits.filterMap updatedId?).Perm (visits.filterMap writtenId?) := by
  induction visits with
  | nil => exact .nil
  | cons v rest ih =>
    obtain ⟨p, real, fate⟩ := v
    rcases fate with _ | _ | ⟨text, r, _ | _⟩
    · exact ih
    · exact ih
    · exact List.perm_middle.trans (ih.cons _)
    · exact ih.cons _

theorem perm_ids (visits : List Visit) :
    (visits.filterMap writtenId? ++ visits.filterMap skippedId?).Perm (visits.map id) := by
  induction visits with
  | nil => exact .nil
  | cons v rest ih =>
    obtain ⟨p, real, fate⟩ := v
    rcases fate with _ | _ | ⟨text, r, isNew⟩
    · exact List.perm_middle.trans (ih.cons _)
    · exact List.perm_middle.trans (ih.cons _)
    · exact ih.cons _

/-- The lists of the report together have the id of every visit. -/
theorem perm_reported (visits : List Visit) : (visits.foldl Report.add {}).ids.Perm (visits.map id) := by
  rw [foldl_add]
  exact ((perm_writtenIds visits).append_right _).trans (perm_ids visits)

end Visit

theorem Walks.ids_eq {files : List Path} {visits : List Visit} (h : Walks x m t here files visits s s') :
    visits.map Visit.id = (kept x t here files).map fun e => e.2.text := by
  rw [← h.visited, List.map_map]
  rfl

/-! ### Each file once -/

theorem kept_sublist (x : Indexer) (t : FileTree) (here : Place) (files : List Path) :
    ((kept x t here files).map (·.1)).Sublist files := by
  induction files with
  | nil => exact .slnil
  | cons p rest ih =>
    cases hreal : t.realPath here p with
    | error fault =>
      have hrest : kept x t here (p :: rest) = kept x t here rest := by simp [kept, hreal]
      rw [hrest]
      exact ih.cons p
    | ok real =>
      by_cases hexcluded : real ∈ x.excluded
      · have hrest : kept x t here (p :: rest) = kept x t here rest := by simp [kept, hreal, hexcluded]
        rw [hrest]
        exact ih.cons p
      · have hfirst : kept x t here (p :: rest) = (p, real) :: kept x t here rest := by simp [kept, hreal, hexcluded]
        rw [hfirst]
        exact ih.cons_cons p

theorem nodup_kept {files : List Path} (h : files.Nodup) : (kept x t here files).Nodup :=
  .of_map _ (h.sublist (kept_sublist x t here files))

theorem known_saidAfter {l : List CodeAtlas.Texts} {id : Option String} (h : CodeAtlas.Texts.known l id = true) (visits : List Visit) :
    CodeAtlas.Texts.known (saidAfter l visits) id = true := by
  have hfold : ∀ (rs : List Record) {l : List CodeAtlas.Texts}, CodeAtlas.Texts.known l id = true →
      CodeAtlas.Texts.known (rs.foldl (fun l r => CodeAtlas.Texts.put l r.texts) l) id = true := fun rs => by
    induction rs with
    | nil => exact fun h => h
    | cons r rs ih => exact fun h => ih (CodeAtlas.Texts.known_put_of_known h r.texts)
  exact hfold _ h

/-- An id is new only once. -/
theorem Course.nodup_inserted {visits : List Visit} (h : Course x m t here visits s s') :
    (visits.filterMap Visit.insertedId?).Nodup ∧ ∀ id ∈ visits.filterMap Visit.insertedId?,
      CodeAtlas.Texts.known s.workspace.texts (some id) = false := by
  induction h with
  | nil => exact ⟨List.nodup_nil, fun id hid => absurd hid List.not_mem_nil⟩
  | @cons v rest s s₁ s₂ hv hrest ih =>
    obtain ⟨hnodup, hnew⟩ := ih
    -- What is known before the visit is known after it, so what is new later was new before.
    have hearlier : ∀ id ∈ rest.filterMap Visit.insertedId?, CodeAtlas.Texts.known s.workspace.texts (some id) = false := by
      intro id hid
      by_contra hknown
      rw [Bool.not_eq_false] at hknown
      have hafter := known_saidAfter hknown [v]
      rw [← hv.said_eq, hnew id hid] at hafter
      cases hafter
    obtain ⟨p, real, fate⟩ := v
    rcases fate with _ | _ | ⟨text, r, _ | _⟩
    · exact ⟨hnodup, hearlier⟩
    · exact ⟨hnodup, hearlier⟩
    · exact ⟨hnodup, hearlier⟩
    · have hfirst : CodeAtlas.Texts.known s.workspace.texts (some real.text) = false := by
        have hisNew := hv.isNew_eq
        simpa using hisNew.symm
      have hwritten : CodeAtlas.Texts.known s₁.workspace.texts (some real.text) = true := by
        rw [hv.said_eq]
        cases hv with
        | written => exact CodeAtlas.Texts.known_put_self _ _
      refine ⟨List.nodup_cons.mpr ⟨fun hmem => ?_, hnodup⟩, List.forall_mem_cons.mpr ⟨hfirst, hearlier⟩⟩
      have hunknown := hnew real.text hmem
      rw [hwritten] at hunknown
      cases hunknown

/-- The lists of a report have the real path of every file that is collected and not left out, as often as it is
    collected. So an id is in them twice exactly if two paths of files lead to it, for which one of them has to meet a
    link; and even then it is inserted once only. -/
theorem run_entries (x : Indexer) (m : Models μ) (root : String) (s s' : Session μ) (report : Report)
    (hsound : s.workspace.tree.IsSound s.workspace.here)
    (hrun : x.run (Session.means m) s.workspace.tree s.workspace.here root s = (.ok report, s')) :
    ∃ files, s.workspace.tree.collect s.workspace.here root x.config.includeSuffixes = .ok files ∧
      report.ids.Perm ((kept x s.workspace.tree s.workspace.here files).map fun e => e.2.text) ∧
      (report.ids.Nodup ↔ ∀ e ∈ kept x s.workspace.tree s.workspace.here files,
        ∀ e' ∈ kept x s.workspace.tree s.workspace.here files, e.2.text = e'.2.text → e = e') ∧
      (∀ e ∈ kept x s.workspace.tree s.workspace.here files, ∀ e' ∈ kept x s.workspace.tree s.workspace.here files,
        e.2.text = e'.2.text → e = e' ∨ MeetsLink s.workspace.tree s.workspace.here (Path.ofText root) e.1 ∨
          MeetsLink s.workspace.tree s.workspace.here (Path.ofText root) e'.1) ∧
      report.inserted.Nodup := by
  rcases run_cases x m s.workspace.tree s.workspace.here root s with ⟨fault, -, hfails⟩ |
    ⟨files, hfiles, ⟨visits, s₁, hok, hwalk⟩ | ⟨_, _, _, _, _, f, _, -, hfails, -, -⟩⟩
  · rw [hrun] at hfails
    cases hfails
  · rw [hrun] at hok
    obtain ⟨hreport, -⟩ := Prod.mk.inj hok
    obtain rfl := Except.ok.inj hreport
    have hperm := Visit.perm_reported visits
    rw [hwalk.ids_eq] at hperm
    have hiff := hperm.nodup_iff.trans (List.nodup_map_iff_inj_on (nodup_kept (nodup_collect hsound hfiles)))
    refine ⟨files, hfiles, hperm, hiff, fun e he e' he' heq => ?_, ?_⟩
    · obtain ⟨p, real⟩ := e
      obtain ⟨q, other⟩ := e'
      obtain ⟨hp, hreal, -⟩ := mem_kept_iff.mp he
      obtain ⟨hq, hother, -⟩ := mem_kept_iff.mp he'
      by_contra hdifferent
      rw [not_or, not_or] at hdifferent
      obtain ⟨hne, hplinks, hqlinks⟩ := hdifferent
      obtain rfl : p = q := realPath_injective hsound hfiles hp hq hreal hother hplinks hqlinks heq
      exact hne (by rw [Except.ok.inj (hreal.symm.trans hother)])
    · rw [foldl_add]
      exact hwalk.course.nodup_inserted.1
  · rw [hrun] at hfails
    cases hfails

/-- A place with one file and a link to it. -/
def doubled : Workspace where
  tree := ⟨[(["a.py"], .file (.octets [120])), (["b.py"], .link "a.py")]⟩

theorem isSound_doubled : doubled.tree.IsSound doubled.here := ⟨by decide, by decide, straight_nil _⟩

theorem run_of_collect {root : String} {files : List Path} (h : t.collect here root x.config.includeSuffixes = .ok files) :
    x.run (Session.means m) t here root s = x.handleAll (Session.means m) t here files {} s := by
  rw [Indexer.run, h]

theorem collect_doubled : doubled.tree.collect doubled.here "." ({} : Indexer).config.includeSuffixes =
    .ok [Path.ofText "a.py", Path.ofText "b.py"] := (collect_of_sorted rfl rfl (by decide)).trans rfl

theorem run_doubled : Indexer.run {} (Session.means saysTheSame) doubled.tree doubled.here "." ⟨doubled, ()⟩ =
    (.ok ⟨["/a.py"], ["/a.py"], []⟩,
      (Indexer.run {} (Session.means saysTheSame) doubled.tree doubled.here "." ⟨doubled, ()⟩).2) := by
  rw [run_of_collect collect_doubled]
  rfl

/-- The file is inserted under its own name and updated under that of the link. -/
theorem exists_report_with_double : ∃ report s',
    Indexer.run {} (Session.means saysTheSame) doubled.tree doubled.here "." ⟨doubled, ()⟩ = (.ok report, s') ∧
      ¬report.ids.Nodup :=
  ⟨_, _, run_doubled, by decide⟩

/-- Although the file is listed twice, it is inserted once. -/
theorem run_entries_doubled : doubled.tree.IsSound doubled.here ∧ ∃ report s',
    Indexer.run {} (Session.means saysTheSame) doubled.tree doubled.here "." ⟨doubled, ()⟩ = (.ok report, s') ∧
      report.ids = ["/a.py", "/a.py"] ∧ report.inserted.Nodup := by
  obtain ⟨files, -, -, -, -, hinserted⟩ :=
    run_entries {} saysTheSame "." ⟨doubled, ()⟩ _ _ isSound_doubled run_doubled
  exact ⟨isSound_doubled, _, _, run_doubled, rfl, hinserted⟩

/-! ### Entries that cannot be read -/

/-- Whatever the model is asked, it answers, and no text is missing in the answer. -/
def AlwaysComplete (x : Indexer) (m : Models μ) : Prop :=
  ∀ q k, ∃ answer k', m.summarize q k = (.ok answer, k') ∧ ∀ id, ∃ texts, answerTexts x id answer = .ok texts

/-- The file has a text. -/
def isReadable (t : FileTree) (here : Place) (e : Path × Path) : Bool := (t.readText here e.1).toBool

theorem isReadable_of_ok {p real : Path} {text : String} (h : t.readText here p = .ok text) :
    isReadable t here (p, real) = true := by
  rw [isReadable, h]
  rfl

theorem not_isReadable_of_error {p real : Path} {fault : ReadFault} (h : t.readText here p = .error fault) :
    isReadable t here (p, real) = false := by
  rw [isReadable, h]
  rfl

/-- A visit makes one write to the store, or leaves it alone. -/
theorem Handles.store_cases {v : Visit} (h : Handles x m t here v s s') :
    (v.writtenId? = none ∧ SameStore s.workspace s'.workspace) ∨
    ∃ text r isNew w w', v.fate = .written text r isNew ∧ r.IsWhole ∧ r.id = some v.id ∧
      SameStore s.workspace w ∧ w.upsert r = (.ok isNew, w') ∧ SameStore w' s'.workspace := by
  cases h with
  | unreadable htext hmodel hsame => exact Or.inl ⟨rfl, hsame⟩
  | declined htext hasked hskips hsame => exact Or.inl ⟨rfl, hsame⟩
  | written htext hasked htexts hsame hwrite hsame' =>
    exact Or.inr ⟨_, _, _, _, _, rfl, isWhole_recordOf _ _ _, rfl, hsame, hwrite, hsame'⟩

theorem Handles.accepts {v : Visit} {r : Record} (h : Handles x m t here v s s') (hr : s.workspace.Accepts r) :
    s'.workspace.Accepts r := by
  obtain ⟨-, hsame⟩ | ⟨_, _, _, _, _, -, -, -, hsame, hwrite, hsame'⟩ := h.store_cases
  · exact hr.sameStore hsame
  · exact ((hr.sameStore hsame).after_upsert hwrite).sameStore hsame'

/-- What the store accepts it accepts later on. -/
theorem Course.accepts {visits : List Visit} {r : Record} (h : Course x m t here visits s s') :
    s.workspace.Accepts r → s'.workspace.Accepts r := by
  induction h with
  | nil => exact id
  | cons hv hrest ih => exact fun hr => ih (hv.accepts hr)

/-- A model that always answers turns no file down, so that a file is skipped if it cannot be read. -/
theorem Handles.skippedId?_eq {v : Visit} (hmodel : AlwaysComplete x m) (h : Handles x m t here v s s') :
    v.skippedId? = (if isReadable t here (v.path, v.real) then none else some v.id) ∧
      v.writtenId? = if isReadable t here (v.path, v.real) then some v.id else none := by
  cases h with
  | unreadable htext hread hsame =>
    rw [not_isReadable_of_error htext]
    exact ⟨rfl, rfl⟩
  | declined htext hasked hskips hsame =>
    obtain ⟨answer, k, hanswers, -⟩ := hmodel _ _
    rw [hasked] at hanswers
    cases hanswers
  | written htext hasked htexts hsame hwrite hsame' =>
    rw [isReadable_of_ok htext]
    exact ⟨rfl, rfl⟩

theorem Course.ids_eq {visits : List Visit} (hmodel : AlwaysComplete x m) (h : Course x m t here visits s s') :
    visits.filterMap Visit.skippedId? =
        ((visits.map fun v => (v.path, v.real)).filter fun e => !isReadable t here e).map (fun e => e.2.text) ∧
      visits.filterMap Visit.writtenId? =
        ((visits.map fun v => (v.path, v.real)).filter fun e => isReadable t here e).map fun e => e.2.text := by
  induction h with
  | nil => exact ⟨rfl, rfl⟩
  | @cons v rest s s₁ s₂ hv hrest ih =>
    obtain ⟨hskipped, hwritten⟩ := hv.skippedId?_eq hmodel
    obtain ⟨ihskipped, ihwritten⟩ := ih
    rw [List.filterMap_cons, List.filterMap_cons, hskipped, hwritten, ihskipped, ihwritten, List.map_cons]
    cases hreadable : isReadable t here (v.path, v.real) with
    | true =>
      rw [List.filter_cons_of_neg (by simp [hreadable]), List.filter_cons_of_pos hreadable]
      exact ⟨rfl, rfl⟩
    | false =>
      rw [List.filter_cons_of_pos (by simp [hreadable]), List.filter_cons_of_neg (by simp [hreadable])]
      exact ⟨rfl, rfl⟩

/-- Where model and store do their part, a run stops only at a path that has no real path. -/
theorem Stops.unresolved_of {p : Path} {f : Failure} (hmodel : AlwaysComplete x m)
    (hstore : ∀ r : Record, r.IsWhole → s.workspace.Accepts r) (h : Stops x m t here p s f s') : ∃ fault, f = .file fault ∧ t.realPath here p = .error fault := by
  cases h with
  | unresolved hreal => exact ⟨_, rfl, hreal⟩
  | failed hreal hkept htext hasked hskips hsame =>
    obtain ⟨answer, k, hanswers, -⟩ := hmodel _ _
    rw [hasked] at hanswers
    cases hanswers
  | unusable hreal hkept htext hasked htexts hsame =>
    obtain ⟨answer, k, hanswers, hcomplete⟩ := hmodel _ _
    rw [hasked] at hanswers
    obtain rfl := Except.ok.inj (Prod.mk.inj hanswers).1
    obtain ⟨texts, hfull⟩ := hcomplete _
    rw [htexts] at hfull
    cases hfull
  | unwritten hreal hkept htext hasked htexts hsame hwrite =>
    obtain ⟨isNew, w', hdone⟩ :=
      ((hstore _ (isWhole_recordOf _ _ _)).sameStore hsame).upsert (isWhole_recordOf _ _ _)
    rw [hwrite] at hdone
    cases hdone

/-- A model that always answers in full and a store that never fails leave three reasons for which a run below a
    directory ends without a report: there is a blank text for a path, a name is too long to be looked up, or the links
    at one of the files run in a circle, which for that reason cannot be read either. In every report each file is
    listed, among those skipped if and only if it cannot be read. -/
theorem run_outcome (x : Indexer) (m : Models μ) (root : String) (s : Session μ)
    (hsound : s.workspace.tree.IsSound s.workspace.here)
    (hroot : s.workspace.tree.isDirectory s.workspace.here (Path.ofText root) = .ok true)
    (hmodel : AlwaysComplete x m) (hstore : s.workspace.NeverFails) :
    match x.run (Session.means m) s.workspace.tree s.workspace.here root s with
    | (.ok report, _) => ∃ files,
        s.workspace.tree.collect s.workspace.here root x.config.includeSuffixes = .ok files ∧
        (∀ p ∈ files, ∃ real, s.workspace.tree.realPath s.workspace.here p = .ok real) ∧
        report.skipped = ((kept x s.workspace.tree s.workspace.here files).filter fun e =>
          !isReadable s.workspace.tree s.workspace.here e).map (fun e => e.2.text) ∧
        (report.inserted ++ report.updated).Perm (((kept x s.workspace.tree s.workspace.here files).filter fun e =>
          isReadable s.workspace.tree s.workspace.here e).map fun e => e.2.text)
    | (.error f, _) =>
      (∃ fault, f = .index (.collecting fault) ∧ (Text.isBlankText root = true ∧ fault = .blankPath ∨
        Hinders s.workspace.tree s.workspace.here (Path.ofText root) fault)) ∨
      ∃ files p fault, s.workspace.tree.collect s.workspace.here root x.config.includeSuffixes = .ok files ∧ p ∈ files ∧
        s.workspace.tree.realPath s.workspace.here p = .error fault ∧ fault.kind = .linkLoop ∧ f = .file fault ∧
        ∃ unread, s.workspace.tree.readText s.workspace.here p = .error unread := by
  rcases run_cases x m s.workspace.tree s.workspace.here root s with ⟨fault, hfiles, hrun⟩ |
    ⟨files, hfiles, ⟨visits, s', hrun, hwalk⟩ | ⟨before, p, after, visits, s₁, f, s', hsplit, hrun, hwalk, hstop⟩⟩
  · rw [hrun]
    exact Or.inl ⟨fault, rfl, collect_eq_error hsound hroot hfiles⟩
  · rw [hrun]
    obtain ⟨hskipped, hwritten⟩ := hwalk.course.ids_eq hmodel
    rw [hwalk.visited] at hskipped hwritten
    refine ⟨files, hfiles, hwalk.resolved, ?_, ?_⟩
    · rw [foldl_add]
      exact hskipped
    · rw [foldl_add, ← hwritten]
      exact Visit.perm_writtenIds visits
  · rw [hrun]
    obtain ⟨fault, hf, hreal⟩ := hstop.unresolved_of hmodel fun r hr =>
      hwalk.course.accepts (neverFails_iff.mp hstore r hr)
    have hp : p ∈ files := hsplit ▸ List.mem_append_right before List.mem_cons_self
    obtain ⟨hkind, hunread⟩ := realPath_eq_error hsound hroot hfiles hp hreal
    exact Or.inr ⟨files, p, fault, hfiles, hp, hreal, hkind, hf, hunread⟩

theorem alwaysComplete_saysTheSame : AlwaysComplete {} saysTheSame :=
  fun _ _ => ⟨.summary ⟨" outline\n", "Says x. ", "A, b ,a,"⟩, (), rfl, fun _ => ⟨_, rfl⟩⟩

/-- A place with one file and a link that leads nowhere. -/
def dangling : Workspace where
  tree := ⟨[(["a.py"], .file (.octets [120])), (["b.py"], .link "c.py")]⟩

/-- The link is skipped, by the name that it would lead to. -/
theorem run_dangling : dangling.tree.IsSound dangling.here ∧ dangling.NeverFails ∧ ∃ report s',
    Indexer.run {} (Session.means saysTheSame) dangling.tree dangling.here "." ⟨dangling, ()⟩ = (.ok report, s') ∧
      report = ⟨["/a.py"], [], ["/c.py"]⟩ ∧ ∃ files, dangling.tree.collect dangling.here "." [] = .ok files ∧
        report.skipped = ((kept {} dangling.tree dangling.here files).filter fun e =>
          !isReadable dangling.tree dangling.here e).map fun e => e.2.text := by
  have hsound : dangling.tree.IsSound dangling.here := ⟨by decide, by decide, straight_nil _⟩
  have hstore : dangling.NeverFails := neverFails_iff.mpr fun _ _ => .memory rfl
  have hfiles : dangling.tree.collect dangling.here "." ({} : Indexer).config.includeSuffixes =
      .ok [Path.ofText "a.py", Path.ofText "b.py"] := (collect_of_sorted rfl rfl (by decide)).trans rfl
  have hrun : (Indexer.run {} (Session.means saysTheSame) dangling.tree dangling.here "." ⟨dangling, ()⟩).1 =
      .ok ⟨["/a.py"], [], ["/c.py"]⟩ := by
    rw [run_of_collect hfiles]
    rfl
  have houtcome := run_outcome {} saysTheSame "." ⟨dangling, ()⟩ hsound rfl alwaysComplete_saysTheSame hstore
  rw [show Indexer.run {} (Session.means saysTheSame) dangling.tree dangling.here "." ⟨dangling, ()⟩ =
    (.ok ⟨["/a.py"], [], ["/c.py"]⟩, _) from Prod.ext hrun rfl] at houtcome
  obtain ⟨files, hcollected, -, hskipped, -⟩ := houtcome
  exact ⟨hsound, hstore, _, _, Prod.ext hrun rfl, rfl, files, hcollected, hskipped⟩

/-- A place with one file and a link that leads to itself. -/
def circular : Workspace where
  tree := ⟨[(["a.py"], .file (.octets [120])), (["loop"], .link "loop")]⟩

/-- The link does not get skipped: it ends the run. -/
theorem exists_run_ended_by_link : circular.tree.IsSound circular.here ∧
    circular.tree.isDirectory circular.here (Path.ofText ".") = .ok true ∧ AlwaysComplete {} saysTheSame ∧
    circular.NeverFails ∧ ∃ s', Indexer.run {} (Session.means saysTheSame) circular.tree circular.here "." ⟨circular, ()⟩ =
      (.error (.file ⟨.linkLoop, "/loop"⟩), s') := by
  have hfiles : circular.tree.collect circular.here "." ({} : Indexer).config.includeSuffixes =
      .ok [Path.ofText "a.py", Path.ofText "loop"] := (collect_of_sorted rfl rfl (by decide)).trans rfl
  refine ⟨⟨by decide, by decide, straight_nil _⟩, rfl, alwaysComplete_saysTheSame,
    neverFails_iff.mpr fun _ _ => .memory rfl, _,
    Prod.ext ?_ rfl⟩
  rw [run_of_collect hfiles]
  rfl

end CodeAtlas.Index
