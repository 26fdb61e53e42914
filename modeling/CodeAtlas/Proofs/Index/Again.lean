import CodeAtlas.Proofs.Index.Mirrored

/-! A run over a tree that has been indexed before. When the model answers the same question in the same way each time,
    every file ends as it did in the first run, but no id is new any more; and the texts that are written are there
    already, for an id that is written several times those of the last time. -/

namespace CodeAtlas.Index

open FileTree Workspace

variable {μ : Type} {x : Indexer} {m : Models μ} {t u : FileTree} {here : Place} {s s' z z' : Session μ} {v : Visit}
  {visits visits' : List Visit}

/-! ### The same tree -/

theorem realPaths_alike (h : Alike t u) (given : List Path) : realPaths u here given = realPaths t here given :=
  realPaths_sameBut h.sameBut given

/-- A run does not see what is in the tables of the tree. -/
theorem run_alike (h : Alike t u) (root : String) (s : Session μ) :
    x.run (Session.means m) u here root s = x.run (Session.means m) t here root s := by
  have hreads : ∀ p, ReadsAlike x (fun _ => True) t u here p := fun p =>
    ⟨h.realPath here p, fun _ _ _ => ⟨trivial, by rw [readSource, readSource, h.readText]⟩⟩
  obtain ⟨houtcome, hstate⟩ := (mirrors_self (Session.means m)).run (h.collect here root _) (fun _ _ p _ => hreads p) rfl
  exact Prod.ext houtcome hstate.symm

theorem Handles.alike (h : Handles x m t here v s s') :
    Alike s.workspace.tree s'.workspace.tree ∧ s'.workspace.here = s.workspace.here := by
  obtain ⟨-, hsame⟩ | ⟨_, _, _, _, _, -, -, -, hsame, hwrite, hsame'⟩ := h.store_cases
  · exact ⟨hsame.tree ▸ .refl _, hsame.here⟩
  · obtain ⟨halike, hhere⟩ := alike_of_upsert hwrite
    rw [hsame.tree] at halike
    exact ⟨hsame'.tree ▸ halike, hsame'.here.trans (hhere.trans hsame.here)⟩

theorem Course.alike (h : Course x m t here visits s s') :
    Alike s.workspace.tree s'.workspace.tree ∧ s'.workspace.here = s.workspace.here := by
  induction h with
  | nil => exact ⟨.refl _, rfl⟩
  | cons hv hrest ih => exact ⟨hv.alike.1.trans ih.1, ih.2.trans hv.alike.2⟩

/-! ### The same fates -/

theorem texts_recordOf (id : String) (texts : Texts) (clock : Clock) : (recordOf id texts clock).texts =
    ⟨some id, some texts.content, some texts.description, some texts.keywords⟩ := rfl

/-- What is written of the file. -/
def Visit.texts? (v : Visit) : Option CodeAtlas.Texts := v.record?.map Record.texts

/-- The second visit ends as the first one did, except that the id is not new. -/
structure Repeats (v v' : Visit) : Prop where
  inserted : v'.insertedId? = none
  updated : v'.updatedId? = v.writtenId?
  skipped : v'.skippedId? = v.skippedId?
  texts : v'.texts? = v.texts?

/-- The answer of the model depends on the question only. -/
def AnswersBy (m : Models μ) (answer : Prompt → Except Failure Answer) : Prop := ∀ q k, (m.summarize q k).1 = answer q

theorem AnswersBy.eq {answer : Prompt → Except Failure Answer} (hm : AnswersBy m answer) {q : Prompt} {k k₁ : μ}
    {found : Except Failure Answer} (h : m.summarize q k = (found, k₁)) : answer q = found := by
  rw [← hm q k, h]

variable {answer : Prompt → Except Failure Answer}

/-- What the model has answered to the text of a file that has been handled. -/
theorem Handles.answered {p real : Path} {fate : Fate} {text : String} (hm : AnswersBy m answer)
    (h : Handles x m t here ⟨p, real, fate⟩ s s') (htext : t.readText here p = .ok text) :
    (fate = .declined text ∧ ∃ f, answer (x.prompt real.text text) = .error f ∧ skips f = true) ∨
    ∃ found texts clock isNew, answer (x.prompt real.text text) = .ok found ∧ answerTexts x real.text found = .ok texts ∧
      fate = .written text (recordOf real.text texts clock) isNew := by
  cases h with
  | unreadable hunread => cases htext.symm.trans hunread
  | declined hread hasked hskips =>
    obtain rfl := Except.ok.inj (htext.symm.trans hread)
    exact Or.inl ⟨rfl, _, hm.eq hasked, hskips⟩
  | written hread hasked htexts =>
    obtain rfl := Except.ok.inj (htext.symm.trans hread)
    exact Or.inr ⟨_, _, _, _, hm.eq hasked, htexts, rfl⟩

theorem Handles.repeats {p real : Path} {fate fate' : Fate} (hm : AnswersBy m answer)
    (h : Handles x m t here ⟨p, real, fate⟩ s s') (h' : Handles x m t here ⟨p, real, fate'⟩ z z')
    (hknown : ∀ id, Visit.writtenId? ⟨p, real, fate⟩ = some id → CodeAtlas.Texts.known z.workspace.texts (some id) = true) :
    Repeats ⟨p, real, fate⟩ ⟨p, real, fate'⟩ := by
  cases htext : t.readText here p with
  | error fault =>
    obtain rfl : fate = .unreadable := h.unreadable_iff.mpr ⟨fault, htext⟩
    obtain rfl : fate' = .unreadable := h'.unreadable_iff.mpr ⟨fault, htext⟩
    exact ⟨rfl, rfl, rfl, rfl⟩
  | ok text =>
    obtain ⟨rfl, f, hanswer, -⟩ | ⟨found, texts, clock, isNew, hanswer, htexts, rfl⟩ := h.answered hm htext
    · obtain ⟨rfl, -⟩ | ⟨found, texts, clock, isNew, hother, -, -⟩ := h'.answered hm htext
      · exact ⟨rfl, rfl, rfl, rfl⟩
      · cases hanswer.symm.trans hother
    · obtain ⟨-, f, hother, -⟩ | ⟨found', texts', clock', isNew', hother, htexts', rfl⟩ := h'.answered hm htext
      · cases hanswer.symm.trans hother
      · obtain rfl := Except.ok.inj (hanswer.symm.trans hother)
        obtain rfl := Except.ok.inj (htexts.symm.trans htexts')
        obtain rfl : isNew' = false := by
          rw [h'.isNew_eq, hknown real.text rfl]
          rfl
        -- The records differ in their times, which none of the lists has.
        refine ⟨rfl, ?_, ?_, ?_⟩
        · simp only [Visit.updatedId?, Visit.writtenId?, Visit.id]
        · simp only [Visit.skippedId?]
        · simp only [Visit.texts?, Visit.record?, Option.map_some, texts_recordOf]

theorem Course.exists_handles (h : Course x m t here visits s s') : ∀ v ∈ visits, ∃ a b, Handles x m t here v a b := by
  induction h with
  | nil => exact fun v hv => absurd hv List.not_mem_nil
  | cons hv hrest ih => exact List.forall_mem_cons.mpr ⟨⟨_, _, hv⟩, ih⟩

/-- Visits of the same files, when everything that was written the first time is known, repeat the first visits one by
    one. -/
theorem Course.repeats (hm : AnswersBy m answer) (h' : Course x m t here visits' z z') :
    ∀ {visits : List Visit}, (∀ v ∈ visits, ∃ a b, Handles x m t here v a b) →
      visits'.map (fun v => (v.path, v.real)) = visits.map (fun v => (v.path, v.real)) →
      (∀ v ∈ visits, ∀ id, v.writtenId? = some id → CodeAtlas.Texts.known z.workspace.texts (some id) = true) →
      List.Forall₂ Repeats visits visits' := by
  induction h' with
  | nil =>
    intro visits _ hsame _
    rw [List.map_eq_nil_iff.mp hsame.symm]
    exact .nil
  | @cons v' rest' z z₁ z₂ hv' hrest' ih =>
    intro visits hhandles hsame hknown
    cases visits with
    | nil => cases hsame
    | cons v rest =>
      obtain ⟨hfirst, hrest⟩ := List.cons.inj hsame
      obtain ⟨⟨a, b, hv⟩, hothers⟩ := List.forall_mem_cons.mp hhandles
      obtain ⟨hvknown, hlater⟩ := List.forall_mem_cons.mp hknown
      obtain ⟨p, real, fate⟩ := v
      obtain ⟨p', real', fate'⟩ := v'
      obtain ⟨rfl, rfl⟩ := Prod.mk.inj hfirst
      refine .cons (hv.repeats hm hv' hvknown) (ih hothers hrest fun w hw id hid => ?_)
      rw [hv'.said_eq]
      exact known_saidAfter (hlater w hw id hid) _

theorem Repeats.lists_eq (h : List.Forall₂ Repeats visits visits') :
    visits'.filterMap Visit.insertedId? = [] ∧ visits'.filterMap Visit.updatedId? = visits.filterMap Visit.writtenId? ∧
      visits'.filterMap Visit.skippedId? = visits.filterMap Visit.skippedId? ∧
      visits'.filterMap Visit.texts? = visits.filterMap Visit.texts? := by
  induction h with
  | nil => exact ⟨rfl, rfl, rfl, rfl⟩
  | cons hv hrest ih =>
    obtain ⟨hinserted, hupdated, hskipped, htexts⟩ := ih
    simp only [List.filterMap_cons, hv.inserted, hv.updated, hv.skipped, hv.texts, hinserted, hupdated, hskipped, htexts,
      and_self]

/-! ### The same store -/

theorem saidAfter_eq (l : List CodeAtlas.Texts) (visits : List Visit) :
    saidAfter l visits = (visits.filterMap Visit.texts?).foldl CodeAtlas.Texts.put l := by
  have hmap : visits.filterMap Visit.texts? = (visits.filterMap Visit.record?).map Record.texts := List.map_filterMap.symm
  rw [saidAfter, hmap, List.foldl_map]

theorem Visit.written_eq {text : String} {r : Record} {isNew : Bool} {id : String}
    (hfate : v.fate = .written text r isNew) (hid : v.writtenId? = some id) : v.id = id := by
  unfold Visit.writtenId? at hid
  rw [hfate] at hid
  exact Option.some.inj hid

theorem Handles.settled {id : String} (h : Handles x m t here v s s')
    (hid : v.writtenId? = some id ∨ s.workspace.Settled (some id)) : s'.workspace.Settled (some id) := by
  obtain ⟨hnone, hsame⟩ | ⟨text, r, isNew, w, w', hfate, -, hr, hsame, hwrite, hsame'⟩ := h.store_cases
  · rw [hnone] at hid
    exact (hid.resolve_left nofun).sameStore hsame
  · refine (settled_of_upsert hwrite ?_).sameStore hsame'
    rw [hr]
    exact hid.imp (fun hid => congrArg some (Visit.written_eq hfate hid).symm) fun hs => hs.sameStore hsame

theorem Course.settled {id : String} (h : Course x m t here visits s s') :
    s.workspace.Settled (some id) → s'.workspace.Settled (some id) := by
  induction h with
  | nil => exact fun hs => hs
  | cons hv hrest ih => exact fun hs => ih (hv.settled (Or.inr hs))

/-- Once something has been written of a file, its id is known and settled. -/
theorem Course.after_written (h : Course x m t here visits s s') : ∀ v ∈ visits, ∀ id, v.writtenId? = some id →
    CodeAtlas.Texts.known s'.workspace.texts (some id) = true ∧ s'.workspace.Settled (some id) := by
  induction h with
  | nil => exact fun v hv => absurd hv List.not_mem_nil
  | @cons v rest s s₁ s₂ hv hrest ih =>
    refine List.forall_mem_cons.mpr ⟨fun id hid => ?_, ih⟩
    obtain ⟨hnone, -⟩ | ⟨text, r, isNew, w, w', hfate, hwhole, hr, -, hwrite, hsame⟩ := hv.store_cases
    · cases hnone.symm.trans hid
    · have hknown : CodeAtlas.Texts.known s₁.workspace.texts (some id) = true := by
        rw [hsame.texts_eq, (upsert_texts hwhole hwrite).2, ← Visit.written_eq hfate hid, ← hr]
        exact CodeAtlas.Texts.known_put_self _ r.texts
      rw [hrest.accounts.said]
      exact ⟨known_saidAfter hknown rest, hrest.settled (hv.settled (Or.inl hid))⟩

/-- What has been written once is accepted from then on. -/
theorem Course.accepts_written (h : Course x m t here visits s s') :
    ∀ v ∈ visits, ∀ r, v.record? = some r → s'.workspace.Accepts r := by
  induction h with
  | nil => exact fun v hv => absurd hv List.not_mem_nil
  | @cons v rest s s₁ s₂ hv hrest ih =>
    refine List.forall_mem_cons.mpr ⟨fun r hr => hrest.accepts ?_, ih⟩
    cases hv with
    | unreadable | declined => cases hr
    | written htext hasked htexts hsame hwrite hsame' =>
      obtain rfl := Option.some.inj hr
      exact ((Accepts.of_upsert hwrite).after_upsert hwrite).sameStore hsame'

theorem Handles.created_eq (h : Handles x m t here v s s') (hold : v.insertedId? = none)
    (hsettled : ∀ id, v.updatedId? = some id → s.workspace.Settled (some id)) :
    s'.workspace.holdings.map Holding.created = s.workspace.holdings.map Holding.created := by
  obtain ⟨-, hsame⟩ | ⟨text, r, isNew, w, w', hfate, -, hr, hsame, hwrite, hsame'⟩ := h.store_cases
  · rw [hsame.holdings_eq]
  · unfold Visit.insertedId? at hold
    unfold Visit.updatedId? at hsettled
    rw [hfate] at hold hsettled
    cases isNew with
    | true => cases hold
    | false =>
      have hthis : w.Settled r.id := hr ▸ (hsettled v.id rfl).sameStore hsame
      rw [hsame'.holdings_eq, created_of_upsert hwrite hthis, hsame.holdings_eq]

/-- Where no id is new, the times of creation stay. -/
theorem Course.created_eq (h : Course x m t here visits s s') : visits.filterMap Visit.insertedId? = [] →
    (∀ v ∈ visits, ∀ id, v.updatedId? = some id → s.workspace.Settled (some id)) →
    s'.workspace.holdings.map Holding.created = s.workspace.holdings.map Holding.created := by
  induction h with
  | nil => exact fun _ _ => rfl
  | @cons v rest s s₁ s₂ hv hrest ih =>
    intro hinserted hsettled
    obtain ⟨hvsettled, hsettled⟩ := List.forall_mem_cons.mp hsettled
    rw [List.filterMap_eq_nil_iff] at hinserted
    obtain ⟨hvold, hold⟩ := List.forall_mem_cons.mp hinserted
    rw [ih (List.filterMap_eq_nil_iff.mpr hold) fun w hw id hid => hv.settled (Or.inr (hsettled w hw id hid))]
    exact hv.created_eq hvold hvsettled

/-- Holdings with the same texts and the same times of creation are the same. -/
theorem holdings_ext : ∀ {l l' : List Holding}, l'.map Holding.texts = l.map Holding.texts →
    l'.map Holding.created = l.map Holding.created → l' = l
  | [], [], _, _ => rfl
  | [], _ :: _, h, _ => by cases h
  | _ :: _, [], h, _ => by cases h
  | ⟨texts, created⟩ :: l, ⟨texts', created'⟩ :: l', h, h' => by
    obtain ⟨htexts, hrest⟩ := List.cons.inj h
    obtain ⟨hcreated, hrest'⟩ := List.cons.inj h'
    obtain rfl : texts' = texts := htexts
    obtain rfl : created' = created := hcreated
    rw [holdings_ext hrest hrest']

/-! ### The second run -/

/-- A run does not stop at a file that has been handled before. -/
theorem Handles.not_stops {p real : Path} {fate : Fate} {f : Failure} (hm : AnswersBy m answer)
    (h : Handles x m t here ⟨p, real, fate⟩ s s') (hreal : t.realPath here p = .ok real)
    (haccepts : ∀ r, Visit.record? ⟨p, real, fate⟩ = some r → z.workspace.Accepts r) (hstop : Stops x m t here p z f z') :
    False := by
  cases hstop with
  | unresolved hreal' => cases hreal.symm.trans hreal'
  | failed hreal' hkept htext hasked hskips =>
    obtain rfl := Except.ok.inj (hreal.symm.trans hreal')
    obtain ⟨-, f, hanswer, hskips'⟩ | ⟨_, _, _, _, hanswer, -, -⟩ := h.answered hm htext
    · obtain rfl := Except.error.inj (hanswer.symm.trans (hm.eq hasked))
      cases hskips.symm.trans hskips'
    · cases hanswer.symm.trans (hm.eq hasked)
  | unusable hreal' hkept htext hasked htexts =>
    obtain rfl := Except.ok.inj (hreal.symm.trans hreal')
    obtain ⟨-, f, hanswer, -⟩ | ⟨_, _, _, _, hanswer, htexts', -⟩ := h.answered hm htext
    · cases hanswer.symm.trans (hm.eq hasked)
    · obtain rfl := Except.ok.inj (hanswer.symm.trans (hm.eq hasked))
      cases htexts.symm.trans htexts'
  | unwritten hreal' hkept htext hasked htexts hsame hwrite =>
    obtain rfl := Except.ok.inj (hreal.symm.trans hreal')
    obtain ⟨-, f, hanswer, -⟩ | ⟨found, texts, clock, isNew, hanswer, htexts', rfl⟩ := h.answered hm htext
    · cases hanswer.symm.trans (hm.eq hasked)
    · obtain rfl := Except.ok.inj (hanswer.symm.trans (hm.eq hasked))
      obtain rfl := Except.ok.inj (htexts'.symm.trans htexts)
      -- The record is the one of the first run but for its times.
      have hagain : z.workspace.Accepts (recordOf real.text texts z.workspace.clock) :=
        (haccepts _ rfl).congr (by rw [texts_recordOf, texts_recordOf])
      obtain ⟨isNew, w, hdone⟩ := (hagain.sameStore hsame).upsert (isWhole_recordOf _ _ _)
      cases hwrite.symm.trans hdone

theorem Stops.not_excluded {p real : Path} {f : Failure} (h : Stops x m t here p s f s') (hreal : t.realPath here p = .ok real) :
    real ∉ x.excluded := by
  cases h with
  | unresolved hreal' => cases hreal.symm.trans hreal'
  | failed hreal' hkept | unusable hreal' hkept | unwritten hreal' hkept =>
    rwa [Except.ok.inj (hreal.symm.trans hreal')]

/-- Over files that have all been handled no run stops, as long as the store accepts what was written before. -/
theorem Walks.not_stops {files : List Path} {p : Path} {f : Failure} (hm : AnswersBy m answer)
    (hwalk : Walks x m t here files visits s s')
    (haccepts : ∀ v ∈ visits, ∀ r, v.record? = some r → z.workspace.Accepts r) (hp : p ∈ files)
    (hstop : Stops x m t here p z f z') : False := by
  obtain ⟨real, hreal⟩ := hwalk.resolved p hp
  have hkept : (p, real) ∈ kept x t here files := mem_kept_iff.mpr ⟨hp, hreal, hstop.not_excluded hreal⟩
  rw [← hwalk.visited] at hkept
  obtain ⟨⟨_, _, fate⟩, hv, hkey⟩ := List.mem_map.mp hkept
  obtain ⟨rfl, rfl⟩ := Prod.mk.inj hkey
  obtain ⟨a, b, hhandles⟩ := hwalk.course.exists_handles _ hv
  exact hhandles.not_stops hm hreal (haccepts _ hv) hstop

/-- When a run has gone well and another one is made over the same tree, that one goes well too. Nothing is inserted any
    more, what was inserted or updated is updated in the order in which the files are collected, what was skipped is
    skipped, and the store holds what it held, each record in its place. An indexer that is made anew for the second run
    leaves out the same paths. -/
theorem run_again (x : Indexer) (m : Models μ) (answer : Prompt → Except Failure Answer) (root : String)
    (s s' z : Session μ) (report : Report) (hmodel : AnswersBy m answer)
    (hrun : x.run (Session.means m) s.workspace.tree s.workspace.here root s = (.ok report, s'))
    (hsame : SameStore s'.workspace z.workspace) :
    ∃ (files : List Path) (visits : List Visit) (z' : Session μ),
      s.workspace.tree.collect s.workspace.here root x.config.includeSuffixes = .ok files ∧
      visits.map (fun v => (v.path, v.real)) = kept x s.workspace.tree s.workspace.here files ∧
      report = ⟨visits.filterMap Visit.insertedId?, visits.filterMap Visit.updatedId?,
        visits.filterMap Visit.skippedId?⟩ ∧
      x.run (Session.means m) z.workspace.tree z.workspace.here root z =
        (.ok ⟨[], visits.filterMap Visit.writtenId?, report.skipped⟩, z') ∧
      z'.workspace.holdings = s'.workspace.holdings ∧
      ∀ given, realPaths z.workspace.tree z.workspace.here given = realPaths s.workspace.tree s.workspace.here given := by
  rcases run_cases x m s.workspace.tree s.workspace.here root s with ⟨fault, -, hfails⟩ |
    ⟨files, hfiles, ⟨visits, s₁, hok, hwalk⟩ | ⟨_, _, _, _, _, f, _, -, hfails, -, -⟩⟩
  · rw [hrun] at hfails
    cases hfails
  · rw [hrun] at hok
    obtain ⟨hreport, rfl⟩ := Prod.mk.inj hok
    obtain rfl := Except.ok.inj hreport
    obtain ⟨halike, hhere⟩ := hwalk.course.alike
    have hwritten := hwalk.course.after_written
    -- The second run is one over the tree of the first.
    have hagain : x.run (Session.means m) z.workspace.tree z.workspace.here root z =
        x.handleAll (Session.means m) s.workspace.tree s.workspace.here files {} z := by
      rw [hsame.tree, hsame.here, hhere, run_alike halike, run_of_collect hfiles]
    rcases @handleAll_cases μ x m s.workspace.tree s.workspace.here files {} z with ⟨visits', z', hsecond, hwalk'⟩ |
      ⟨before, p, after, visits', z₁, f, z', hsplit, -, hwalk', hstop⟩
    · have hrepeats := hwalk'.course.repeats hmodel hwalk.course.exists_handles (hwalk'.visited.trans hwalk.visited.symm)
        fun v hv id hid => by
          rw [hsame.texts_eq]
          exact (hwritten v hv id hid).1
      obtain ⟨hinserted, hupdated, hskipped, htexts⟩ := Repeats.lists_eq hrepeats
      refine ⟨files, visits, z', hfiles, hwalk.visited, foldl_add visits {}, ?_, holdings_ext ?_ ?_, fun given => ?_⟩
      · rw [hagain, hsecond, foldl_add, foldl_add, hinserted, hupdated, hskipped]
        rfl
      · rw [map_texts_holdings, map_texts_holdings, hwalk'.course.accounts.said, hsame.texts_eq,
          hwalk.course.accounts.said, saidAfter_eq, saidAfter_eq, htexts]
        exact CodeAtlas.Texts.foldl_put_again _ _
      · rw [hwalk'.course.created_eq hinserted fun v' hv' id hid => ?_, hsame.holdings_eq]
        have hmem : id ∈ visits'.filterMap Visit.updatedId? := List.mem_filterMap.mpr ⟨v', hv', hid⟩
        rw [hupdated] at hmem
        obtain ⟨v, hv, hid⟩ := List.mem_filterMap.mp hmem
        exact (hwritten v hv id hid).2.sameStore hsame
      · rw [hsame.tree, hsame.here, hhere, realPaths_alike halike]
    · have hp : p ∈ files := hsplit ▸ List.mem_append_right before List.mem_cons_self
      exact (hwalk.not_stops hmodel (fun v hv r hr =>
        hwalk'.course.accepts ((hwalk.course.accepts_written v hv r hr).sameStore hsame)) hp hstop).elim
  · rw [hrun] at hfails
    cases hfails

/-- What the models that say the same of every file say. -/
def sameAnswer (_ : Prompt) : Except Failure Answer := .ok (.summary ⟨" outline\n", "Says x. ", "A, b ,a,"⟩)

/-- The file that is listed twice is updated twice. -/
theorem run_doubled_again : AnswersBy saysTheSame sameAnswer ∧
    ∃ s' z', Indexer.run {} (Session.means saysTheSame) doubled.tree doubled.here "." ⟨doubled, ()⟩ =
        (.ok ⟨["/a.py"], ["/a.py"], []⟩, s') ∧
      Indexer.run {} (Session.means saysTheSame) s'.workspace.tree s'.workspace.here "." s' =
        (.ok ⟨[], ["/a.py", "/a.py"], []⟩, z') ∧
      z'.workspace.holdings = s'.workspace.holdings := by
  have hmodel : AnswersBy saysTheSame sameAnswer := fun _ _ => rfl
  obtain ⟨first, hfirst⟩ : ∃ first, first =
    Indexer.run {} (Session.means saysTheSame) doubled.tree doubled.here "." ⟨doubled, ()⟩ := ⟨_, rfl⟩
  have hrun : Indexer.run {} (Session.means saysTheSame) doubled.tree doubled.here "." ⟨doubled, ()⟩ =
      (.ok ⟨["/a.py"], ["/a.py"], []⟩, first.2) := by
    rw [hfirst]
    exact run_doubled
  have hplace : first.2.workspace.tree = doubled.tree ∧ first.2.workspace.here = doubled.here := by
    rw [hfirst, run_of_collect collect_doubled]
    exact ⟨rfl, rfl⟩
  have hsecond : (Indexer.run {} (Session.means saysTheSame) doubled.tree doubled.here "." first.2).1 =
      .ok ⟨[], ["/a.py", "/a.py"], []⟩ := by
    rw [hfirst, run_of_collect collect_doubled, run_of_collect collect_doubled]
    rfl
  obtain ⟨files, visits, z', -, -, -, hagain, hheld, -⟩ :=
    run_again {} saysTheSame sameAnswer "." ⟨doubled, ()⟩ first.2 first.2 _ hmodel hrun (.refl _)
  refine ⟨hmodel, first.2, z', hrun, ?_, hheld⟩
  rw [hplace.1, hplace.2] at hagain ⊢
  rw [hagain] at hsecond ⊢
  exact Prod.ext hsecond rfl

end CodeAtlas.Index
