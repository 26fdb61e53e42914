import CodeAtlas.Proofs.FileTree.Reading
import CodeAtlas.Proofs.Store.Writes
import CodeAtlas.Session

/-! What one run of an indexer does. The files that are not left out are visited in order, and each visit ends in one
    of three ways; the report, the questions to the model and the store follow from the list of visits. A failure ends
    the run in the middle of a visit, and all visits before it stand. -/

namespace CodeAtlas.Index

open Workspace

variable {μ : Type}

/-- A note leaves everything of a session as it is but the notes. -/
theorem exists_noted (notes : List Note) (s : Session μ) : ∃ noted : Session μ, noted = Journal.add notes s ∧
    noted.model = s.model ∧ SameStore s.workspace noted.workspace ∧ noted.workspace.clock = s.workspace.clock :=
  ⟨_, rfl, rfl, ⟨rfl, rfl, rfl, rfl⟩, rfl⟩

theorem sameStore_noted (notes : List Note) (s : Session μ) :
    SameStore s.workspace (Journal.add notes s).workspace := ⟨rfl, rfl, rfl, rfl⟩

theorem sameStore_noteWritten (isNew : Bool) (r : Record) (w : Workspace) (k : μ) :
    SameStore w (Indexer.noteWritten isNew r (⟨w, k⟩ : Session μ)).workspace := ⟨rfl, rfl, rfl, rfl⟩

/-! ### Visits -/

/-- What becomes of a file: it cannot be read, the model turns it down as unreadable, or its record is written. -/
inductive Fate where
  | unreadable
  | declined (text : String)
  | written (text : String) (record : Record) (isNew : Bool)

/-- A file that has been handled, and its real path. -/
structure Visit where
  path : Path
  real : Path
  fate : Fate

namespace Visit

/-- The file goes by its real path. -/
def id (v : Visit) : String := v.real.text

/-- The text of the file, if it has one. -/
def text? (v : Visit) : Option String :=
  match v.fate with
  | .unreadable => none
  | .declined text | .written text _ _ => some text

/-- What the model is asked about the file, of whose text it is given the first characters. -/
def prompts (x : Indexer) (v : Visit) : List Prompt :=
  v.text?.toList.map fun text =>
    ⟨x.config.systemPrompt, userPrompt v.id (String.ofList (text.toList.take x.config.maxFileChars))⟩

def record? (v : Visit) : Option Record :=
  match v.fate with
  | .written _ record _ => some record
  | _ => none

def insertedId? (v : Visit) : Option String :=
  match v.fate with
  | .written _ _ true => some v.id
  | _ => none

def updatedId? (v : Visit) : Option String :=
  match v.fate with
  | .written _ _ false => some v.id
  | _ => none

def skippedId? (v : Visit) : Option String :=
  match v.fate with
  | .written _ _ _ => none
  | _ => some v.id

def isDeclined (v : Visit) : Bool :=
  match v.fate with
  | .declined _ => true
  | _ => false

end Visit

/-- The record that is made of the texts of a file. -/
def recordOf (id : String) (texts : Texts) (clock : Clock) : Record :=
  ⟨some id, some texts.content, some texts.description, some texts.keywords, clock.now, clock.tick.now⟩

theorem isWhole_recordOf (id : String) (texts : Texts) (clock : Clock) : (recordOf id texts clock).IsWhole :=
  ⟨⟨rfl, rfl⟩, rfl, rfl⟩

/-- The texts of a record, by the answer of the model. -/
def answerTexts (x : Indexer) (id : String) (answer : Answer) : Except Failure Texts :=
  (answer.read id).bind fun summary => summary.texts id x.config.maxKeywords

/-- A visit from the state before it to the one after it. -/
inductive Handles (x : Indexer) (m : Models μ) (t : FileTree) (here : Place) : Visit → Session μ → Session μ → Prop
  | unreadable {p real : Path} {fault : ReadFault} {s s' : Session μ} : t.readText here p = .error fault →
    s'.model = s.model → SameStore s.workspace s'.workspace → Handles x m t here ⟨p, real, .unreadable⟩ s s'
  | declined {p real : Path} {text : String} {f : Failure} {s s' : Session μ} : t.readText here p = .ok text →
    m.summarize (x.prompt real.text text) s.model = (.error f, s'.model) → skips f = true →
    SameStore s.workspace s'.workspace → Handles x m t here ⟨p, real, .declined text⟩ s s'
  | written {p real : Path} {text : String} {answer : Answer} {texts : Texts} {isNew : Bool} {w w' : Workspace}
    {s s' : Session μ} : t.readText here p = .ok text →
    m.summarize (x.prompt real.text text) s.model = (.ok answer, s'.model) →
    answerTexts x real.text answer = .ok texts → SameStore s.workspace w →
    w.upsert (recordOf real.text texts s.workspace.clock) = (.ok isNew, w') → SameStore w' s'.workspace →
      Handles x m t here ⟨p, real, .written text (recordOf real.text texts s.workspace.clock) isNew⟩ s s'

/-- The failure of a visit, with the state that it leaves behind. -/
inductive Stops (x : Indexer) (m : Models μ) (t : FileTree) (here : Place) :
    Path → Session μ → Failure → Session μ → Prop
  | unresolved {p : Path} {fault : FileFault} {s : Session μ} : t.realPath here p = .error fault →
    Stops x m t here p s (.file fault) s
  | failed {p real : Path} {text : String} {f : Failure} {s s' : Session μ} : t.realPath here p = .ok real →
    real ∉ x.excluded → t.readText here p = .ok text →
    m.summarize (x.prompt real.text text) s.model = (.error f, s'.model) → skips f = false →
    SameStore s.workspace s'.workspace → Stops x m t here p s f s'
  | unusable {p real : Path} {text : String} {answer : Answer} {f : Failure} {s s' : Session μ} :
    t.realPath here p = .ok real → real ∉ x.excluded → t.readText here p = .ok text →
    m.summarize (x.prompt real.text text) s.model = (.ok answer, s'.model) →
    answerTexts x real.text answer = .error f → SameStore s.workspace s'.workspace → Stops x m t here p s f s'
  | unwritten {p real : Path} {text : String} {answer : Answer} {texts : Texts} {f : Failure} {w : Workspace}
    {s s' : Session μ} : t.realPath here p = .ok real → real ∉ x.excluded → t.readText here p = .ok text →
    m.summarize (x.prompt real.text text) s.model = (.ok answer, s'.model) →
    answerTexts x real.text answer = .ok texts → SameStore s.workspace w →
    w.upsert (recordOf real.text texts s.workspace.clock) = (.error f, s'.workspace) → Stops x m t here p s f s'

/-- Visits one after the other. -/
inductive Course (x : Indexer) (m : Models μ) (t : FileTree) (here : Place) :
    List Visit → Session μ → Session μ → Prop
  | nil {s : Session μ} : Course x m t here [] s s
  | cons {v : Visit} {rest : List Visit} {s s₁ s₂ : Session μ} : Handles x m t here v s s₁ →
    Course x m t here rest s₁ s₂ → Course x m t here (v :: rest) s s₂

/-! ### Single files -/

section Steps
variable {x : Indexer} {m : Models μ} {t : FileTree} {here : Place} {p real : Path} {s s' : Session μ}

theorem readSource_eq (h : t.realPath here p = .ok real) :
    readSource t here p = (t.readText here p).mapError (.unreadable p) := by
  unfold readSource
  cases htext : t.readText here p with
  | ok text => rfl
  | error fault =>
    have hordinary := FileTree.isOrdinary_of_readText h htext
    simp only [Except.mapError, hordinary, if_true]

theorem summarize_of_fault {fault : ReadFault} {id : String} (hreal : t.realPath here p = .ok real)
    (htext : t.readText here p = .error fault) :
    x.summarize (Session.means m) t here p id s = (.error (.unreadable p fault), s) := by
  rw [Indexer.summarize, readSource_eq hreal, htext]
  rfl

variable {text id : String} {k : μ} {answer : Answer}

theorem summarize_of_failure {f : Failure} (hreal : t.realPath here p = .ok real) (htext : t.readText here p = .ok text)
    (hfails : m.summarize (x.prompt id text) s.model = (.error f, k)) :
    x.summarize (Session.means m) t here p id s = (.error f, { s with model := k }) := by
  rw [Indexer.summarize, readSource_eq hreal, htext]
  simp only [Except.mapError, Session.means, Session.byModel, hfails]

/-- Once the model has answered, the record follows from the answer, or a failure. -/
theorem summarize_of_answer (hreal : t.realPath here p = .ok real) (htext : t.readText here p = .ok text)
    (hanswers : m.summarize (x.prompt id text) s.model = (.ok answer, k)) :
    x.summarize (Session.means m) t here p id s = match answerTexts x id answer with
      | .error f => (.error f, { s with model := k })
      | .ok texts => (.ok (recordOf id texts s.workspace.clock),
        ⟨s.workspace.readClock.2.readClock.2, k⟩) := by
  rw [Indexer.summarize, readSource_eq hreal, htext]
  simp only [Except.mapError, Session.means, Session.byModel, hanswers, answerTexts]
  cases (answer.read id).bind fun summary => summary.texts id x.config.maxKeywords <;> rfl

/-- What is wrong with an answer does not only leave the file out. -/
theorem skips_of_answerTexts {f : Failure} (h : answerTexts x id answer = .error f) : skips f = false := by
  unfold answerTexts at h
  cases hread : answer.read id with
  | error g =>
    rw [hread] at h
    cases h
    cases answer with
    | summary summary => cases hread
    | value v =>
      unfold Answer.read at hread
      dsimp only at hread
      cases hvalid : Summary.schema.validate v with
      | ok fields =>
        rw [hvalid] at hread
        cases hread
      | error rejection =>
        rw [hvalid] at hread
        cases hread
        rfl
  | ok summary =>
    rw [hread] at h
    dsimp only [Except.bind, Summary.texts] at h
    split at h
    · cases h
      rfl
    · cases h

/-- The report after another visit. -/
def Report.add (r : Report) (v : Visit) : Report :=
  match v.fate with
  | .written _ _ true => { r with inserted := r.inserted ++ [v.id] }
  | .written _ _ false => { r with updated := r.updated ++ [v.id] }
  | _ => { r with skipped := r.skipped ++ [v.id] }

/-- A file is handled, or the run stops at it. -/
theorem handle_cases (hreal : t.realPath here p = .ok real) (hkept : real ∉ x.excluded) (report : Report)
    (s : Session μ) : (∃ fate s', x.handle (Session.means m) t here p real.text report s =
        (.ok (report.add ⟨p, real, fate⟩), s') ∧ Handles x m t here ⟨p, real, fate⟩ s s') ∨
      ∃ f s', x.handle (Session.means m) t here p real.text report s = (.error f, s') ∧
        Stops x m t here p s f s' := by
  obtain ⟨noted, hnoted, hmodel, hsame, hclock⟩ := exists_noted [info ("Indexing file: " ++ real.text)] s
  -- From here on the state is the one after the first note, which differs from `s` in nothing that matters.
  unfold Indexer.handle
  dsimp only
  rw [← hnoted]
  cases htext : t.readText here p with
  | error fault =>
    rw [summarize_of_fault hreal htext]
    exact Or.inl ⟨.unreadable, _, rfl, .unreadable htext hmodel (hsame.trans (sameStore_noted _ _))⟩
  | ok text =>
    rcases hasked : m.summarize (x.prompt real.text text) noted.model with ⟨f | answer, k⟩
    · rw [summarize_of_failure hreal htext hasked]
      rw [hmodel] at hasked
      dsimp only
      cases hskips : skips f with
      | true =>
        rw [if_pos rfl]
        exact Or.inl ⟨.declined text, _, rfl, .declined htext hasked hskips (hsame.trans (sameStore_noted _ _))⟩
      | false =>
        rw [if_neg Bool.false_ne_true]
        exact Or.inr ⟨f, _, rfl, .failed hreal hkept htext hasked hskips hsame⟩
    · rw [summarize_of_answer hreal htext hasked]
      rw [hmodel] at hasked
      cases htexts : answerTexts x real.text answer with
      | error f =>
        dsimp only
        rw [skips_of_answerTexts htexts, if_neg Bool.false_ne_true]
        exact Or.inr ⟨f, _, rfl, .unusable hreal hkept htext hasked htexts hsame⟩
      | ok texts =>
        dsimp only
        have hread := (hsame.trans (sameStore_readClock _)).trans (sameStore_readClock _)
        rw [hclock]
        rcases hwrite : noted.workspace.readClock.2.readClock.2.upsert (recordOf real.text texts s.workspace.clock) with
          ⟨f | isNew, w⟩
        · simp only [Session.means, Session.inWorkspace, hwrite]
          exact Or.inr ⟨f, _, rfl, .unwritten hreal hkept htext hasked htexts hread hwrite⟩
        · simp only [Session.means, Session.inWorkspace, hwrite]
          refine Or.inl ⟨.written text (recordOf real.text texts s.workspace.clock) isNew,
            Indexer.noteWritten isNew (recordOf real.text texts s.workspace.clock) ⟨w, k⟩, ?_,
            .written htext hasked htexts hread hwrite (sameStore_noteWritten _ _ _ _)⟩
          cases isNew <;> rfl

end Steps

/-! ### Whole runs -/

section Runs
variable {x : Indexer} {m : Models μ} {t : FileTree} {here : Place} {s s' : Session μ}

/-- The files that are not left out, with their real paths. -/
def kept (x : Indexer) (t : FileTree) (here : Place) (files : List Path) : List (Path × Path) :=
  files.filterMap fun p => match t.realPath here p with
    | .ok real => if real ∈ x.excluded then none else some (p, real)
    | .error _ => none

/-- The real paths to leave out are those of the paths that were given. -/
theorem mem_realPaths_iff {given reals : List Path} {real : Path} (h : realPaths t here given = .ok reals) :
    real ∈ reals ↔ ∃ p ∈ given, t.realPath here p = .ok real := by
  induction given generalizing reals with
  | nil =>
    obtain rfl := Except.ok.inj h
    simp
  | cons p rest ih =>
    unfold realPaths at h
    cases hreal : t.realPath here p with
    | error fault =>
      rw [hreal] at h
      cases h
    | ok found =>
      rw [hreal] at h
      dsimp only at h
      cases hrest : realPaths t here rest with
      | error f =>
        rw [hrest] at h
        cases h
      | ok others =>
        rw [hrest] at h
        obtain rfl := Except.ok.inj h
        simp [ih hrest, hreal, eq_comm]

theorem mem_kept_iff {files : List Path} {p real : Path} : (p, real) ∈ kept x t here files ↔
    p ∈ files ∧ t.realPath here p = .ok real ∧ real ∉ x.excluded := by
  simp only [kept, List.mem_filterMap]
  constructor
  · rintro ⟨q, hq, hsome⟩
    split at hsome
    · rename_i found hreal
      split at hsome
      · cases hsome
      · rename_i hkept
        cases hsome
        exact ⟨hq, hreal, hkept⟩
    · cases hsome
  · rintro ⟨hp, hreal, hkept⟩
    refine ⟨p, hp, ?_⟩
    rw [hreal]
    dsimp only
    rw [if_neg hkept]

/-- Where the paths to leave out were given, a file is left out when it has the real path of one of them. -/
theorem mem_kept_iff_of_realPaths {given files : List Path} {p real : Path}
    (h : realPaths t here given = .ok x.excluded) : (p, real) ∈ kept x t here files ↔
      p ∈ files ∧ t.realPath here p = .ok real ∧ ∀ e ∈ given, t.realPath here e ≠ t.realPath here p := by
  rw [mem_kept_iff]
  refine and_congr_right fun _ => and_congr_right fun hreal => ?_
  simp [mem_realPaths_iff h, hreal]

/-- The visits are those of the files that are not left out, in their order. -/
structure Walks (x : Indexer) (m : Models μ) (t : FileTree) (here : Place) (files : List Path) (visits : List Visit)
    (s s' : Session μ) : Prop where
  resolved : ∀ p ∈ files, ∃ real, t.realPath here p = .ok real
  visited : visits.map (fun v => (v.path, v.real)) = kept x t here files
  course : Course x m t here visits s s'

namespace Walks
variable {p real : Path} {fate : Fate} {files : List Path} {visits : List Visit} {s₁ : Session μ}

theorem nil (s : Session μ) : Walks x m t here [] [] s s :=
  ⟨fun _ h => absurd h List.not_mem_nil, rfl, .nil⟩

theorem leaveOut (hreal : t.realPath here p = .ok real) (hexcluded : real ∈ x.excluded)
    (h : Walks x m t here files visits s s') : Walks x m t here (p :: files) visits s s' where
  resolved := List.forall_mem_cons.mpr ⟨⟨real, hreal⟩, h.resolved⟩
  visited := by simp [kept, hreal, hexcluded, h.visited]
  course := h.course

theorem cons (hreal : t.realPath here p = .ok real) (hkept : real ∉ x.excluded)
    (hv : Handles x m t here ⟨p, real, fate⟩ s s₁) (h : Walks x m t here files visits s₁ s') :
    Walks x m t here (p :: files) (⟨p, real, fate⟩ :: visits) s s' where
  resolved := List.forall_mem_cons.mpr ⟨⟨real, hreal⟩, h.resolved⟩
  visited := by simp [kept, hreal, hkept, h.visited]
  course := .cons hv h.course

end Walks

/-- All files are walked through, or those before the one at which the run stops. -/
theorem handleAll_cases : ∀ (files : List Path) (report : Report) (s : Session μ),
    (∃ visits s', x.handleAll (Session.means m) t here files report s = (.ok (visits.foldl Report.add report), s') ∧
      Walks x m t here files visits s s') ∨
    ∃ before p after visits s₁ f s', files = before ++ p :: after ∧
      x.handleAll (Session.means m) t here files report s = (.error f, s') ∧
      Walks x m t here before visits s s₁ ∧ Stops x m t here p s₁ f s'
  | [], report, s => Or.inl ⟨[], s, rfl, .nil s⟩
  | p :: rest, report, s => by
    cases hreal : t.realPath here p with
    | error fault =>
      exact Or.inr ⟨[], p, rest, [], s, _, s, rfl, by rw [Indexer.handleAll, hreal], .nil s, .unresolved hreal⟩
    | ok real =>
      rw [Indexer.handleAll, hreal]
      dsimp only
      by_cases hexcluded : real ∈ x.excluded
      · rw [if_pos (List.contains_iff_mem.mpr hexcluded)]
        rcases handleAll_cases rest report s with ⟨visits, s', hrun, hwalk⟩ |
          ⟨before, q, after, visits, s₁, f, s', rfl, hrun, hwalk, hstop⟩
        · exact Or.inl ⟨visits, s', hrun, hwalk.leaveOut hreal hexcluded⟩
        · exact Or.inr ⟨p :: before, q, after, visits, s₁, f, s', rfl, hrun, hwalk.leaveOut hreal hexcluded, hstop⟩
      · rw [if_neg (mt List.contains_iff_mem.mp hexcluded)]
        rcases @handle_cases _ x m t here p real hreal hexcluded report s with ⟨fate, s₁, hhandle, hvisit⟩ |
          ⟨f, s', hhandle, hstop⟩
        · rw [hhandle]
          rcases handleAll_cases rest (report.add ⟨p, real, fate⟩) s₁ with ⟨visits, s', hrun, hwalk⟩ |
            ⟨before, q, after, visits, s₂, f, s', rfl, hrun, hwalk, hstop⟩
          · exact Or.inl ⟨⟨p, real, fate⟩ :: visits, s', hrun, hwalk.cons hreal hexcluded hvisit⟩
          · exact Or.inr ⟨p :: before, q, after, ⟨p, real, fate⟩ :: visits, s₂, f, s', rfl, hrun,
              hwalk.cons hreal hexcluded hvisit, hstop⟩
        · rw [hhandle]
          exact Or.inr ⟨[], p, rest, [], s, f, s', rfl, rfl, .nil s, hstop⟩

/-- A run finds no files, walks through all of them, or stops at one. -/
theorem run_cases (x : Indexer) (m : Models μ) (t : FileTree) (here : Place) (root : String) (s : Session μ) :
    (∃ fault, t.collect here root x.config.includeSuffixes = .error fault ∧
      x.run (Session.means m) t here root s = (.error (.index (.collecting fault)), s)) ∨
    ∃ files, t.collect here root x.config.includeSuffixes = .ok files ∧
      ((∃ visits s', x.run (Session.means m) t here root s = (.ok (visits.foldl Report.add {}), s') ∧
        Walks x m t here files visits s s') ∨
      ∃ before p after visits s₁ f s', files = before ++ p :: after ∧
        x.run (Session.means m) t here root s = (.error f, s') ∧ Walks x m t here before visits s s₁ ∧
        Stops x m t here p s₁ f s') := by
  unfold Indexer.run
  cases hfiles : t.collect here root x.config.includeSuffixes with
  | error fault => exact Or.inl ⟨fault, rfl, rfl⟩
  | ok files => exact Or.inr ⟨files, rfl, handleAll_cases files {} s⟩

/-! ### What follows from the visits -/

theorem foldl_add (visits : List Visit) (report : Report) : visits.foldl Report.add report =
    { inserted := report.inserted ++ visits.filterMap Visit.insertedId?
      updated := report.updated ++ visits.filterMap Visit.updatedId?
      skipped := report.skipped ++ visits.filterMap Visit.skippedId? } := by
  induction visits generalizing report with
  | nil => simp
  | cons v rest ih =>
    obtain ⟨p, real, fate⟩ := v
    rw [List.foldl_cons, ih]
    rcases fate with _ | _ | ⟨_, _, _ | _⟩ <;>
      simp [Report.add, Visit.insertedId?, Visit.updatedId?, Visit.skippedId?, List.filterMap_cons]

/-- Every question to the model is one for a record or for a file that it turned down. -/
theorem length_prompts (x : Indexer) (visits : List Visit) : (visits.flatMap (Visit.prompts x)).length =
    (visits.filterMap Visit.insertedId?).length + (visits.filterMap Visit.updatedId?).length +
      visits.countP Visit.isDeclined := by
  induction visits with
  | nil => rfl
  | cons v rest ih =>
    obtain ⟨p, real, fate⟩ := v
    rw [List.flatMap_cons, List.length_append, ih]
    rcases fate with _ | _ | ⟨_, _, _ | _⟩ <;>
      simp [Visit.prompts, Visit.text?, Visit.insertedId?, Visit.updatedId?, Visit.isDeclined, List.filterMap_cons,
        List.countP_cons] <;> omega

/-- What a store says after the records of visits have been put. -/
def saidAfter (l : List CodeAtlas.Texts) (visits : List Visit) : List CodeAtlas.Texts :=
  (visits.filterMap Visit.record?).foldl (fun l r => Texts.put l r.texts) l

theorem saidAfter_cons (l : List CodeAtlas.Texts) (v : Visit) (rest : List Visit) :
    saidAfter l (v :: rest) = saidAfter (saidAfter l [v]) rest := by
  rw [saidAfter, saidAfter, saidAfter, ← List.foldl_append, ← List.filterMap_append, List.singleton_append]

/-- The model after a question. -/
def asked (m : Models μ) (k : μ) (q : Prompt) : μ := (m.summarize q k).2

/-- What visits do besides the report: to the model, to the store, and in what they find there. -/
structure Accounts (x : Indexer) (m : Models μ) (t : FileTree) (here : Place) (visits : List Visit)
    (s s' : Session μ) : Prop where
  model : s'.model = (visits.flatMap (Visit.prompts x)).foldl (asked m) s.model
  said : s'.workspace.texts = saidAfter s.workspace.texts visits
  isNew : ∀ before p real text r isNew after, visits = before ++ ⟨p, real, .written text r isNew⟩ :: after →
    isNew = !Texts.known (saidAfter s.workspace.texts before) (some real.text)
  texts : ∀ v ∈ visits, ∀ text, v.text? = some text ↔ t.HasText here v.path text

namespace Handles
variable {v : Visit}

theorem model_eq (h : Handles x m t here v s s') : s'.model = (v.prompts x).foldl (asked m) s.model := by
  cases h with
  | unreadable htext hmodel hsame => exact hmodel
  | declined htext hasked hskips hsame =>
    exact (congrArg Prod.snd hasked).symm
  | written htext hasked htexts hsame hwrite hsame' => exact (congrArg Prod.snd hasked).symm

theorem said_eq (h : Handles x m t here v s s') : s'.workspace.texts = saidAfter s.workspace.texts [v] := by
  cases h with
  | unreadable htext hmodel hsame => exact hsame.texts_eq
  | declined htext hasked hskips hsame => exact hsame.texts_eq
  | written htext hasked htexts hsame hwrite hsame' =>
    rw [hsame'.texts_eq, (upsert_texts (isWhole_recordOf _ _ _) hwrite).2, hsame.texts_eq]
    rfl

theorem isNew_eq {p real : Path} {text : String} {r : Record} {isNew : Bool}
    (h : Handles x m t here ⟨p, real, .written text r isNew⟩ s s') :
    isNew = !Texts.known s.workspace.texts (some real.text) := by
  cases h with
  | written htext hasked htexts hsame hwrite hsame' =>
    rw [← hsame.texts_eq]
    exact (upsert_texts (isWhole_recordOf _ _ _) hwrite).1

theorem unreadable_iff (h : Handles x m t here v s s') :
    v.fate = .unreadable ↔ ∃ fault, t.readText here v.path = .error fault := by
  cases h with
  | unreadable htext hmodel hsame => exact iff_of_true rfl ⟨_, htext⟩
  | declined htext hasked hskips hsame => simp [htext]
  | written htext hasked htexts hsame hwrite hsame' => simp [htext]

/-- The text of the visit is that of the file. -/
theorem text?_eq (h : Handles x m t here v s s') (text : String) : v.text? = some text ↔ t.HasText here v.path text := by
  rw [← FileTree.readText_eq_ok_iff]
  cases h with
  | unreadable htext hmodel hsame => simp [Visit.text?, htext]
  | declined htext hasked hskips hsame => simp [Visit.text?, htext]
  | written htext hasked htexts hsame hwrite hsame' => simp [Visit.text?, htext]

end Handles

theorem Stops.said_eq {p : Path} {f : Failure} (h : Stops x m t here p s f s') :
    s'.workspace.texts = s.workspace.texts := by
  cases h with
  | unresolved hreal => rfl
  | failed hreal hkept htext hasked hskips hsame => exact hsame.texts_eq
  | unusable hreal hkept htext hasked htexts hsame => exact hsame.texts_eq
  | unwritten hreal hkept htext hasked htexts hsame hwrite =>
    exact (upsert_texts (isWhole_recordOf _ _ _) hwrite).trans hsame.texts_eq

theorem Course.accounts {visits : List Visit} (h : Course x m t here visits s s') :
    Accounts x m t here visits s s' := by
  induction h with
  | nil => exact ⟨rfl, rfl, fun before _ _ _ _ _ _ heq => by simp at heq, fun v hv => absurd hv List.not_mem_nil⟩
  | @cons v rest s s₁ s₂ hv hrest ih =>
    refine ⟨?_, ?_, fun before p real text r isNew after heq => ?_, ?_⟩
    · rw [List.flatMap_cons, List.foldl_append, ← hv.model_eq]
      exact ih.model
    · rw [saidAfter_cons, ← hv.said_eq]
      exact ih.said
    · -- What counts as known is what is said before the visit, so the visits are taken off one by one.
      cases before with
      | nil =>
        obtain ⟨rfl, -⟩ := List.cons.inj heq
        exact hv.isNew_eq
      | cons first before =>
        obtain ⟨rfl, hafter⟩ := List.cons.inj heq
        rw [saidAfter_cons, ← hv.said_eq]
        exact ih.isNew before p real text r isNew after hafter
    · exact List.forall_mem_cons.mpr ⟨hv.text?_eq, ih.texts⟩

end Runs

/-- A run either walks through all files or stops at one of them, or there is nothing to walk through. The report has
    every file in the list that its visit calls for, as many questions are put to the model as records are written and
    files turned down, each with the first characters of the text of its file, and the records are in the store, also
    when the run stops later. -/
theorem run_visits (x : Indexer) (m : Models μ) (root : String) (s : Session μ) :
    (∀ given, realPaths s.workspace.tree s.workspace.here given = .ok x.excluded → ∀ files p real,
      (p, real) ∈ kept x s.workspace.tree s.workspace.here files ↔
        p ∈ files ∧ s.workspace.tree.realPath s.workspace.here p = .ok real ∧
          ∀ e ∈ given, s.workspace.tree.realPath s.workspace.here e ≠ s.workspace.tree.realPath s.workspace.here p) ∧
    match x.run (Session.means m) s.workspace.tree s.workspace.here root s with
    | (.ok report, s') => ∃ files visits,
        s.workspace.tree.collect s.workspace.here root x.config.includeSuffixes = .ok files ∧
        Walks x m s.workspace.tree s.workspace.here files visits s s' ∧
        Accounts x m s.workspace.tree s.workspace.here visits s s' ∧
        report = ⟨visits.filterMap Visit.insertedId?, visits.filterMap Visit.updatedId?,
          visits.filterMap Visit.skippedId?⟩ ∧
        (visits.flatMap (Visit.prompts x)).length = report.total + visits.countP Visit.isDeclined
    | (.error f, s') =>
      (∃ fault, s.workspace.tree.collect s.workspace.here root x.config.includeSuffixes = .error fault ∧
        f = .index (.collecting fault) ∧ s' = s) ∨
      ∃ files before p after visits s₁,
        s.workspace.tree.collect s.workspace.here root x.config.includeSuffixes = .ok files ∧
        files = before ++ p :: after ∧ Walks x m s.workspace.tree s.workspace.here before visits s s₁ ∧
        Accounts x m s.workspace.tree s.workspace.here visits s s₁ ∧
        Stops x m s.workspace.tree s.workspace.here p s₁ f s' ∧ s'.workspace.texts = s₁.workspace.texts := by
  refine ⟨fun given hgiven files p real => mem_kept_iff_of_realPaths hgiven, ?_⟩
  rcases run_cases x m s.workspace.tree s.workspace.here root s with ⟨fault, hfiles, hrun⟩ |
    ⟨files, hfiles, ⟨visits, s', hrun, hwalk⟩ | ⟨before, p, after, visits, s₁, f, s', hsplit, hrun, hwalk, hstop⟩⟩
  · rw [hrun]
    exact Or.inl ⟨fault, hfiles, rfl, rfl⟩
  · rw [hrun]
    refine ⟨files, visits, hfiles, hwalk, hwalk.course.accounts, foldl_add visits {}, ?_⟩
    rw [foldl_add, length_prompts]
    rfl
  · rw [hrun]
    exact Or.inr ⟨files, before, p, after, visits, s₁, hfiles, hsplit, hwalk, hwalk.course.accounts, hstop, hstop.said_eq⟩

/-- A place with one file. -/
def oneFile : Workspace where
  tree := ⟨[(["a.py"], .file (.octets [120]))]⟩

/-- A place with a file of two lines, between which there are two characters. -/
def twoLines : Workspace where
  tree := ⟨[(["a.py"], .file (.octets (Text.Utf8.encode "a\r\nb".toList)))]⟩

/-- Models that keep the prompts they are asked with, and give a summary. -/
def keepsPrompts : Models (List Prompt) where
  chat _ asked := (.error (.raised .runtimeError ""), asked)
  summarize q asked := (.ok (.summary ⟨"c", "d", "k"⟩), asked ++ [q])

/-- Models that turn every file down, and count how often they are asked. -/
def turnsDown : Models Nat where
  chat _ n := (.error (.raised .runtimeError ""), n)
  summarize _ n := (.error (.unreadableReported "no"), n + 1)

/-- Of a text whose lines end in two characters not the first three are sent, but the first three once its line ends are
    unified; and a file that can be read is skipped, and not without a question, when that is how the model turns it
    down. -/
theorem exists_unusual_runs :
    (let (outcome, s) := Indexer.run { config := { maxFileChars := 3 } } (Session.means keepsPrompts) twoLines.tree
      twoLines.here "a.py" ⟨twoLines, []⟩
     outcome = .ok ⟨["/a.py"], [], []⟩ ∧ s.model.map Prompt.human = [userPrompt "/a.py" "a\nb"] ∧
       s.model.map Prompt.human ≠ [userPrompt "/a.py" (String.ofList ("a\r\nb".toList.take 3))]) ∧
    oneFile.tree.HasText oneFile.here (Path.ofText "a.py") "x" ∧
    (let (outcome, s) := Indexer.run {} (Session.means turnsDown) oneFile.tree oneFile.here "a.py" ⟨oneFile, 0⟩
     outcome = .ok ⟨[], [], ["/a.py"]⟩ ∧ s.model = 1) := by
  refine ⟨⟨rfl, rfl, ?_⟩, FileTree.readText_eq_ok_iff.mp rfl, rfl, rfl⟩
  decide +kernel

end CodeAtlas.Index
