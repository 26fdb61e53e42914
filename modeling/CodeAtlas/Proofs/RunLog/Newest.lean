import CodeAtlas.Proofs.RunLog.Kept

/-! A log of runs over any history. Whatever is asked of it in between, it holds the newest of the runs that have been
    reported, and its look-ups and figures are about just these. -/

namespace CodeAtlas.RunLog

/-- What is asked of a log. -/
inductive Request (α : Type) where
  | create (report : RunReport α)
  | get (id : String)
  | recent (limit : Int)
  | figures

/-- What is replied. -/
inductive Reply (α : Type) where
  | run (outcome : Except Failure (RunRecord α))
  | runs (found : List (RunRecord α))
  | figures (summary : Summary α)

namespace Request

variable {α : Type}

/-- The report of a run that is to be kept. -/
def report? : Request α → Option (RunReport α)
  | .create report => some report
  | _ => none

end Request

section Asking

variable {α : Type} [LE α] [DecidableLE α] [Zero α]

/-- Puts a request to the log. -/
def ask (mean : List α → α) (log : RunLog α) : Request α → Reply α × RunLog α
  | .create report => ((.run (log.create report).1), (log.create report).2)
  | .get id => (.run (log.get id), log)
  | .recent limit => (.runs (log.recent limit), log)
  | .figures => (.figures (log.summary mean), log)

/-- The log after requests, one after the other. -/
def afterAll (mean : List α → α) (log : RunLog α) : List (Request α) → RunLog α
  | [] => log
  | q :: qs => afterAll mean (log.ask mean q).2 qs

end Asking

/-- The runs of reports as they are kept, numbered in their order. -/
def records {α : Type} (reports : List (RunReport α)) : List (RunRecord α) :=
  reports.mapIdx fun i report => record (i + 1) report

variable {α : Type} {log : RunLog α} {reports : List (RunReport α)} {mean : List α → α}

theorem length_records (reports : List (RunReport α)) : (records reports).length = reports.length :=
  List.length_mapIdx

theorem records_append (reports : List (RunReport α)) (report : RunReport α) :
    records (reports ++ [report]) = records reports ++ [record (reports.length + 1) report] :=
  List.mapIdx_concat

/-- What the runs have in common with their reports, as the questions, is the same from whatever run on. -/
theorem map_drop_records {β : Type} (f : RunRecord α → β) (g : RunReport α → β) (h : ∀ n report, f (record n report) = g report)
    (k : Nat) : ((records reports).drop k).map f = (reports.drop k).map g := by
  refine List.ext_getElem? fun i => ?_
  simp only [records, List.getElem?_map, List.getElem?_drop, List.getElem?_mapIdx, Option.map_map]
  exact congrFun (congrArg Option.map (funext fun report => h _ report)) _

theorem evict_natCast (limit : Nat) (runs : List (RunRecord α)) :
    evict (limit : Int) runs = runs.drop (runs.length - limit) := by
  rw [evict, Int.toNat_natCast]

namespace Keeps

/-- A look-up gives a run that is held under its id, and nothing else. -/
theorem get_eq_ok_iff {all : List (RunRecord α)} (h : log.Keeps all) {id : String} {run : RunRecord α} :
    log.get id = .ok run ↔ run ∈ log.runs ∧ run.id = id := by
  constructor
  · intro hget
    by_cases hid : ∃ other ∈ log.runs, other.id = id
    · obtain ⟨other, hother, rfl⟩ := hid
      rw [h.get_of_mem hother] at hget
      obtain rfl := Except.ok.inj hget
      exact ⟨hother, rfl⟩
    · rw [get_of_not_mem fun other hother heq => hid ⟨other, hother, heq⟩] at hget
      cases hget
  · rintro ⟨hrun, rfl⟩
    exact h.get_of_mem hrun

variable [LE α] [DecidableLE α] [Zero α]

/-- A request adds the run that it reports, if any. -/
theorem ask (h : log.Keeps (records reports)) (mean : List α → α) (q : Request α) :
    (log.ask mean q).2.Keeps (records (reports ++ q.report?.toList)) ∧ (log.ask mean q).2.limit = log.limit := by
  cases q with
  | create report =>
    have hcreated := (h.create report).2
    rw [length_records] at hcreated
    refine ⟨?_, limit_create log report⟩
    rw [show (Request.create report).report?.toList = [report] from rfl, records_append]
    exact hcreated
  | get | recent | figures =>
    rw [show Request.report? _ = none from rfl, Option.toList_none, List.append_nil]
    exact ⟨h, rfl⟩

/-- After any requests the log keeps the newest of the runs that were reported before and since. -/
theorem afterAll (h : log.Keeps (records reports)) (mean : List α → α) (qs : List (Request α)) :
    (log.afterAll mean qs).Keeps (records (reports ++ qs.filterMap Request.report?)) ∧
      (log.afterAll mean qs).limit = log.limit := by
  -- The log is one that keeps some reports, so that the rest of the requests goes on from the log and the reports so far.
  induction qs generalizing log reports with
  | nil =>
    rw [List.filterMap_nil, List.append_nil]
    exact ⟨h, rfl⟩
  | cons q qs ih =>
    obtain ⟨hstep, hlimit⟩ := h.ask mean q
    obtain ⟨hrest, hsame⟩ := ih hstep
    refine ⟨?_, hsame.trans hlimit⟩
    have hreports : (q :: qs).filterMap Request.report? = q.report?.toList ++ qs.filterMap Request.report? := by
      rw [List.filterMap_cons]
      cases q.report? <;> rfl
    rw [hreports, ← List.append_assoc]
    exact hrest

end Keeps

variable [LE α] [DecidableLE α] [Zero α]

/-- What a log with room for `limit` runs shows after these reports: the newest of the runs, and no other. -/
structure ShowsNewest (log : RunLog α) (mean : List α → α) (limit : Nat) (reports : List (RunReport α)) : Prop where
  /-- The runs are held in the order in which they came. -/
  runs : log.runs = (records reports).drop (reports.length - limit)
  length : log.runs.length = min reports.length limit
  found : ∀ id run, log.get id = .ok run ↔ run ∈ log.runs ∧ run.id = id
  missing : ∀ id, (∀ run ∈ log.runs, run.id ≠ id) → ∃ failure, log.get id = .error failure ∧
    failure.label = "KeyError" ∧ failure.message = Text.quoted ("Trace not found: " ++ id)
  totalRuns : (log.summary mean).totalRuns = log.runs.length
  totalToolCalls : (log.summary mean).totalToolCalls = (log.runs.map fun run => run.traces.length).sum
  totalInputTokens : (log.summary mean).totalInputTokens = (log.runs.map RunRecord.inputTokens).sum
  totalOutputTokens : (log.summary mean).totalOutputTokens = (log.runs.map RunRecord.outputTokens).sum
  /-- These are the figures of the newest reports. -/
  reported :
    let newest := reports.drop (reports.length - limit)
    (log.summary mean).totalRuns = newest.length ∧
      (log.summary mean).totalToolCalls = (newest.map fun report => report.traces.length).sum ∧
      (log.summary mean).totalInputTokens = (newest.map fun report => Text.tokenCount report.question).sum ∧
      (log.summary mean).totalOutputTokens = (newest.map fun report => Text.tokenCount report.answer).sum

theorem Keeps.showsNewest {limit : Nat} (h : log.Keeps (records reports)) (hlimit : log.limit = limit) (mean : List α → α) :
    log.ShowsNewest mean limit reports := by
  have hruns : log.runs = (records reports).drop (reports.length - limit) := by
    rw [h.runs, hlimit, evict_natCast, length_records]
  exact {
    runs := hruns
    length := by rw [h.length_runs, length_records, hlimit, Int.toNat_natCast]
    found := fun _ _ => h.get_eq_ok_iff
    missing := fun id hid => ⟨.unknownTrace id, get_of_not_mem hid, rfl, rfl⟩
    totalRuns := rfl
    totalToolCalls := rfl
    totalInputTokens := rfl
    totalOutputTokens := rfl
    reported := by
      simp only [summary, hruns]
      refine ⟨by rw [List.length_drop, List.length_drop, length_records], ?_, ?_, ?_⟩
      · exact congrArg List.sum (map_drop_records _ _ (fun _ _ => rfl) _)
      · exact congrArg List.sum (map_drop_records _ _ (fun _ _ => rfl) _)
      · exact congrArg List.sum (map_drop_records _ _ (fun _ _ => rfl) _) }

theorem ask_of_report?_eq_none {q : Request α} (hq : q.report? = none) : (log.ask mean q).2 = log := by
  cases q with
  | create => cases hq
  | get | recent | figures => rfl

/-- What is only read leaves no trace: the log is as if nothing but the reports had come. -/
theorem afterAll_eq (mean : List α → α) (log : RunLog α) (requests : List (Request α)) :
    log.afterAll mean requests = log.afterAll mean ((requests.filterMap Request.report?).map .create) := by
  induction requests generalizing log with
  | nil => rfl
  | cons q qs ih =>
    cases q with
    | create => exact ih _
    | get | recent | figures => exact ih log

/-- After any requests a log with room for `limit` runs holds the newest of those that were reported, and shows just
    these. The next one is kept as well, and found at once if there is room for any; what is only read changes nothing. -/
theorem afterAll_holds_newest (mean : List α → α) (limit : Nat) (requests : List (Request α)) :
    let log := afterAll mean { limit } requests
    let reports := requests.filterMap Request.report?
    ((records reports).map RunRecord.id).Nodup ∧ log.ShowsNewest mean limit reports ∧
      (∀ report, let run := record (reports.length + 1) report
        let asked := log.ask mean (.create report)
        asked.1 = .run (.ok run) ∧ (1 ≤ limit → asked.2.get run.id = .ok run)) ∧
      (∀ q : Request α, q.report? = none → (log.ask mean q).2 = log) ∧
      log = afterAll mean { limit } (reports.map .create) := by
  intro log reports
  have hnew : ({ limit } : RunLog α).Keeps (records []) := keeps_new (Int.natCast_nonneg limit)
  obtain ⟨hkeeps, hlimit⟩ := hnew.afterAll mean requests
  rw [List.nil_append] at hkeeps
  refine ⟨hkeeps.nodup, hkeeps.showsNewest hlimit mean, fun report => ?_, fun q => ask_of_report?_eq_none,
    afterAll_eq mean _ requests⟩
  have hcreated := (hkeeps.create report).1
  rw [length_records] at hcreated
  refine ⟨congrArg Reply.run hcreated, fun hroom => ?_⟩
  have hone : 1 ≤ log.limit := by
    rw [show log.limit = limit from hlimit]
    exact Int.ofNat_le.mpr hroom
  have hfound := hkeeps.get_create hone report
  rwa [length_records] at hfound

/-- Three runs in turn with other requests in between. -/
def threeRuns : List (Request Nat) := [
  .create ⟨"Where is it?", "Here.", [], 1, 30⟩, .get "trace-1", .create ⟨"And now?", "", [], 2, 10⟩, .figures,
  .recent 1, .create ⟨"", "Nowhere at all.", [], 1, 20⟩, .get "trace-1"]

/-- With room for two runs the second and the third are held, then the third and the fourth. -/
theorem afterAll_threeRuns :
    let mean : List Nat → Nat := fun _ => 0
    let log := afterAll mean { limit := 2 } threeRuns
    let fourth : RunReport Nat := ⟨"Why?", "", [], 3, 5⟩
    log.runs = [record 2 ⟨"And now?", "", [], 2, 10⟩, record 3 ⟨"", "Nowhere at all.", [], 1, 20⟩] ∧
      (∃ failure, log.get "trace-1" = .error failure ∧ failure.label = "KeyError" ∧
        failure.message = "'Trace not found: trace-1'") ∧
      1 ≤ 2 ∧ (log.ask mean (.create fourth)).2.get "trace-4" = .ok (record 4 fourth) ∧
      (Request.figures : Request Nat).report? = none ∧ (log.ask mean .figures).2 = log := by
  intro mean log fourth
  obtain ⟨-, hshows, hnext, hread, -⟩ := afterAll_holds_newest mean 2 threeRuns
  have hruns : log.runs = [record 2 ⟨"And now?", "", [], 2, 10⟩, record 3 ⟨"", "Nowhere at all.", [], 1, 20⟩] := hshows.runs
  refine ⟨hruns, ?_, by decide, (hnext fourth).2 (by decide), rfl, hread .figures rfl⟩
  obtain ⟨failure, hget, hlabel, hmessage⟩ := hshows.missing "trace-1" fun run hrun => by
    have hheld : run ∈ log.runs := hrun
    rw [hruns] at hheld
    rcases List.mem_pair.mp hheld with rfl | rfl <;> decide
  exact ⟨failure, hget, hlabel, hmessage.trans (by decide)⟩

end CodeAtlas.RunLog
