import CodeAtlas.Proofs.RunLog.Newest
import CodeAtlas.Proofs.Schema.Integers
import CodeAtlas.Proofs.Service.Runs

/-! Listings of the newest runs. Whatever has been asked of a log, a listing with a limit from 1 on holds that many of the
    runs that came last, or all that are kept; with a limit of 0 it holds all of them, too. The service sends the listing
    of the limit that a request brings. -/

namespace CodeAtlas

namespace RunLog

variable {α : Type} {log : RunLog α} {all : List (RunRecord α)} {n i j : Nat}

theorem recent_of_pos (h : 1 ≤ n) : log.recent n = log.runs.drop (log.runs.length - n) := by
  have hpos : (0 : Int) < n := Int.natCast_pos.mpr h
  rw [recent, Text.fromEnd, if_pos hpos, Int.toNat_natCast]

theorem length_recent (h : 1 ≤ n) : (log.recent n).length = min n log.runs.length := by
  rw [recent_of_pos h, List.length_drop]
  omega

theorem recent_suffix (hi : 1 ≤ i) (hij : i ≤ j) : log.recent i <:+ log.recent j := by
  rw [recent_of_pos hi, recent_of_pos (hi.trans hij)]
  exact List.drop_suffix_drop_left _ (by omega)

/-- Of all runs that have been reported the log keeps the last ones, and lists the last ones of these. -/
structure ListsNewest (log : RunLog α) (all : List (RunRecord α)) : Prop where
  kept : log.runs = all.drop (all.length - log.runs.length)
  recent : ∀ n : Nat, 1 ≤ n → log.recent n = all.drop (all.length - min n log.runs.length)
  length : ∀ n : Nat, 1 ≤ n → (log.recent n).length = min n log.runs.length
  suffix : ∀ i j : Nat, 1 ≤ i → i ≤ j → log.recent i <:+ log.recent j
  /-- No limit is as good as one of 0. -/
  whole : log.recent 0 = log.runs

theorem listsNewest_of_suffix (h : log.runs <:+ all) : log.ListsNewest all := by
  have hkept : log.runs = all.drop (all.length - log.runs.length) := List.suffix_iff_eq_drop.mp h
  have hle : log.runs.length ≤ all.length := h.length_le
  refine ⟨hkept, fun n hn => ?_, fun n => length_recent, fun i j => recent_suffix, rfl⟩
  -- the end of what is kept, and so the end of an end of all
  rw [recent_of_pos hn]
  conv_lhs => rw [hkept, List.drop_drop]
  congr 1
  rw [List.length_drop]
  omega

section Histories

variable [LE α] [DecidableLE α] [Zero α]

/-- Without any room no run is kept. -/
theorem runs_afterAll_of_neg (mean : List α → α) (hlimit : log.limit < 0) (hfit : log.unfitLimit = none)
    (hruns : log.runs = []) (requests : List (Request α)) : (log.afterAll mean requests).runs = [] := by
  induction requests generalizing log with
  | nil => exact hruns
  | cons q qs ih =>
    cases q with
    | create report =>
      have hcreate : (log.create report).2 = { log with created := log.created + 1 } := by
        rw [create, hfit, hruns, evict, Int.toNat_of_nonpos (Int.le_of_lt hlimit), Nat.sub_zero, List.drop_length]
      change ((log.create report).2.afterAll mean qs).runs = []
      rw [hcreate]
      exact ih hlimit hfit hruns
    | get | recent | figures => exact ih hlimit hfit hruns

theorem runs_afterAll_suffix (mean : List α → α) (limit : Int) (requests : List (Request α)) :
    (afterAll mean { limit } requests).runs <:+ records (requests.filterMap Request.report?) := by
  by_cases hlimit : 0 ≤ limit
  · have hnew : ({ limit } : RunLog α).Keeps (records []) := keeps_new hlimit
    obtain ⟨hkeeps, -⟩ := hnew.afterAll mean requests
    rw [hkeeps.runs, List.nil_append]
    exact List.drop_suffix _ _
  · rw [runs_afterAll_of_neg mean (Int.not_le.mp hlimit) rfl rfl]
    exact List.nil_suffix

end Histories

end RunLog

namespace Service

/-- The texts that a list of runs is shown with. -/
def ListedText {α : Type} (runs : List (RunRecord α)) (s : String) : Prop := ∃ run ∈ runs, ShownText run s

theorem arePlain_itemsValue_iff {α : Type} (timing : Timing α) (runs : List (RunRecord α)) :
    (itemsValue (runs.map (runValue timing))).ArePlain ↔ ∀ s, ListedText runs s → Text.ArePlain s.toList := by
  refine (Value.arePlain_object ["items"] rfl (by decide)).trans ?_
  rw [List.forall_mem_singleton, Value.arePlain_list_iff, List.forall_mem_map]
  simp only [arePlain_runValue_iff]
  exact ⟨fun h s ⟨run, hrun, hs⟩ => h run hrun s hs, fun h run hrun s hs => h s ⟨run, hrun, hs⟩⟩

/-- The value lists runs, one after the other. -/
def Lists {α : Type} (runs : List (RunRecord α)) (v : Value) : Prop :=
  ∃ shown, v.get? "items" = some (.list shown) ∧ List.Forall₂ Shows runs shown

theorem lists_itemsValue {α : Type} (timing : Timing α) (runs : List (RunRecord α)) :
    Lists runs (itemsValue (runs.map (runValue timing))).withoutInfinite := by
  refine ⟨Value.itemsWithoutInfinite (runs.map (runValue timing)), rfl, ?_⟩
  rw [Value.itemsWithoutInfinite_eq_map, List.map_map, List.forall₂_map_right_iff]
  exact List.forall₂_same.mpr fun run _ => shows_runValue timing run

theorem Route.ofPath_traces : ofPath "GET" "/traces".toList = .endpoint .traces := by decide

theorem limitOf_of_parameter {address : Address} {n : Nat} (h : address.parameter? "limit" = some n.repr)
    (hlength : n.repr.length ≤ Value.Reader.digitLimit) : limitOf address = .ok n := by
  rw [limitOf, h]
  simp only [Schema.integerOfText_repr hlength]
  rfl

variable {μ α : Type} [LE α] [DecidableLE α] [Zero α]

/-- The runs of a listing are sent, if none of their texts keeps them from being sent. -/
theorem Turn.response_traces {a : App μ α} {t : Turn μ α} {limit : Int} (hroute : t.route = .endpoint .traces)
    (hlimit : limitOf t.request.address = .ok limit) :
    (t.CanSend a (ListedText (t.before.log.recent limit)) ∧
      t.response a =
        .ok ⟨200, some (itemsValue ((t.before.log.recent limit).map (runValue a.timing))).withoutInfinite⟩) ∨
    (¬t.CanSend a (ListedText (t.before.log.recent limit)) ∧ ∃ refusal, t.response a = .error (.unsendable refusal)) := by
  have hanswer : t.response a = Response.ofAnswer (t.after a).session.workspace.halves
      (.ok (itemsValue ((t.before.log.recent limit).map (runValue a.timing)))) := by
    rw [response_endpoint hroute]
    simp only [App.answer, App.tracesAnswer, hlimit]
    rfl
  rw [hanswer]
  exact ofAnswer_cases (arePlain_itemsValue_iff a.timing _)

/-- Whatever has been asked of a log, it lists the newest of all runs that were reported, as many as the limit says or as
    there are left. So does the service at any time, whose listing is that of its log with the limit that the request
    brings, unless a half of a pair keeps it from being sent; and the digits of a number, if they are not too many to be
    read, bring it as the limit. -/
theorem listings_hold_newest (mean : List α → α) :
    (∀ (limit : Int) (requests : List (RunLog.Request α)), (RunLog.afterAll mean { limit } requests).ListsNewest
      (RunLog.records (requests.filterMap RunLog.Request.report?))) ∧
    (∀ (a : App μ α) (session : Session μ) (requests : List (α × Request)) (latency : α) (r : Request) (n : Nat),
      r.method = "GET" → r.address.path = "/traces" → limitOf r.address = .ok n →
      let t : Turn μ α := ⟨latency, r, a.serve requests { session }⟩
      let log := t.before.log
      log.runs = RunLog.evict 1000 (a.runs requests { session }) ∧ log.ListsNewest (a.runs requests { session }) ∧
        (t.CanSend a (ListedText (log.recent n)) → ∃ body, t.response a = .ok ⟨200, some body⟩ ∧
          body = (itemsValue ((log.recent n).map (runValue a.timing))).withoutInfinite ∧ Lists (log.recent n) body) ∧
        (¬t.CanSend a (ListedText (log.recent n)) → ∃ refusal, t.response a = .error (.unsendable refusal))) ∧
    ∀ (address : Address) (n : Nat), n.repr.length ≤ Value.Reader.digitLimit →
      address.parameter? "limit" = some n.repr → limitOf address = .ok n := by
  refine ⟨fun limit requests => RunLog.listsNewest_of_suffix (RunLog.runs_afterAll_suffix mean limit requests), ?_,
    fun address n hlength hparameter => limitOf_of_parameter hparameter hlength⟩
  intro a session requests latency r n hget hpath hlimit t log
  obtain ⟨hkeeps, hsame⟩ := a.keeps_serve requests (App.keeps_initial session)
  rw [List.nil_append] at hkeeps
  have hruns : log.runs = RunLog.evict 1000 (a.runs requests { session }) := by
    rw [hkeeps.runs, hsame]
  have hsuffix : log.runs <:+ a.runs requests { session } := by
    rw [hruns]
    exact List.drop_suffix _ _
  have hroute : t.route = .endpoint .traces := by
    rw [Turn.route, hget, hpath]
    exact Route.ofPath_traces
  refine ⟨hruns, RunLog.listsNewest_of_suffix hsuffix, ?_⟩
  obtain ⟨hsend, hsent⟩ | ⟨hsend, hrefused⟩ := Turn.response_traces (a := a) hroute hlimit
  · exact ⟨fun _ => ⟨_, hsent, rfl, lists_itemsValue a.timing _⟩, fun h => absurd hsend h⟩
  · exact ⟨fun h => absurd h hsend, fun _ => hrefused⟩

/-- Of three runs the last one is left and listed, and so is the one run that the service has answered with. -/
theorem listings_of_threeRuns :
    let log := RunLog.afterAll (fun _ => 0) { limit := 2 } RunLog.threeRuns
    let s := App.agreeing.serve App.twoQuestions { session := ⟨{}, ()⟩ }
    let address : Address := { path := "/traces", parameters := [("limit", "1")] }
    1 ≤ 1 ∧ log.recent 1 = [RunLog.record 3 ⟨"", "Nowhere at all.", [], 1, 20⟩] ∧ log.recent 1 <:+ log.recent 5 ∧
      limitOf address = .ok 1 ∧ (s.log.recent 1).length = 1 ∧
      Turn.response App.agreeing ⟨0, ⟨"GET", address, ""⟩, s⟩ =
        .ok ⟨200, some (itemsValue ((s.log.recent 1).map (runValue App.agreeing.timing))).withoutInfinite⟩ := by
  intro log s address
  obtain ⟨hlog, hservice, hread⟩ := listings_hold_newest (μ := Unit) fun _ : List Nat => 0
  have hlists := hlog 2 RunLog.threeRuns
  have hlimit : limitOf address = .ok 1 := hread address 1 (by decide) (by decide)
  obtain ⟨-, hnewest, hsend, -⟩ := hservice App.agreeing ⟨{}, ()⟩ App.twoQuestions 0 ⟨"GET", address, ""⟩ 1 rfl rfl hlimit
  have hone : s.log.runs.length = 1 := by decide +kernel
  refine ⟨Nat.le_refl 1, hlists.recent 1 (Nat.le_refl 1), hlists.suffix 1 5 (by decide) (by decide), hlimit, ?_, ?_⟩
  · exact (hnewest.length 1 (Nat.le_refl 1)).trans (by rw [hone, Nat.min_self])
  · obtain ⟨body, hbody, rfl, -⟩ := hsend fun hhalves => absurd hhalves (by decide +kernel)
    exact hbody

/-- Of two runs a listing with the limit 0 holds both, and that with the limit 1 only one. -/
theorem listing_at_zero :
    let log := RunLog.afterAll (fun _ => 0) {} [.create ⟨"Where?", "Here.", [], 1, 30⟩, .create ⟨"And now?", "", [], 2, 10⟩]
    (log.recent 0).length = 2 ∧ min 0 log.runs.length = 0 ∧ (log.recent 1).length = 1 ∧
      ¬log.recent 0 <:+ log.recent 1 := by
  intro log
  have hall : (log.recent 0).length = 2 := rfl
  have hone : (log.recent 1).length = 1 := rfl
  refine ⟨hall, Nat.zero_min _, hone, fun hsuffix => ?_⟩
  have hle := hsuffix.length_le
  rw [hall, hone] at hle
  exact absurd hle (by decide)

end Service

end CodeAtlas
