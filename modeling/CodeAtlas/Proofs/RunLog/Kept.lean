import CodeAtlas.RunLog
import Mathlib.Data.List.Nodup

/-! What a log of runs keeps: of all runs that have been reported the newest ones, up to its limit. Runs that were
    evicted before are none of the newest, so that it does not matter when they go. -/

namespace CodeAtlas.RunLog

variable {α : Type} {log : RunLog α} {all : List (RunRecord α)} {report : RunReport α} {run : RunRecord α} {id : String}

/-! ### Eviction -/

/-- What has been evicted before would be evicted again. -/
theorem evict_evict_append (limit : Int) (old new : List (RunRecord α)) :
    evict limit (evict limit old ++ new) = evict limit (old ++ new) := by
  have hwhole : (old ++ new).drop (old.length - limit.toNat) = evict limit old ++ new := by
    rw [evict, List.drop_append_of_le_length (Nat.sub_le _ _)]
  rw [← hwhole, evict, evict, List.drop_drop]
  congr 1
  simp only [List.length_drop, List.length_append]
  omega

theorem length_evict (limit : Int) (runs : List (RunRecord α)) :
    (evict limit runs).length = min runs.length limit.toNat := by
  rw [evict, List.length_drop]
  omega

theorem limit_create (log : RunLog α) (report : RunReport α) : (log.create report).2.limit = log.limit := by
  unfold create
  split <;> rfl

/-! ### Ids -/

theorem idOf_injective : Function.Injective idOf := by
  intro m n h
  have htext : "trace-".toList ++ m.repr.toList = "trace-".toList ++ n.repr.toList := by
    simpa [idOf] using congrArg String.toList h
  have hdigits : Nat.toDigits 10 m = Nat.toDigits 10 n := by
    simpa only [Nat.toList_repr] using List.append_cancel_left htext
  rw [← Nat.ofDigitChars_ten_toDigits (n := m), hdigits, Nat.ofDigitChars_ten_toDigits]

/-! ### Keeping -/

/-- The log keeps the newest of all runs that have been reported to it, which are numbered in their order. -/
structure Keeps (log : RunLog α) (all : List (RunRecord α)) : Prop where
  limit : 0 ≤ log.limit
  fit : log.unfitLimit = none
  runs : log.runs = evict log.limit all
  created : log.created = all.length
  ids : all.map RunRecord.id = (List.range all.length).map fun i => idOf (i + 1)

theorem keeps_new {limit : Int} (h : 0 ≤ limit) : ({ limit } : RunLog α).Keeps [] where
  limit := h
  fit := rfl
  runs := List.drop_nil.symm
  created := rfl
  ids := rfl

namespace Keeps

theorem create (h : log.Keeps all) (report : RunReport α) :
    (log.create report).1 = .ok (record (all.length + 1) report) ∧
      (log.create report).2.Keeps (all ++ [record (all.length + 1) report]) := by
  have hroom : ¬log.limit < 0 := Int.not_lt.mpr h.limit
  unfold RunLog.create
  rw [h.fit, h.created]
  dsimp only
  rw [if_neg hroom]
  refine ⟨rfl, h.limit, rfl, ?_, ?_, ?_⟩
  · rw [h.runs, evict_evict_append]
  · rw [List.length_append, List.length_singleton]
  · rw [List.map_append, h.ids, List.length_append, List.length_singleton, List.range_succ, List.map_append]
    rfl

/-- The log holds as many of the runs as its limit leaves room for. -/
theorem length_runs (h : log.Keeps all) : log.runs.length = min all.length log.limit.toNat := by
  rw [h.runs, length_evict]

theorem nodup (h : log.Keeps all) : (all.map RunRecord.id).Nodup := by
  rw [h.ids]
  refine List.Nodup.map (fun i j hij => ?_) List.nodup_range
  exact Nat.succ.inj (idOf_injective hij)

theorem get_of_mem (h : log.Keeps all) (hrun : run ∈ log.runs) : log.get run.id = .ok run := by
  have hdistinct : (log.runs.map RunRecord.id).Nodup := by
    rw [h.runs, evict, List.map_drop]
    exact h.nodup.sublist (List.drop_sublist _ _)
  unfold get
  cases hfound : log.runs.find? fun r => r.id == run.id with
  | none => exact absurd (beq_self_eq_true run.id) (List.find?_eq_none.mp hfound run hrun)
  | some other =>
    have hid : other.id = run.id := by simpa using List.find?_some hfound
    obtain rfl := List.inj_on_of_nodup_map hdistinct (List.mem_of_find?_eq_some hfound) hrun hid
    rfl

theorem runs_create (h : log.Keeps all) (report : RunReport α) :
    (log.create report).2.runs = evict log.limit (log.runs ++ [record (all.length + 1) report]) := by
  rw [RunLog.create, h.fit, h.created]

/-- With room for one run at least the newest one is not evicted. -/
theorem get_create (h : log.Keeps all) (hroom : 1 ≤ log.limit) (report : RunReport α) :
    (log.create report).2.get (record (all.length + 1) report).id = .ok (record (all.length + 1) report) := by
  obtain ⟨-, hkeeps⟩ := h.create report
  refine hkeeps.get_of_mem ?_
  have hle : (log.runs ++ [record (all.length + 1) report]).length - log.limit.toNat ≤ log.runs.length := by
    simp only [List.length_append, List.length_singleton]
    omega
  rw [h.runs_create, evict, List.drop_append_of_le_length hle]
  exact List.mem_append_right _ List.mem_cons_self

end Keeps

theorem get_of_not_mem (h : ∀ run ∈ log.runs, run.id ≠ id) : log.get id = .error (.unknownTrace id) := by
  have hnone : (log.runs.find? fun r => r.id == id) = none := by
    rw [List.find?_eq_none]
    intro run hrun
    rw [beq_iff_eq]
    exact h run hrun
  rw [get, hnone]

end CodeAtlas.RunLog
