import CodeAtlas.RunLog
import Mathlib.Data.List.Sort

/-! The percentile among the figures of a log. Of `n` latencies it is the one at the rank of 19 `n` / 20, rounded down but
    at least 1: so many of them are not above it, and fewer are below. Where the rank has been rounded they are less than
    95 percent, unless the latencies of the next rank are the same. -/

namespace CodeAtlas.RunLog

variable {α : Type} [LE α] [DecidableLE α]

/-- Any two values can be compared, and comparisons go together; values that rank the same need not be equal. -/
structure Ranked (α : Type) [LE α] : Prop where
  trans : ∀ a b c : α, a ≤ b → b ≤ c → a ≤ c
  total : ∀ a b : α, a ≤ b ∨ b ≤ a

omit [DecidableLE α] in
theorem Ranked.refl (h : Ranked α) (x : α) : x ≤ x := (h.total x x).elim id id

theorem ranked_nat : Ranked Nat where
  trans := fun _ _ _ => Nat.le_trans
  total := Nat.le_total

variable {xs : List α} {x : α} {i : Nat}

/-! ### Values in order -/

theorem inOrder_eq (h : Ranked α) (xs : List α) : inOrder xs = xs.mergeSort fun a b => a ≤ b := by
  have hall : (xs.all fun x => x ≤ x) = true := by
    rw [List.all_eq_true]
    intro x _
    exact decide_eq_true (h.refl x)
  rw [inOrder, if_pos hall]

theorem perm_inOrder (h : Ranked α) (xs : List α) : (inOrder xs).Perm xs := by
  rw [inOrder_eq h]
  exact List.mergeSort_perm xs _

theorem pairwise_inOrder (h : Ranked α) (xs : List α) : (inOrder xs).Pairwise (· ≤ ·) := by
  have hsorted : (xs.mergeSort fun a b => a ≤ b).Pairwise fun a b => decide (a ≤ b) = true := List.pairwise_mergeSort
    (fun a b c hab hbc => decide_eq_true (h.trans a b c (of_decide_eq_true hab) (of_decide_eq_true hbc)))
    (fun a b => by simpa using h.total a b) xs
  rw [inOrder_eq h]
  exact hsorted.imp of_decide_eq_true

omit [DecidableLE α] in
/-- What stands before a value in order is not above it, and what stands behind is not below. -/
theorem exists_split_of_sorted (hsorted : xs.Pairwise (· ≤ ·)) (hx : xs[i]? = some x) : ∃ before after,
    xs = before ++ x :: after ∧ before.length = i ∧ (∀ y ∈ before, y ≤ x) ∧ ∀ y ∈ after, x ≤ y := by
  obtain ⟨hi, rfl⟩ := List.getElem?_eq_some_iff.mp hx
  have hsplit : xs = xs.take i ++ xs[i] :: xs.drop (i + 1) := by
    rw [← List.drop_eq_getElem_cons hi, List.take_append_drop]
  rw [hsplit, List.pairwise_append, List.pairwise_cons] at hsorted
  obtain ⟨-, ⟨hafter, -⟩, hbefore⟩ := hsorted
  exact ⟨_, _, hsplit, List.length_take_of_le (Nat.le_of_lt hi), fun y hy => hbefore y hy _ List.mem_cons_self, hafter⟩

theorem lt_countP_le (h : Ranked α) (hsorted : xs.Pairwise (· ≤ ·)) (hx : xs[i]? = some x) :
    i < xs.countP fun y => y ≤ x := by
  obtain ⟨before, after, rfl, rfl, hbefore, -⟩ := exists_split_of_sorted hsorted hx
  have hall : before.countP (fun y => decide (y ≤ x)) = before.length :=
    List.countP_eq_length.mpr fun y hy => decide_eq_true (hbefore y hy)
  have hown : 0 < (x :: after).countP fun y => y ≤ x :=
    List.countP_pos_iff.mpr ⟨x, List.mem_cons_self, decide_eq_true (h.refl x)⟩
  -- with `x` itself there are `i + 1` of them
  rw [List.countP_append, hall]
  omega

theorem countP_isBelow_le (hsorted : xs.Pairwise (· ≤ ·)) (hx : xs[i]? = some x) :
    (xs.countP fun y => isBelow y x) ≤ i := by
  obtain ⟨before, after, rfl, rfl, -, hafter⟩ := exists_split_of_sorted hsorted hx
  have hnone : (x :: after).countP (fun y => isBelow y x) = 0 := by
    rw [List.countP_eq_zero]
    intro y hy
    rcases List.mem_cons.mp hy with rfl | hy
    · simp [isBelow]
    · simp [isBelow, hafter y hy]
  rw [List.countP_append, hnone, Nat.add_zero]
  exact List.countP_le_length

/-! ### The figure -/

/-- The rank of the percentile among `n` values. -/
def percentileRank (n : Nat) : Nat := max 1 (n * 19 / 20)

variable [Zero α] {log : RunLog α}

theorem getElem?_latencies (h : Ranked α) (mean : List α → α) (hne : log.runs ≠ []) :
    log.latencies[percentileRank log.runs.length - 1]? = some (log.summary mean).percentile95 := by
  have hpos : 0 < log.runs.length := List.length_pos_iff.mpr hne
  have hlength : log.latencies.length = log.runs.length := by
    rw [latencies, (perm_inOrder h _).length_eq, List.length_map]
  have hindex : percentileIndex log.runs.length = percentileRank log.runs.length - 1 := by
    rw [percentileIndex, percentileRank]
    omega
  have hlt : percentileRank log.runs.length - 1 < log.latencies.length := by
    rw [hlength, percentileRank]
    omega
  rw [List.getElem?_eq_getElem hlt]
  simp only [summary, hindex]
  rw [List.getD_eq_getElem?_getD, List.getElem?_eq_getElem hlt, Option.getD_some]

/-- Once the latencies are written down in order, the figure can be read off. -/
theorem percentile_eq_of_sorted {log : RunLog Nat} {x : Nat} (mean : List Nat → Nat) (ys : List Nat)
    (hperm : ys.Perm (log.runs.map RunRecord.latency)) (hsorted : ys.Pairwise (· ≤ ·))
    (hx : ys[percentileRank ys.length - 1]? = some x) : (log.summary mean).percentile95 = x := by
  have hordered : log.latencies = ys :=
    ((perm_inOrder ranked_nat _).trans hperm.symm).eq_of_pairwise (fun _ _ _ _ => Nat.le_antisymm)
      (pairwise_inOrder ranked_nat _) hsorted
  have hlength : ys.length = log.runs.length := by rw [hperm.length_eq, List.length_map]
  have hpos : 0 < ys.length := by
    have hlt := (List.getElem?_eq_some_iff.mp hx).1
    omega
  have hplace := getElem?_latencies ranked_nat mean (List.length_pos_iff.mp (hlength ▸ hpos))
  rw [hordered, ← hlength, hx] at hplace
  exact (Option.some.inj hplace).symm

/-- A log of runs that took so long, one after the other. -/
def ofLatencies (latencies : List Nat) : RunLog Nat :=
  latencies.foldl (fun log latency => (log.create ⟨"", "", [], 1, latency⟩).2) {}

/-- The percentile is the latency of a run at its rank: as many runs as the rank says take no longer, and fewer take less
    time. So it is short of 95 percent of the runs by less than one of them; they are reached in full just where there is
    one run only, where the rank is not rounded, or where further runs take as long. -/
theorem percentile_has_rank (h : Ranked α) (mean : List α → α) (log : RunLog α) (hne : log.runs ≠ []) :
    let n := log.runs.length
    let figure := (log.summary mean).percentile95
    let reached := log.runs.countP fun run => run.latency ≤ figure
    (∃ run ∈ log.runs, run.latency = figure) ∧
    percentileRank n ≤ reached ∧
    (log.runs.countP fun run => isBelow run.latency figure) < percentileRank n ∧
    19 * n < 20 * (reached + 1) ∧
    (19 * n ≤ 20 * reached ↔ n = 1 ∨ 20 ∣ n ∨ percentileRank n < reached) := by
  intro n figure reached
  have hpos : 0 < n := List.length_pos_iff.mpr hne
  have hfigure := getElem?_latencies h mean hne
  have hsorted : log.latencies.Pairwise (· ≤ ·) := pairwise_inOrder h _
  have hperm : log.latencies.Perm (log.runs.map RunRecord.latency) := perm_inOrder h _
  have hreached : percentileRank n ≤ reached := by
    have hcount := lt_countP_le h hsorted hfigure
    rw [hperm.countP_eq, List.countP_map] at hcount
    exact Nat.le_of_pred_lt hcount
  have hbelow : (log.runs.countP fun run => isBelow run.latency figure) < percentileRank n := by
    have hcount := countP_isBelow_le hsorted hfigure
    rw [hperm.countP_eq, List.countP_map] at hcount
    have hone : 1 ≤ percentileRank n := Nat.le_max_left _ _
    exact Nat.lt_of_le_pred hone hcount
  have hrank : percentileRank n = max 1 (n * 19 / 20) := rfl
  -- the last two parts are about numbers only: how far the rank is from 19 `n` / 20
  refine ⟨?_, hreached, hbelow, by omega, by omega⟩
  exact List.mem_map.mp (hperm.mem_iff.mp (List.mem_of_getElem? hfigure))

/-- Of three runs two take longest: the rank is 2, and the figure is reached by all three. -/
theorem percentile_of_tie :
    let log := ofLatencies [5, 1, 5]
    let figure := (log.summary fun _ => 0).percentile95
    let reached := log.runs.countP fun run => run.latency ≤ figure
    log.runs ≠ [] ∧ figure = 5 ∧ (∃ run ∈ log.runs, run.latency = figure) ∧ percentileRank 3 < reached ∧
      19 * 3 ≤ 20 * reached := by
  intro log figure reached
  have hne : log.runs ≠ [] := List.cons_ne_nil _ _
  have hfigure : figure = 5 := percentile_eq_of_sorted _ [1, 5, 5] (by decide) (by decide) rfl
  obtain ⟨hrun, -, -, -, hfull⟩ := percentile_has_rank ranked_nat (fun _ => 0) log hne
  have htie : percentileRank 3 < reached := by
    simp only [reached, hfigure]
    decide
  exact ⟨hne, hfigure, hrun, htie, hfull.mpr (Or.inr (Or.inr htie))⟩

/-- Of two runs it is the shorter one that is shown, and only half of them take no longer. -/
theorem percentile_short_of_two :
    let log := ofLatencies [1, 2]
    let figure := (log.summary fun _ => 0).percentile95
    let reached := log.runs.countP fun run => run.latency ≤ figure
    log.runs.length = 2 ∧ figure = 1 ∧ reached = 1 ∧ ¬95 * log.runs.length ≤ 100 * reached := by
  intro log figure reached
  have hlength : log.runs.length = 2 := rfl
  have hfigure : figure = 1 := percentile_eq_of_sorted _ [1, 2] (by decide) (by decide) rfl
  have hreached : reached = 1 := by
    simp only [reached, hfigure]
    decide
  refine ⟨hlength, hfigure, hreached, ?_⟩
  rw [hlength, hreached]
  decide

end CodeAtlas.RunLog
