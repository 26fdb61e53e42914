import CodeAtlas.Schema.Validate
import Mathlib.Data.List.Forall2

/-! What the validator says. Every rejection is told problem by problem, each with the place where it is, and so never
    without words. A field without bounds takes what fits its kind. -/

namespace CodeAtlas.Schema

/-! ### Messages -/

/-- A problem is told with its place, or as one with the arguments where the place has no name. -/
inductive Problem.IsTold (p : Problem) : String → Prop
  | part : ".".intercalate p.location ≠ "" → IsTold p (".".intercalate p.location ++ ": " ++ p.complaint.message)
  | whole : ".".intercalate p.location = "" → IsTold p ("arguments: " ++ p.complaint.message)

/-- The problems of a rejection are told in their order. -/
def Rejection.IsTold (r : Rejection) (text : String) : Prop :=
  ∃ lines, List.Forall₂ Problem.IsTold r.problems lines ∧ text = "; ".intercalate lines

theorem Problem.isTold_line (p : Problem) : p.IsTold p.line := by
  unfold Problem.line
  by_cases h : ".".intercalate p.location = ""
  · rw [h]
    exact .whole h
  · simpa [h] using IsTold.part h

theorem Rejection.isTold_message (r : Rejection) : r.IsTold r.message :=
  ⟨_, List.forall₂_map_right_iff.mpr (List.forall₂_same.mpr fun p _ => p.isTold_line), rfl⟩

theorem Problem.IsTold.ne_empty {p : Problem} {line : String} (h : p.IsTold line) : line ≠ "" := fun hempty => by
  cases h with
  | part =>
    rw [String.append_eq_empty_iff, String.append_eq_empty_iff] at hempty
    exact absurd hempty.1.2 (by decide)
  | whole =>
    rw [String.append_eq_empty_iff] at hempty
    exact absurd hempty.1 (by decide)

/-- There is a problem in every rejection, and so there are words for it. -/
theorem Rejection.IsTold.ne_empty {r : Rejection} {text : String} (h : r.IsTold text) : text ≠ "" := fun hempty => by
  obtain ⟨lines, hlines, rfl⟩ := h
  obtain ⟨line, rest, hline, -, rfl⟩ := List.forall₂_cons_left_iff.mp hlines
  cases rest with
  | nil =>
    rw [String.intercalate_singleton] at hempty
    exact hline.ne_empty hempty
  | cons next rest =>
    rw [String.intercalate_cons_cons, String.append_eq_empty_iff, String.append_eq_empty_iff] at hempty
    exact hline.ne_empty hempty.1.1

variable {name : String} {v : Value}

/-! ### Fields that fit -/

theorem fieldValues_cons_eq_ok_iff {f : Field} {fields : List Field} {given values : Value.Fields} :
    fieldValues given v (f :: fields) = .ok values ↔ ∃ first rest, field f given v = .ok first ∧
      fieldValues given v fields = .ok rest ∧ values = (f.name, first) :: rest := by
  rw [fieldValues]
  cases field f given v <;> cases fieldValues given v fields <;> simp [eq_comm]

theorem fit_text_eq_ok_iff {fitted : Value} : fit name .text v = .ok fitted ↔ ∃ s, v = .text s ∧ fitted = .text s := by
  cases v <;> simp [fit, eq_comm]

theorem fit_object_eq_ok_iff {fitted : Value} :
    fit name .object v = .ok fitted ↔ ∃ fields, v = .object fields ∧ fitted = .object fields := by
  cases v <;> simp [fit, eq_comm]

theorem judge_of_unbounded {f : Field} (hleast : f.atLeast = none) (hlength : f.minLength = none) (v : Value) :
    judge f v = .kept := by
  unfold judge
  rw [hleast, hlength]
  split <;> rfl

theorem field_of_unbounded {f : Field} {given : Value.Fields} {whole : Value} (hleast : f.atLeast = none)
    (hlength : f.minLength = none) : field f given whole = match Value.Fields.get? given f.name with
      | none => match f.default with
        | some v => .ok v
        | none => .error { first := ⟨[f.name], .missing, whole⟩ }
      | some v => fit f.name f.kind v := by
  unfold field
  cases Value.Fields.get? given f.name with
  | none => rfl
  | some v =>
    dsimp only
    cases hfit : fit f.name f.kind v with
    | error problems => rfl
    | ok fitted =>
      dsimp only
      rw [judge_of_unbounded hleast hlength]

end CodeAtlas.Schema
