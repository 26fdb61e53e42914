import CodeAtlas.Schema.Coerce
import Mathlib

/-! Which doubles are numbers. One that is an integer is a number, and an integer with more digits than any double has is
    near none. -/

namespace CodeAtlas.Decimal

open Float.Model in
/-- Only the greatest exponent is that of no number. -/
theorem isFinite_of_exponent {x : Float} (h : x.toBits.toNat / 2 ^ 52 % 2048 ≠ 2047) : x.isFinite = true := by
  have hexponent : (@UnpackedFloat.unpackExponent .binary64 x.toBits.toBitVec).toNat =
      x.toBits.toNat / 2 ^ 52 % 2048 := by
    simp [UnpackedFloat.unpackExponent, Nat.shiftRight_eq_div_pow]
  have hsome : @UnpackedFloat.unpackExponent .binary64 x.toBits.toBitVec ≠ -1#_ := fun heq => by
    rw [heq] at hexponent
    exact h hexponent.symm
  rw [Float.toBits] at hsome
  rw [Float.isFinite, Float.Model.isFinite, unpack, UnpackedFloat.unpack]
  dsimp only
  rw [if_neg hsome]
  split
  · split <;> rfl
  · rfl

theorem isFinite_of_whole? {x : Float} {n : Int} (h : whole? x = some n) : x.isFinite = true := by
  refine isFinite_of_exponent fun hfull => ?_
  rw [whole?, Double.ofFloat, Double.ofBits] at h
  dsimp only at h
  rw [if_pos hfull] at h
  by_cases hfraction : x.toBits.toNat % 2 ^ 52 = 0
  · rw [if_pos hfraction] at h
    cases h
  · rw [if_neg hfraction] at h
    cases h

theorem nearestFloat_of_long {digits : Nat} (negative : Bool) (h : 400 < (toString digits).length) :
    nearestFloat negative digits 0 =
      if negative then -Float.ofScientific 1 false 400 else Float.ofScientific 1 false 400 := by
  have hnonzero : digits ≠ 0 := fun hzero => by
    rw [hzero] at h
    exact absurd h (by decide)
  have hlow : ¬((toString digits).length + (0 : Int) < -400) := by omega
  have hhigh : (400 : Int) < (toString digits).length + (0 : Int) := by omega
  unfold nearestFloat
  simp only [hnonzero, hlow, hhigh, decide_false, Bool.or_self, if_true, Bool.false_eq_true, if_false]

/-- No double is near an integer of so many digits. -/
theorem isFinite_realOfInt_pow {k : Nat} (hk : 400 ≤ k) : (Schema.realOfInt (10 ^ k)).isFinite = false := by
  have hlong : 400 < (toString ((10 : Int) ^ k).natAbs).length := by
    refine hk.trans_lt ?_
    rw [← not_le, Nat.toString_eq_repr, Nat.length_repr_le_iff (by omega)]
    simp [Int.natAbs_pow]
  have hinfinite : ∀ negative : Bool, (if negative then -Float.ofScientific 1 false 400
      else Float.ofScientific 1 false 400).isFinite = false := by decide +kernel
  rw [Schema.realOfInt, nearestFloat_of_long _ hlong]
  exact hinfinite _

end CodeAtlas.Decimal
