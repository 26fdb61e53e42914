import CodeAtlas.Proofs.Time.Written
import CodeAtlas.Time.Clock

/-! A clock of universal time shows times of the calendar, whatever its step is and however often it has been
    read. -/

namespace CodeAtlas.Time

/-! ### Years and months -/

/-- The days of `n` years, the first of which is `year`. -/
def daysOfYears : Nat → Nat → Nat
  | 0, _ => 0
  | n + 1, year => daysInYear year + daysOfYears n (year + 1)

/-- The days of `n` months, the first of which is `month`. -/
def daysOfMonths (year : Nat) : Nat → Nat → Nat
  | 0, _ => 0
  | n + 1, month => daysInMonth year month + daysOfMonths year n (month + 1)

theorem isLeap_add (periods year : Nat) : isLeap (400 * periods + year) = isLeap year := by
  have h4 : (400 * periods + year) % 4 = year % 4 := by omega
  have h100 : (400 * periods + year) % 100 = year % 100 := by omega
  have h400 : (400 * periods + year) % 400 = year % 400 := by omega
  rw [isLeap, h4, h100, h400, isLeap]

theorem daysOfYears_add (periods : Nat) : ∀ n year : Nat,
    daysOfYears n (400 * periods + year) = daysOfYears n year
  | 0, _ => rfl
  | n + 1, year => by
    rw [daysOfYears, daysInYear, isLeap_add, Nat.add_assoc, daysOfYears_add periods n, daysOfYears, daysInYear]

/-- Any 400 years of the calendar that follow on a period have equally many days. -/
theorem daysOfYears_period (periods : Nat) : daysOfYears 400 (400 * periods + 1) = 146097 := by
  rw [daysOfYears_add]
  decide +kernel

theorem daysOfMonths_year (year : Nat) : daysOfMonths year 12 1 = daysInYear year := by
  unfold daysInYear
  cases h : isLeap year <;> simp [daysOfMonths, daysInMonth, h]

/-! ### Dates -/

theorem yearDay_spec : ∀ {n year left : Nat}, left < daysOfYears n year →
    year ≤ (yearDay n year left).1 ∧ (yearDay n year left).2 < daysInYear (yearDay n year left).1
  | 0, _, left, h => absurd h (Nat.not_lt_zero left)
  | n + 1, year, left, h => by
    rw [yearDay]
    split
    · rename_i hin
      exact ⟨Nat.le_refl year, hin⟩
    · rename_i hout
      rw [daysOfYears] at h
      obtain ⟨hyear, hleft⟩ := @yearDay_spec n (year + 1) (left - daysInYear year) (by omega)
      exact ⟨Nat.le_of_succ_le hyear, hleft⟩

theorem monthDay_spec {year : Nat} : ∀ {n month left : Nat}, left < daysOfMonths year (n + 1) month →
    month ≤ (monthDay year n month left).1 ∧ (monthDay year n month left).1 ≤ month + n ∧
      1 ≤ (monthDay year n month left).2 ∧
      (monthDay year n month left).2 ≤ daysInMonth year (monthDay year n month left).1
  | 0, month, left, h => ⟨Nat.le_refl month, Nat.le_refl month, Nat.succ_pos left, h⟩
  | n + 1, month, left, h => by
    rw [monthDay]
    split
    · rename_i hin
      exact ⟨Nat.le_refl month, Nat.le_add_right month _, Nat.succ_pos left, hin⟩
    · rename_i hout
      rw [daysOfMonths] at h
      obtain ⟨hmonth, hmonth', hday⟩ := @monthDay_spec year n (month + 1) (left - daysInMonth year month) (by omega)
      exact ⟨Nat.le_of_succ_le hmonth, by omega, hday⟩

/-- Every day has a date of the calendar. -/
theorem dateOfDay_spec (n : Nat) : 1 ≤ (dateOfDay n).1 ∧ 1 ≤ (dateOfDay n).2.1 ∧ (dateOfDay n).2.1 ≤ 12 ∧
    1 ≤ (dateOfDay n).2.2 ∧ (dateOfDay n).2.2 ≤ daysInMonth (dateOfDay n).1 (dateOfDay n).2.1 := by
  have hdays : (n - 1) % 146097 < daysOfYears 400 (400 * ((n - 1) / 146097) + 1) := by
    rw [daysOfYears_period]
    exact Nat.mod_lt _ (by decide)
  obtain ⟨hyear, hleft⟩ := yearDay_spec hdays
  unfold dateOfDay
  dsimp only
  generalize yearDay 400 _ _ = start at hyear hleft ⊢
  rw [← daysOfMonths_year] at hleft
  obtain ⟨hmonth, hmonth', hday⟩ := monthDay_spec hleft
  generalize monthDay _ 11 1 _ = date at hmonth hmonth' hday ⊢
  exact ⟨Nat.le_trans (Nat.succ_le_succ (Nat.zero_le _)) hyear, hmonth, hmonth', hday⟩

end CodeAtlas.Time

namespace CodeAtlas

theorem Timestamp.isUtc_of_later? {t later : Timestamp} {n : Int} (ho : t.offset = some 0)
    (h : t.later? n = some later) : later.IsUtc := by
  unfold later? at h
  dsimp only at h
  split at h
  · cases h
  · have hdate := Time.dateOfDay_spec ((t.microseconds + n).toNat / 1000000 / 86400 + 1)
    generalize Time.dateOfDay _ = date at h hdate
    obtain ⟨hyear, hmonth, hmonth', hday, hday'⟩ := hdate
    split at h
    · cases h
    · rename_i hyear'
      obtain rfl := Option.some.inj h
      exact ⟨hyear, Nat.not_lt.mp hyear', hmonth, hmonth', hday, hday', Nat.mod_lt _ (by decide),
        Nat.mod_lt _ (by decide), Nat.mod_lt _ (by decide), Nat.mod_lt _ (by decide), ho⟩

theorem Clock.isUtc_now {c : Clock} (h : c.start.IsUtc) : c.now.IsUtc := by
  unfold now
  cases hnow : c.now? with
  | none => exact h
  | some now => exact Timestamp.isUtc_of_later? h.offset_eq hnow

end CodeAtlas
