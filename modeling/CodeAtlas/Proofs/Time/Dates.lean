import CodeAtlas.Proofs.Time.Clock

/-! Every date of the calendar is the date of its own day, so that a clock that has not moved yet shows the time it was
    started at: any time of universal time can be read from some clock. -/

namespace CodeAtlas.Time

/-! ### Years -/

theorem daysOfYears_append (m n year : Nat) :
    daysOfYears (m + n) year = daysOfYears m year + daysOfYears n (year + m) := by
  induction m generalizing year with
  | zero => rw [Nat.zero_add, daysOfYears, Nat.zero_add, Nat.add_zero]
  | succ m ih =>
    have hnext : year + 1 + m = year + (m + 1) := by omega
    rw [Nat.succ_add, daysOfYears, ih, hnext, daysOfYears, Nat.add_assoc]

theorem daysOfYears_periods (periods : Nat) : daysOfYears (400 * periods) 1 = 146097 * periods := by
  induction periods with
  | zero => rfl
  | succ periods ih =>
    rw [Nat.mul_succ, daysOfYears_append, ih, Nat.add_comm 1, daysOfYears_period, Nat.mul_succ]

/-- A multiple is passed where the next number is one. -/
theorem succ_div_eq (n d : Nat) : (n + 1) / d = n / d + if (n + 1) % d = 0 then 1 else 0 := by
  simp only [Nat.succ_div, Nat.dvd_iff_mod_eq_zero]

theorem daysBeforeYear_succ (n : Nat) : daysBeforeYear (n + 2) = daysBeforeYear (n + 1) + daysInYear (n + 1) := by
  have hhundred : (n + 1) % 100 = 0 → (n + 1) % 4 = 0 := fun h => by omega
  have hfour : (n + 1) % 400 = 0 → (n + 1) % 100 = 0 := fun h => by omega
  have hfewer : n / 100 ≤ n / 4 := Nat.div_le_div_left (by decide) (by decide)
  have hnext : n + 2 - 1 = n + 1 := rfl
  unfold daysBeforeYear daysInYear isLeap
  rw [hnext, Nat.add_sub_cancel]
  dsimp only
  rw [succ_div_eq n 4, succ_div_eq n 100, succ_div_eq n 400]
  generalize n / 4 = fours at hfewer ⊢
  generalize n / 100 = hundreds at hfewer ⊢
  generalize n / 400 = periods
  by_cases h4 : (n + 1) % 4 = 0 <;> by_cases h100 : (n + 1) % 100 = 0 <;> by_cases h400 : (n + 1) % 400 = 0 <;>
    simp only [h4, h100, h400, decide_true, decide_false, ne_eq, not_true, not_false_iff, Bool.and_true,
      Bool.and_false, Bool.or_true, Bool.or_false, if_true, if_false, Bool.false_eq_true, Bool.or_self] <;>
    first
      | exact absurd (hhundred h100) h4
      | exact absurd (hfour h400) h100
      | omega

/-- The days before a year are those of all years from the first on. -/
theorem daysBeforeYear_eq (n : Nat) : daysBeforeYear (n + 1) = daysOfYears n 1 := by
  induction n with
  | zero => rfl
  | succ n ih =>
    rw [daysBeforeYear_succ, ih, daysOfYears_append n 1, daysOfYears, daysOfYears, Nat.add_zero (daysInYear _), Nat.add_comm 1 n]

theorem yearDay_add {left : Nat} : ∀ {fuel n year : Nat}, n ≤ fuel → left < daysInYear (year + n) →
    yearDay fuel year (daysOfYears n year + left) = (year + n, left)
  | 0, n, year, hn, _ => by
    obtain rfl := Nat.le_zero.mp hn
    rw [yearDay, daysOfYears, Nat.zero_add, Nat.add_zero]
  | fuel + 1, 0, year, _, hleft => by
    rw [yearDay, daysOfYears, Nat.zero_add]
    exact if_pos hleft
  | fuel + 1, n + 1, year, hn, hleft => by
    have hnext : year + 1 + n = year + (n + 1) := by omega
    rw [yearDay, daysOfYears, if_neg (by omega), Nat.add_assoc, Nat.add_sub_cancel_left,
      yearDay_add (Nat.le_of_succ_le_succ hn) (hnext ▸ hleft), hnext]

/-! ### Months -/

theorem daysOfMonths_append (year m n month : Nat) :
    daysOfMonths year (m + n) month = daysOfMonths year m month + daysOfMonths year n (month + m) := by
  induction m generalizing month with
  | zero => rw [Nat.zero_add, daysOfMonths, Nat.zero_add, Nat.add_zero]
  | succ m ih =>
    have hnext : month + 1 + m = month + (m + 1) := by omega
    rw [Nat.succ_add, daysOfMonths, ih, hnext, daysOfMonths, Nat.add_assoc]

theorem daysOfMonths_one (year month : Nat) : daysOfMonths year 1 month = daysInMonth year month := rfl

theorem daysBeforeMonth_eq (year n : Nat) : daysBeforeMonth year (n + 1) = daysOfMonths year n 1 := by
  induction n with
  | zero => rfl
  | succ n ih =>
    rw [daysBeforeMonth, ih, daysOfMonths_append year n 1, daysOfMonths_one, Nat.add_comm 1 n]
    exact Nat.succ_ne_zero n

theorem monthDay_add {year left : Nat} : ∀ {fuel n month : Nat}, n ≤ fuel → left < daysInMonth year (month + n) →
    monthDay year fuel month (daysOfMonths year n month + left) = (month + n, left + 1)
  | 0, n, month, hn, _ => by
    obtain rfl := Nat.le_zero.mp hn
    rw [monthDay, daysOfMonths, Nat.zero_add]
    rfl
  | fuel + 1, 0, month, _, hleft => by
    rw [monthDay, daysOfMonths, Nat.zero_add]
    exact if_pos hleft
  | fuel + 1, n + 1, month, hn, hleft => by
    have hnext : month + 1 + n = month + (n + 1) := by omega
    rw [monthDay, daysOfMonths, if_neg (by omega), Nat.add_assoc, Nat.add_sub_cancel_left,
      monthDay_add (Nat.le_of_succ_le_succ hn) (hnext ▸ hleft), hnext]

/-! ### Dates -/

/-- What stands before a day of a month in its year is less than the year. -/
theorem daysOfMonths_add_lt {year n left : Nat} (hn : n < 12) (hleft : left < daysInMonth year (1 + n)) :
    daysOfMonths year n 1 + left < daysInYear year := by
  obtain ⟨rest, hrest⟩ := Nat.exists_eq_add_of_lt hn
  have hyear : daysOfMonths year 12 1 =
      daysOfMonths year n 1 + (daysInMonth year (1 + n) + daysOfMonths year rest (1 + n + 1)) := by
    rw [hrest, Nat.add_assoc n, daysOfMonths_append, Nat.add_comm rest 1, daysOfMonths_append, daysOfMonths_one]
  rw [← daysOfMonths_year, hyear]
  omega

/-- What stands before a day of a year in its period of 400 years is less than the period. -/
theorem daysOfYears_add_lt {periods n left : Nat} (hn : n < 400) (hleft : left < daysInYear (400 * periods + 1 + n)) :
    daysOfYears n (400 * periods + 1) + left < 146097 := by
  obtain ⟨rest, hrest⟩ := Nat.exists_eq_add_of_lt hn
  have hperiod : daysOfYears 400 (400 * periods + 1) = daysOfYears n (400 * periods + 1) +
      (daysInYear (400 * periods + 1 + n) + daysOfYears rest (400 * periods + 1 + n + 1)) := by
    rw [hrest, Nat.add_assoc n, daysOfYears_append, daysOfYears]
  rw [← daysOfYears_period periods, hperiod]
  omega

/-- A date by the months and days that are behind it. -/
theorem dateOfDay_add {periods n k left : Nat} (hn : n < 400) (hk : k < 12)
    (hleft : left < daysInMonth (400 * periods + 1 + n) (1 + k)) :
    dateOfDay (146097 * periods + (daysOfYears n (400 * periods + 1) +
        (daysOfMonths (400 * periods + 1 + n) k 1 + left)) + 1) = (400 * periods + 1 + n, 1 + k, left + 1) := by
  have hyear := daysOfMonths_add_lt hk hleft
  have hperiod := daysOfYears_add_lt hn hyear
  rw [dateOfDay, Nat.add_sub_cancel, Nat.mul_add_div (by decide), Nat.div_eq_of_lt hperiod, Nat.mul_add_mod,
    Nat.mod_eq_of_lt hperiod, Nat.add_zero periods, yearDay_add (Nat.le_of_lt hn) hyear]
  dsimp only
  rw [monthDay_add (Nat.le_of_lt_succ hk) hleft]

theorem dateOfDay_dayNumber {year month day : Nat} (hyear : 1 ≤ year) (hmonth : 1 ≤ month) (hmonth' : month ≤ 12)
    (hday : 1 ≤ day) (hday' : day ≤ daysInMonth year month) :
    dateOfDay (dayNumber year month day) = (year, month, day) := by
  obtain ⟨periods, n, hn, rfl⟩ : ∃ periods n, n < 400 ∧ year = 400 * periods + 1 + n :=
    ⟨(year - 1) / 400, (year - 1) % 400, Nat.mod_lt _ (by decide), by omega⟩
  obtain ⟨k, rfl⟩ := Nat.exists_eq_add_of_le hmonth
  obtain ⟨left, rfl⟩ := Nat.exists_eq_add_of_le' hday
  have hyears : daysBeforeYear (400 * periods + 1 + n) =
      146097 * periods + daysOfYears n (400 * periods + 1) := by
    have hcomm : 400 * periods + 1 + n = 400 * periods + n + 1 := by omega
    rw [hcomm, daysBeforeYear_eq, daysOfYears_append, daysOfYears_periods, Nat.add_comm 1]
  have hdays : dayNumber (400 * periods + 1 + n) (1 + k) (left + 1) = 146097 * periods +
      (daysOfYears n (400 * periods + 1) + (daysOfMonths (400 * periods + 1 + n) k 1 + left)) + 1 := by
    rw [dayNumber, hyears, Nat.add_comm 1 k, daysBeforeMonth_eq]
    omega
  rw [hdays]
  exact dateOfDay_add hn (by omega) hday'

end CodeAtlas.Time

namespace CodeAtlas

namespace Timestamp

/-- The seconds from the start of year 1. -/
def seconds (t : Timestamp) : Nat :=
  ((Time.dayNumber t.year t.month t.day - 1) * 24 + t.hour) * 3600 + (t.minute * 60 + t.second)

theorem microseconds_eq (t : Timestamp) : t.microseconds = ((t.seconds * 1000000 + t.micro : Nat) : Int) := by
  have hseconds : (((Time.dayNumber t.year t.month t.day - 1) * 24 + t.hour) * 60 + t.minute) * 60 + t.second =
      t.seconds := by
    rw [seconds]
    omega
  rw [microseconds, hseconds, Int.natCast_add, Int.natCast_mul]
  rfl

theorem time_of_seconds {days hour minute second : Nat} (hhour : hour < 24) (hminute : minute < 60)
    (hsecond : second < 60) {n : Nat} (hn : n = (days * 24 + hour) * 3600 + (minute * 60 + second)) :
    n / 86400 = days ∧ n / 3600 % 24 = hour ∧ n / 60 % 60 = minute ∧ n % 60 = second := by
  subst hn
  refine ⟨?_, ?_, ?_, ?_⟩ <;> omega

/-- No time later a clock shows the same. -/
theorem later?_self {t : Timestamp} (h : t.IsUtc) {n : Int} (hn : n = 0) : t.later? n = some t := by
  obtain ⟨hyear, hyear', hmonth, hmonth', hday, hday', hhour, hminute, hsecond, hmicro, -⟩ := h
  have hdate := Time.dateOfDay_dayNumber hyear hmonth hmonth' hday hday'
  have hfirst : Time.dayNumber t.year t.month t.day - 1 + 1 = Time.dayNumber t.year t.month t.day :=
    Nat.sub_add_cancel (Nat.le_trans hday (Nat.le_add_left _ _))
  obtain ⟨hdays, hhour', hminute', hsecond'⟩ := time_of_seconds hhour hminute hsecond (n := t.seconds) rfl
  have htotal : t.microseconds + n = ((t.seconds * 1000000 + t.micro : Nat) : Int) := by
    rw [hn, Int.add_zero, microseconds_eq]
  have hnonneg : ¬t.microseconds + n < 0 := by
    rw [htotal]
    exact Int.not_lt.mpr (Int.natCast_nonneg _)
  have hwhole : (t.seconds * 1000000 + t.micro) / 1000000 = t.seconds := by omega
  have hrest : (t.seconds * 1000000 + t.micro) % 1000000 = t.micro := by omega
  rw [later?]
  dsimp only
  rw [if_neg hnonneg, htotal, Int.toNat_natCast, hwhole, hrest, hdays, hfirst, hdate, hhour', hminute', hsecond']
  exact if_neg (Nat.not_lt.mpr hyear')

end Timestamp

theorem Clock.now_start {t : Timestamp} (h : t.IsUtc) : ({ start := t } : Clock).now = t := by
  have hnow : ({ start := t } : Clock).now? = some t := Timestamp.later?_self h (Int.zero_mul _)
  rw [now, hnow, Option.getD_some]

end CodeAtlas
