import CodeAtlas.Time.Reader
import Mathlib.Data.List.TakeWhile

/-! Times of universal time are written in a way that is read back: the written date has hyphens, the time has
    colons, a fraction stands after a point only where it is not zero, and the zone is that of universal time. -/

namespace CodeAtlas.Timestamp

/-- A time of the calendar by the clock of universal time. -/
structure IsUtc (t : Timestamp) : Prop where
  one_le_year : 1 ≤ t.year
  year_le : t.year ≤ 9999
  one_le_month : 1 ≤ t.month
  month_le : t.month ≤ 12
  one_le_day : 1 ≤ t.day
  day_le : t.day ≤ Time.daysInMonth t.year t.month
  hour_lt : t.hour < 24
  minute_lt : t.minute < 60
  second_lt : t.second < 60
  micro_lt : t.micro < 1000000
  offset_eq : t.offset = some 0

theorem check_eq {t : Timestamp} (h : t.IsUtc) : t.check = .ok t := by
  obtain ⟨hy, hy', hm, hm', hd, hd', hh, hmin, hs, -, ho⟩ := h
  simp only [check, ho, Option.getD_some, Int.natAbs_zero]
  simp [Nat.ne_of_gt hy, Nat.not_lt.mpr hy', Nat.ne_of_gt hm, Nat.not_lt.mpr hm', Nat.ne_of_gt hd,
    Nat.not_lt.mpr hd', Nat.not_lt.mpr (Nat.le_of_lt_succ hh), Nat.not_lt.mpr (Nat.le_of_lt_succ hmin),
    Nat.not_lt.mpr (Nat.le_of_lt_succ hs)]

/-! ### Digits -/

/-- The last digit of a number. -/
def lastDigit (n : Nat) : Char := Char.ofNat (48 + n % 10)

theorem lastDigit_spec (n : Nat) : (lastDigit n).isDigit = true ∧ (lastDigit n).toNat = 48 + n % 10 := by
  have h : ∀ d : Fin 10, (Char.ofNat (48 + d)).isDigit = true ∧ (Char.ofNat (48 + d)).toNat = 48 + d := by decide
  exact h ⟨n % 10, Nat.mod_lt n (by decide)⟩

theorem ne_of_isDigit {c d : Char} (hc : c.isDigit = true) (hd : d.isDigit = false) : c ≠ d := fun h => by
  rw [h, hd] at hc
  cases hc

theorem digits_succ (width n : Nat) : digits (width + 1) n = digits width (n / 10) ++ [lastDigit n] := rfl

theorem length_digits : ∀ width n : Nat, (digits width n).length = width
  | 0, _ => rfl
  | width + 1, n => by rw [digits_succ, List.length_append, length_digits width]; rfl

theorem isDigit_of_mem_digits : ∀ {width n : Nat}, ∀ c ∈ digits width n, c.isDigit = true
  | 0, _, c, h => by cases h
  | width + 1, n, c, h => by
    rw [digits_succ] at h
    rcases List.mem_append.mp h with h | h
    · exact isDigit_of_mem_digits c h
    · rw [List.mem_singleton.mp h]
      exact (lastDigit_spec n).1

theorem number?_succ {width : Nat} : ∀ {ds : List Char} {c : Char} {rest : List Char} {acc n : Nat},
    ds.length = width → number? width (ds ++ c :: rest) acc = some (n, c :: rest) → c.isDigit = true →
    number? (width + 1) (ds ++ c :: rest) acc = some (n * 10 + (c.toNat - 48), rest) := by
  induction width with
  | zero =>
    intro ds c rest acc n hds h hc
    obtain rfl := List.length_eq_zero_iff.mp hds
    obtain ⟨rfl, -⟩ := Prod.mk.inj (Option.some.inj h)
    rw [List.nil_append, number?, if_pos hc, number?]
  | succ width ih =>
    intro ds c rest acc n hds h hc
    cases ds with
    | nil => cases hds
    | cons d ds =>
      rw [List.cons_append, number?] at h ⊢
      split at h
      · rename_i hd
        rw [if_pos hd]
        exact ih (Nat.succ.inj hds) h hc
      · cases h

/-- Digits are read as the number whose last digits they are. -/
theorem number?_digits : ∀ (width n acc : Nat) (rest : List Char),
    number? width (digits width n ++ rest) acc = some (acc * 10 ^ width + n % 10 ^ width, rest)
  | 0, n, acc, rest => by rw [digits, List.nil_append, number?, Nat.pow_zero, Nat.mod_one, Nat.mul_one, Nat.add_zero]
  | width + 1, n, acc, rest => by
    have hlast := lastDigit_spec n
    rw [digits_succ, List.append_assoc, List.singleton_append, number?_succ (length_digits width (n / 10))
      (number?_digits width (n / 10) acc (lastDigit n :: rest)) hlast.1, hlast.2, Nat.add_sub_cancel_left]
    have hmod : n % 10 ^ (width + 1) = n % 10 + 10 * (n / 10 % 10 ^ width) := by
      rw [Nat.pow_succ, Nat.mul_comm, Nat.mod_mul]
    have hpow : acc * 10 ^ (width + 1) = acc * 10 ^ width * 10 := by rw [Nat.pow_succ, Nat.mul_assoc]
    rw [hmod, hpow]
    congr 2
    omega

theorem number?_digits_of_lt {width n : Nat} (h : n < 10 ^ width) (rest : List Char) :
    number? width (digits width n ++ rest) 0 = some (n, rest) := by
  rw [number?_digits, Nat.zero_mul, Nat.zero_add, Nat.mod_eq_of_lt h]

/-! ### Parts -/

def dateChars (t : Timestamp) : List Char :=
  digits 4 t.year ++ '-' :: digits 2 t.month ++ '-' :: digits 2 t.day

def clockChars (t : Timestamp) : List Char :=
  digits 2 t.hour ++ ':' :: digits 2 t.minute ++ ':' :: digits 2 t.second ++ fractionChars t.micro

/-- The zone of universal time. -/
def utcChars : List Char := ['+', '0', '0', ':', '0', '0']

variable {t : Timestamp}

theorem chars_eq (h : t.IsUtc) : t.chars = t.dateChars ++ 'T' :: (t.clockChars ++ utcChars) := by
  have hzone : offsetChars 0 = utcChars := rfl
  simp only [chars, dateChars, clockChars, h.offset_eq, hzone, List.append_assoc, List.cons_append]

theorem length_dateChars : t.dateChars.length = 10 := by
  simp only [dateChars, List.length_append, List.length_cons, length_digits]

/-- Between hyphens no week is read. -/
theorem date?_dateChars (h : t.IsUtc) : date? t.dateChars = some (t.year, t.month, t.day) := by
  have hday : t.day < 100 := Nat.lt_of_le_of_lt h.day_le (by unfold Time.daysInMonth; split <;> split <;> decide)
  have hyear : number? 4 t.dateChars 0 = some (t.year, '-' :: (digits 2 t.month ++ '-' :: digits 2 t.day)) := by
    rw [dateChars, List.append_assoc, List.cons_append]
    exact number?_digits_of_lt (Nat.lt_succ_of_le h.year_le) _
  have hmonth : number? 2 (digits 2 t.month ++ '-' :: digits 2 t.day) 0 = some (t.month, '-' :: digits 2 t.day) :=
    number?_digits_of_lt (Nat.lt_of_le_of_lt h.month_le (by decide)) _
  have hdigits : number? 2 (digits 2 t.day) 0 = some (t.day, []) := by
    have := @number?_digits_of_lt 2 _ hday []
    rwa [List.append_nil] at this
  have hweek : ∀ rest, digits 2 t.month ++ '-' :: digits 2 t.day ≠ 'W' :: rest := fun rest heq =>
    ne_of_isDigit (lastDigit_spec (t.month / 10)).1 rfl (List.cons.inj heq).1
  rw [date?, hyear]
  simp only [Option.bind_eq_bind, Option.bind_some, List.head?_cons, List.tail_cons]
  split
  · rename_i rest heq
    exact absurd heq (hweek rest)
  · simp [hmonth, hyphen?, hdigits]

theorem time?_clockChars (h : t.IsUtc) :
    time? t.clockChars = some ⟨t.hour, t.minute, t.second, t.micro, false⟩ := by
  have hhour : number? 2 t.clockChars 0 =
      some (t.hour, ':' :: (digits 2 t.minute ++ ':' :: (digits 2 t.second ++ fractionChars t.micro))) := by
    simp only [clockChars, List.append_assoc, List.cons_append]
    exact number?_digits_of_lt (Nat.lt_trans h.hour_lt (by decide)) _
  have hminute := @number?_digits_of_lt 2 _ (Nat.lt_trans h.minute_lt (by decide))
    (':' :: (digits 2 t.second ++ fractionChars t.micro))
  have hsecond := @number?_digits_of_lt 2 _ (Nat.lt_trans h.second_lt (by decide)) (fractionChars t.micro)
  have hmicro := @number?_digits_of_lt 6 _ h.micro_lt []
  rw [List.append_nil] at hmicro
  have hseconds : pairs? 1 (some true) [t.hour, t.minute] (digits 2 t.second ++ fractionChars t.micro) =
      some ([t.hour, t.minute, t.second], t.micro, false) := by
    rw [pairs?, hsecond]
    by_cases hzero : t.micro = 0
    · rw [fractionChars, if_pos hzero, hzero]
      rfl
    · have hfraction : fraction? (digits 6 t.micro) = some (t.micro, false) := by
        rw [fraction?, length_digits, Nat.min_self, hmicro]
        simp
      rw [fractionChars, if_neg hzero]
      -- More than one character is left, and the first of them is no colon.
      change (fraction? (digits 6 t.micro)).bind _ = _
      rw [hfraction]
      rfl
  have hminutes : pairs? 2 (some true) [t.hour] (digits 2 t.minute ++ ':' :: (digits 2 t.second ++
      fractionChars t.micro)) = some ([t.hour, t.minute, t.second], t.micro, false) := by
    rw [pairs?, hminute]
    exact hseconds
  rw [time?, pairs?, hhour]
  change (pairs? 2 (some true) [t.hour] _).bind _ = _
  rw [hminutes]
  rfl

/-! ### The whole -/

theorem all_not_isZoneMark : ∀ c ∈ t.clockChars, isZoneMark c = false := by
  have hdigit : ∀ c : Char, c.isDigit = true → isZoneMark c = false := fun c hc => by
    simp only [isZoneMark, Bool.or_eq_false_iff, beq_eq_false_iff_ne]
    exact ⟨⟨ne_of_isDigit hc rfl, ne_of_isDigit hc rfl⟩, ne_of_isDigit hc rfl⟩
  have hdigits : ∀ width n, ∀ c ∈ digits width n, isZoneMark c = false := fun _ _ c hc =>
    hdigit c (isDigit_of_mem_digits c hc)
  intro c hc
  simp only [clockChars, List.mem_append, List.mem_cons] at hc
  rcases hc with ((hc | rfl | hc) | rfl | hc) | hc
  · exact hdigits _ _ c hc
  · rfl
  · exact hdigits _ _ c hc
  · rfl
  · exact hdigits _ _ c hc
  · unfold fractionChars at hc
    split at hc
    · cases hc
    · rcases List.mem_cons.mp hc with rfl | hc
      · rfl
      · exact hdigits _ _ c hc

theorem timeAndZone?_clockChars (h : t.IsUtc) : timeAndZone? (t.clockChars ++ utcChars) =
    some (⟨t.hour, t.minute, t.second, t.micro, false⟩, some 0) := by
  have hnone : ∀ c ∈ t.clockChars, (!isZoneMark c) = true := fun c hc => by rw [all_not_isZoneMark c hc]; rfl
  have htake : (t.clockChars ++ utcChars).takeWhile (fun c => !isZoneMark c) = t.clockChars := by
    rw [List.takeWhile_append_of_pos hnone]
    exact List.append_nil _
  have hdrop : (t.clockChars ++ utcChars).dropWhile (fun c => !isZoneMark c) = utcChars := by
    rw [List.dropWhile_append_of_pos hnone]
    rfl
  have hzone : zone? utcChars = some 0 := by decide
  rw [timeAndZone?, htake, time?_clockChars h]
  simp only [Option.bind_eq_bind, Option.bind_some, hdrop]
  split
  · rename_i hnil
    cases hnil
  · rw [hzone]
    rfl

theorem lt_length_chars (h : t.IsUtc) : 10 < t.chars.length := by
  rw [chars_eq h, List.length_append, length_dateChars, List.length_cons]
  omega

/-- After the year there is a hyphen and no week. -/
theorem dateLength?_chars (h : t.IsUtc) : dateLength? t.chars = some 10 := by
  have hseven : t.chars.length ≠ 7 := fun heq => absurd (heq ▸ lt_length_chars h) (by decide)
  have hmonth : ∃ rest, t.chars.drop 4 = '-' :: lastDigit (t.month / 10) :: rest := by
    refine ⟨lastDigit t.month :: '-' :: (digits 2 t.day ++ 'T' :: (t.clockChars ++ utcChars)), ?_⟩
    rw [chars_eq h, dateChars, List.append_assoc, List.append_assoc, List.drop_left' (length_digits 4 t.year)]
    rfl
  obtain ⟨rest, hmonth⟩ := hmonth
  rw [dateLength?, if_neg hseven, hmonth]
  split
  · rename_i heq
    exact absurd (List.cons.inj (List.cons.inj heq).2).1 (ne_of_isDigit (lastDigit_spec _).1 rfl)
  · rfl
  · rename_i heq
    cases (List.cons.inj heq).1
  · rename_i hhyphen _
    exact absurd rfl (hhyphen _)

theorem parts?_chars (h : t.IsUtc) : parts? t.chars = some t := by
  have hseven : ¬t.chars.length < 7 := Nat.not_lt.mpr (Nat.le_trans (by decide) (Nat.le_of_lt (lt_length_chars h)))
  have htake : t.chars.take 10 = t.dateChars := by
    rw [chars_eq h, List.take_left' length_dateChars]
  have hdrop : t.chars.drop 10 = 'T' :: (t.clockChars ++ utcChars) := by
    rw [chars_eq h, List.drop_left' length_dateChars]
  simp only [parts?, hseven, if_false, dateLength?_chars h, htake, hdrop, date?_dateChars h,
    timeAndZone?_clockChars h, Option.bind_eq_bind, Option.bind_some]
  rw [← h.offset_eq]

/-- What is written of a time of universal time is read as that time. -/
theorem ofText_text (h : t.IsUtc) : ofText t.text = .ok t := by
  rw [ofText, text, String.toList_ofList, parts?_chars h]
  exact check_eq h

end CodeAtlas.Timestamp
