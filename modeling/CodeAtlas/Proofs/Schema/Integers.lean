import CodeAtlas.Proofs.Text.Blank
import CodeAtlas.Schema.Coerce

/-! Integers that are written in digits. Digits without a zero at the start stand for the number that they write, if there
    are not too many of them. -/

namespace CodeAtlas.Schema

/-- Digits that write a number, with a zero at the start only for zero itself. -/
structure IsNumeral (ds : List Char) : Prop where
  ne_nil : ds ≠ []
  digits : ∀ c ∈ ds, c.isDigit = true
  no_zero : ds.head? = some '0' → ds.length = 1

variable {ds : List Char} {c : Char}

theorem toNat_of_isDigit (h : c.isDigit = true) : 48 ≤ c.toNat ∧ c.toNat ≤ 57 := by
  simp only [Char.isDigit, Bool.and_eq_true, decide_eq_true_eq, ge_iff_le, UInt32.le_iff_toNat_le] at h
  exact h

theorem isNumberSpace_of_isDigit (h : c.isDigit = true) : isNumberSpace c = false := by
  obtain ⟨hlow, hhigh⟩ := toNat_of_isDigit h
  have hblank : Text.isBlank c = false := by
    simp only [Text.isBlank, Bool.or_eq_false_iff, Bool.and_eq_false_iff, decide_eq_false_iff_not, beq_eq_false_iff_ne]
    omega
  rw [isNumberSpace, hblank, Bool.false_and]

theorem dropWhile_isNumberSpace (h : ∀ c ∈ ds, c.isDigit = true) : ds.dropWhile isNumberSpace = ds :=
  List.dropWhile_eq_self_iff.mpr fun hpos => by simp [isNumberSpace_of_isDigit (h _ (List.getElem_mem hpos))]

namespace IsNumeral

/-- There is neither a sign nor a point nor an underscore. -/
theorem not_mem (h : IsNumeral ds) (hc : c.isDigit = false) : c ∉ ds := fun hmem => by
  rw [h.digits c hmem] at hc
  cases hc

theorem trimNumber (h : IsNumeral ds) : trimNumber ds = ds := by
  have hback : ∀ c ∈ ds.reverse, c.isDigit = true := fun c hc => h.digits c (List.mem_reverse.mp hc)
  rw [Schema.trimNumber, dropWhile_isNumberSpace h.digits, dropWhile_isNumberSpace hback, List.reverse_reverse]

theorem withoutZeroFraction (h : IsNumeral ds) : withoutZeroFraction ds = ds := by
  have hrest : ds.dropWhile (· ≠ '.') = [] := by
    rw [List.dropWhile_eq_nil_iff]
    intro c hc
    exact decide_eq_true fun heq => h.not_mem (c := '.') rfl (heq ▸ hc)
  rw [Schema.withoutZeroFraction, hrest]

theorem withoutUnderscores? (h : IsNumeral ds) : withoutUnderscores? ds = some ds := by
  have hself : Text.splitWhere (· == '_') ds = [ds] := Text.splitWhere_of_not fun c hc =>
    beq_eq_false_iff_ne.mpr fun heq => h.not_mem (c := '_') rfl (heq ▸ hc)
  rw [Schema.withoutUnderscores?, hself]
  simp [h.ne_nil]

theorem withoutZeros? (h : IsNumeral ds) : withoutZeros? ds = some ds := by
  cases ds with
  | nil => exact absurd rfl h.ne_nil
  | cons c ds =>
    have hdigit : c.isDigit = true := h.digits c List.mem_cons_self
    by_cases hc : c = '0'
    · subst hc
      obtain rfl : ds = [] := List.length_eq_zero_iff.mp (Nat.succ.inj (h.no_zero rfl))
      rfl
    · unfold Schema.withoutZeros?
      split
      · rename_i heq
        exact absurd (List.cons.inj heq).1 hc
      · rename_i d rest _ heq
        obtain ⟨rfl, rfl⟩ := List.cons.inj heq
        rw [hdigit, Bool.true_or, if_pos rfl]
      · rename_i heq
        cases heq

theorem plainInteger? {s : String} (h : IsNumeral s.toList) : plainInteger? s = some s.toList := by
  unfold Schema.plainInteger?
  rw [h.trimNumber]
  have hplus : ∀ rest, s.toList ≠ '+' :: rest := fun rest heq => h.not_mem (c := '+') rfl (heq ▸ List.mem_cons_self)
  have hminus : ∀ rest, s.toList ≠ '-' :: rest := fun rest heq => h.not_mem (c := '-') rfl (heq ▸ List.mem_cons_self)
  split
  · rename_i rest heq
    exact absurd heq (hplus _)
  · rename_i rest _ heq
    exact absurd heq (hplus _)
  · rename_i rest heq
    exact absurd heq (hminus _)
  · rw [h.withoutZeros?, Option.bind_some, h.withoutZeroFraction, h.withoutUnderscores?]

theorem integerOfPlain? (h : IsNumeral ds) (hlength : ds.length ≤ Value.Reader.digitLimit) :
    integerOfPlain? ds = some (Text.natOfDigits ds) := by
  have hall : ds.all Char.isDigit = true := List.all_eq_true.mpr h.digits
  have hzero : ¬(ds.head? = some '0' ∧ 1 < ds.length) := fun ⟨hhead, hlong⟩ => by
    rw [h.no_zero hhead] at hlong
    exact absurd hlong (by decide)
  unfold Schema.integerOfPlain?
  split
  rename_i heq
  split at heq
  · exact absurd List.mem_cons_self (h.not_mem (c := '-') rfl)
  · cases heq
    rw [if_neg]
    · rfl
    · simp only [hall, List.isEmpty_iff, h.ne_nil, Bool.not_true, Bool.or_false, Bool.or_eq_true, Bool.and_eq_true,
        decide_eq_true_eq, hzero, false_or, Nat.not_lt, hlength]

theorem startsOversized {s : String} (h : IsNumeral s.toList) (hlength : s.toList.length ≤ Value.Reader.digitLimit) :
    startsOversized s = false := by
  unfold Schema.startsOversized
  split
  rename_i heq
  split at heq
  · rename_i hlist
    exact absurd (hlist ▸ List.mem_cons_self) (h.not_mem (c := '-') rfl)
  · cases heq
    have hle : (Value.Reader.digits s.toList).1.length ≤ Value.Reader.digitLimit :=
      (List.takeWhile_sublist _).length_le.trans hlength
    rw [Nat.zero_add, decide_eq_false (Nat.not_lt.mpr hle), Bool.and_false]

end IsNumeral

theorem digitChar_ne_zero : ∀ d : Fin 10, 0 < d.val → d.val.digitChar ≠ '0' := by decide

theorem head?_toDigits {n : Nat} (h : 0 < n) : (Nat.toDigits 10 n).head? ≠ some '0' := by
  induction n using Nat.strongRecOn with
  | ind n ih =>
    -- the last digit comes off the end; the first one is that of `n / 10`
    rw [Nat.toDigits_eq_if (by decide)]
    split
    · rename_i hlt
      exact fun hzero => digitChar_ne_zero ⟨n, hlt⟩ h (Option.some.inj hzero)
    · rename_i hge
      rw [List.head?_append_of_ne_nil _ Nat.toDigits_ne_nil]
      exact ih (n / 10) (by omega) (by omega)

theorem isNumeral_toDigits (n : Nat) : IsNumeral (Nat.toDigits 10 n) where
  ne_nil := Nat.toDigits_ne_nil
  digits := fun _ => Nat.isDigit_of_mem_toDigits (by decide) (by decide)
  no_zero := fun hzero => by
    rcases Nat.eq_zero_or_pos n with rfl | hpos
    · rfl
    · exact absurd hzero (head?_toDigits hpos)

theorem natOfDigits_toDigits (n : Nat) : Text.natOfDigits (Nat.toDigits 10 n) = n := by
  have hfold : ∀ ds : List Char, Text.natOfDigits ds = Nat.ofDigitChars 10 ds 0 := fun ds => by
    rw [Text.natOfDigits, Nat.ofDigitChars]
    simp only [Nat.mul_comm 10]
    rfl
  rw [hfold, Nat.ofDigitChars_ten_toDigits]

/-- The text of a number with no more digits than can be read is read as that number. -/
theorem integerOfText_repr {n : Nat} (h : n.repr.length ≤ Value.Reader.digitLimit) : integerOfText n.repr = .ok n := by
  have hnumeral : IsNumeral n.repr.toList := by
    rw [Nat.toList_repr]
    exact isNumeral_toDigits n
  have hlength : n.repr.toList.length ≤ Value.Reader.digitLimit := by rwa [String.length_toList]
  rw [integerOfText, hnumeral.startsOversized hlength, hnumeral.plainInteger?, Option.bind_some,
    hnumeral.integerOfPlain? hlength, Nat.toList_repr, natOfDigits_toDigits]
  rfl

end CodeAtlas.Schema
