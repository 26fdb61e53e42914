import CodeAtlas.Value.Halves
import CodeAtlas.Value.Printer
import Mathlib.Data.List.TakeWhile

/-! Texts without halves of pairs. What stands for a half is a private character, which is shown by its code; so a text
    between quotes holds none, whatever was quoted, and neither does the data that is made of it. -/

namespace CodeAtlas.Text

variable {c : Char} {cs ds : List Char}

/-! ### Characters -/

/-- The character is itself and stands for no half. -/
def IsPlain (c : Char) : Prop := Surrogate.half? c = none

theorem isPlain_of_lt (h : c.toNat < 0x10F000) : IsPlain c := by
  have hcode : ¬0xD800 ≤ c.toNat - Surrogate.offset := by
    unfold Surrogate.offset
    omega
  have hlow : ¬0xDC00 ≤ c.toNat - Surrogate.offset := fun hle => hcode (Nat.le_trans (by decide) hle)
  simp only [IsPlain, Surrogate.half?, Surrogate.isHigh, Surrogate.isLow, decide_eq_false hcode, decide_eq_false hlow,
    Bool.false_and, Bool.or_false, Bool.false_eq_true, if_false]

/-- A range of an ascending list is found when the code is in it and no later range has to be asked. -/
theorem covers_of_mem {n : Nat} : ∀ {rs : List (Nat × Nat)} {r : Nat × Nat}, r ∈ rs → (∀ q ∈ rs, q.1 ≤ n) →
    n ≤ r.2 → CharSet.covers rs n = true
  | [], _, h, _, _ => by cases h
  | (lo, hi) :: rest, r, h, hall, hr => by
    obtain ⟨hlo, hrest⟩ := List.forall_mem_cons.mp hall
    rw [CharSet.covers, if_neg (Nat.not_lt.mpr hlo)]
    split
    · rfl
    · rename_i hhi
      rcases List.mem_cons.mp h with rfl | h
      · exact absurd hr hhi
      · exact covers_of_mem h hrest hr

theorem unprintable_ranges : (0xE01F0, 0x10FFFF) ∈ unprintableSet.ranges ∧
    ∀ q ∈ unprintableSet.ranges, q.1 ≤ 0x10F000 := by
  decide +kernel

/-- What can be printed is no stand-in: all codes from the last supplement on are unprintable. -/
theorem isPlain_of_isPrintable (h : isPrintable c = true) : IsPlain c := by
  by_cases hlow : c.toNat < 0x10F000
  · exact isPlain_of_lt hlow
  · obtain ⟨hlast, hall⟩ := unprintable_ranges
    have hcovers : unprintableSet.contains c = true := by
      refine covers_of_mem hlast (fun q hq => ?_) ?_
      · have := hall q hq
        omega
      · have : c.toNat.isValidChar := c.valid
        simp only [Nat.isValidChar] at this
        omega
    rw [isPrintable, hcovers] at h
    cases h

/-! ### Characters in a row -/

/-- No character of the text stands for a half. -/
def ArePlain (cs : List Char) : Prop := ∀ c ∈ cs, IsPlain c

theorem arePlain_of_all (h : (cs.all fun c => c.toNat < 0x10F000) = true) : ArePlain cs := fun c hc =>
  isPlain_of_lt (of_decide_eq_true (List.all_eq_true.mp h c hc))

namespace ArePlain

theorem cons (hc : IsPlain c) (h : ArePlain cs) : ArePlain (c :: cs) := List.forall_mem_cons.mpr ⟨hc, h⟩

theorem append (h : ArePlain cs) (h' : ArePlain ds) : ArePlain (cs ++ ds) := List.forall_mem_append.mpr ⟨h, h'⟩

theorem flatMap {f : Char → List Char} (h : ∀ c ∈ cs, ArePlain (f c)) : ArePlain (cs.flatMap f) := by
  intro d hd
  obtain ⟨c, hc, hdc⟩ := List.mem_flatMap.mp hd
  exact h c hc d hdc

/-- A text without halves can be encoded. -/
theorem refusal?_eq_none (h : ArePlain cs) : Surrogate.refusal? cs = none := by
  have hrest : cs.dropWhile (fun c => (Surrogate.half? c).isNone) = [] := by
    rw [List.dropWhile_eq_nil_iff]
    exact fun c hc => Option.isNone_iff_eq_none.mpr (h c hc)
  rw [Surrogate.refusal?, hrest]
  rfl

end ArePlain

/-- Nothing else than a half stands in the way of encoding a text. -/
theorem refusal?_eq_none_iff : Surrogate.refusal? cs = none ↔ ArePlain cs := by
  refine ⟨fun h => ?_, ArePlain.refusal?_eq_none⟩
  have hrest : cs.dropWhile (fun c => (Surrogate.half? c).isNone) = [] := by
    by_contra hne
    have hhead := List.head_dropWhile_not (fun c => (Surrogate.half? c).isNone) hne
    rw [Surrogate.refusal?, List.head?_eq_some_head hne, Option.bind_some, Option.map_eq_none_iff] at h
    rw [h] at hhead
    cases hhead
  intro c hc
  exact Option.isNone_iff_eq_none.mp (List.dropWhile_eq_nil_iff.mp hrest c hc)

/-! ### Texts between quotes -/

theorem isPlain_hexDigit (n : Nat) : IsPlain (hexDigit n) := by
  have hall : ArePlain ('0' :: "0123456789abcdef".toList) := arePlain_of_all (by decide)
  refine hall _ ?_
  rw [hexDigit, List.getD_eq_getElem?_getD]
  cases hd : "0123456789abcdef".toList[n]? with
  | none => exact List.mem_cons_self
  | some d => exact List.mem_cons_of_mem _ (List.mem_of_getElem? hd)

theorem arePlain_hexDigits : ∀ width n : Nat, ArePlain (hexDigits width n)
  | 0, _ => fun _ h => by cases h
  | width + 1, n =>
    (arePlain_hexDigits width (n / 16)).append (ArePlain.cons (isPlain_hexDigit (n % 16)) fun _ h => by cases h)

theorem arePlain_escapeCode (n : Nat) : ArePlain (escapeCode n) := by
  unfold escapeCode
  split
  · exact .cons (isPlain_of_lt (by decide)) (.cons (isPlain_of_lt (by decide)) (arePlain_hexDigits 2 n))
  · split
    · exact .cons (isPlain_of_lt (by decide)) (.cons (isPlain_of_lt (by decide)) (arePlain_hexDigits 4 n))
    · exact .cons (isPlain_of_lt (by decide)) (.cons (isPlain_of_lt (by decide)) (arePlain_hexDigits 8 n))

/-- A backslash and the quote are written behind a backslash, and nothing else goes as it is unless it can be printed. -/
theorem arePlain_quoteChar {quote : Char} (hquote : IsPlain quote) (c : Char) : ArePlain (quoteChar quote c) := by
  unfold quoteChar
  split
  · rename_i hc
    rw [Bool.or_eq_true, decide_eq_true_eq, decide_eq_true_eq] at hc
    refine .cons (isPlain_of_lt (by decide)) (.cons ?_ fun _ h => by cases h)
    rcases hc with rfl | rfl
    · exact hquote
    · exact isPlain_of_lt (by decide)
  · repeat' split
    · exact arePlain_of_all (by decide)
    · exact arePlain_of_all (by decide)
    · exact arePlain_of_all (by decide)
    · exact .cons (isPlain_of_isPrintable ‹_›) fun _ h => by cases h
    · exact arePlain_escapeCode _

/-- Whatever is quoted, the quoted text holds no half. -/
theorem arePlain_quoted (s : String) : ArePlain (quoted s).toList := by
  have hquote : IsPlain (quoteFor s.toList) := by
    unfold quoteFor
    split <;> exact isPlain_of_lt (by decide)
  rw [quoted, String.toList_ofList, quotedChars]
  exact (ArePlain.cons hquote (.flatMap fun c _ => arePlain_quoteChar hquote c)).append
    (.cons hquote fun _ h => by cases h)

/-! ### Data -/

theorem arePlain_dataChar (hc : IsPlain c) : ArePlain (Value.dataChar c) := by
  unfold Value.dataChar
  iterate 7
    split
    · exact arePlain_of_all (by decide)
  split
  · exact .cons (isPlain_of_lt (by decide)) (.cons (isPlain_of_lt (by decide)) (arePlain_hexDigits 4 _))
  · exact .cons hc fun _ h => by cases h

/-- A text is written as data without adding a half. -/
theorem arePlain_dataText {s : String} (h : ArePlain s.toList) : ArePlain (Value.dataText s).toList := by
  rw [Value.dataText, String.toList_ofList]
  exact (ArePlain.cons (isPlain_of_lt (by decide)) (.flatMap fun c hc => arePlain_dataChar (h c hc))).append
    (arePlain_of_all (by decide))

end CodeAtlas.Text
