import CodeAtlas.Text.Blank
import CodeAtlas.Text.Case

/-! Lower case, once and twice. The stretches of the case table lead only to codes that no stretch takes
    further, and never to a capital sigma, a dotted capital I or a blank. So whatever has been put in lower
    case stays as it is: all of it, and every part cut out of it. -/

namespace CodeAtlas.Text

/-! ### The table -/

theorem shiftedCode_eq_or {n : Nat} : ∀ rs : List CaseShift, shiftedCode rs n = n ∨
    ∃ r ∈ rs, r.covers n = true ∧ shiftedCode rs n = (n + r.shift).toNat
  | [] => Or.inl rfl
  | r :: rs => by
    rw [shiftedCode]
    split
    · exact Or.inl rfl
    · split
      · rename_i hc
        exact Or.inr ⟨r, List.mem_cons_self, hc, rfl⟩
      · rcases shiftedCode_eq_or rs with h | ⟨q, hq, hc, h⟩
        · exact Or.inl h
        · exact Or.inr ⟨q, List.mem_cons_of_mem r hq, hc, h⟩

theorem shiftedCode_eq_self {rs : List CaseShift} {n : Nat} (h : ∀ r ∈ rs, r.covers n = false) :
    shiftedCode rs n = n := by
  rcases shiftedCode_eq_or rs with h' | ⟨r, hr, hc, -⟩
  · exact h'
  · rw [h r hr] at hc
    cases hc

namespace CaseShift

theorem covers_iff {r : CaseShift} {n : Nat} :
    r.covers n = true ↔ r.first ≤ n ∧ n ≤ r.last ∧ (n - r.first) % r.step = 0 := by
  simp only [covers, Bool.and_eq_true, decide_eq_true_eq, beq_iff_eq, and_assoc]

/-- The first code that the stretch leads to. -/
def low (r : CaseShift) : Nat := (r.first + r.shift).toNat

/-- The last code that the stretch leads to. -/
def high (r : CaseShift) : Nat := (r.last + r.shift).toNat

/-- What `r` leads to lies before or behind all of `q`, or the codes of one are even where those of the
    other are odd. -/
def avoids (r q : CaseShift) : Bool :=
  Nat.blt r.high q.first || Nat.blt q.last r.low ||
    ((r.first == r.last || r.step % 2 == 0) && q.step % 2 == 0 && (r.low + q.first) % 2 == 1)

/-- The codes that `r` leads to are characters. -/
def isSound (r : CaseShift) : Bool :=
  0 ≤ r.first + r.shift && (r.high < 0xD800 || (0xE000 ≤ r.low && r.high < 0x110000))

theorem even_sub {r : CaseShift} {n : Nat} (hc : r.covers n = true) (h : r.step % 2 = 0) :
    (n - r.first) % 2 = 0 :=
  Nat.mod_eq_zero_of_dvd
    (Nat.dvd_trans (Nat.dvd_of_mod_eq_zero h) (Nat.dvd_of_mod_eq_zero (covers_iff.mp hc).2.2))

theorem covers_of_avoids {r q : CaseShift} (hs : r.isSound = true) (ha : r.avoids q = true) {n : Nat}
    (hc : r.covers n = true) : q.covers (n + r.shift).toNat = false := by
  rw [Bool.eq_false_iff]
  intro hq
  obtain ⟨hfirst, hlast, -⟩ := covers_iff.mp hc
  obtain ⟨hqfirst, hqlast, -⟩ := covers_iff.mp hq
  simp only [isSound, Bool.and_eq_true, decide_eq_true_eq] at hs
  simp only [avoids, low, high, Bool.or_eq_true, Bool.and_eq_true, Nat.blt_eq, beq_iff_eq] at ha
  rcases ha with (h | h) | ⟨⟨hr, hstep⟩, hodd⟩
  · omega
  · omega
  · -- The codes of both stretches have a parity of their own, and it is not the same.
    have hqeven := even_sub hq hstep
    have hreven : (n - r.first) % 2 = 0 := by
      rcases hr with hr | hr
      · have : n - r.first = 0 := by omega
        rw [this]
      · exact even_sub hc hr
    omega

theorem isValidChar_of_isSound {r : CaseShift} (hs : r.isSound = true) {n : Nat} (hc : r.covers n = true) :
    (n + r.shift).toNat.isValidChar := by
  obtain ⟨hfirst, hlast, -⟩ := covers_iff.mp hc
  simp only [isSound, Bool.and_eq_true, Bool.or_eq_true, decide_eq_true_eq] at hs
  simp only [low, high] at hs
  rw [Nat.isValidChar]
  omega

end CaseShift

/-- The codes of the two characters whose lower case is no single fixed one. -/
def exceptions : List CaseShift := [⟨0x3A3, 0x3A3, 1, 0⟩, ⟨0x130, 0x130, 1, 0⟩]

def blanks : List CaseShift := [
  ⟨9, 13, 1, 0⟩, ⟨28, 32, 1, 0⟩, ⟨0x85, 0x85, 1, 0⟩, ⟨0xA0, 0xA0, 1, 0⟩, ⟨0x1680, 0x1680, 1, 0⟩,
  ⟨0x2000, 0x200A, 1, 0⟩, ⟨0x2028, 0x2029, 1, 0⟩, ⟨0x202F, 0x202F, 1, 0⟩, ⟨0x205F, 0x205F, 1, 0⟩,
  ⟨0x3000, 0x3000, 1, 0⟩]

theorem isBlank_iff {c : Char} : isBlank c = true ↔ ∃ q ∈ blanks, q.covers c.toNat = true := by
  simp only [isBlank, blanks, CaseShift.covers, List.mem_cons, List.not_mem_nil, or_false, exists_eq_or_imp,
    exists_eq_left, Nat.mod_one, and_true, Bool.or_eq_true, Bool.and_eq_true, decide_eq_true_eq, beq_iff_eq]
  omega

theorem lowerShifts_avoid :
    (lowerShifts.all fun r => r.isSound && (lowerShifts ++ (exceptions ++ blanks)).all r.avoids) = true := by
  decide +kernel

theorem shift_of_mem_blanks : ∀ q ∈ blanks, q.shift = 0 := by decide

theorem blanks_avoid : (blanks.all fun q => q.isSound && lowerShifts.all q.avoids) = true := by
  decide +kernel

/-- What a stretch of the table leads to lies in no stretch, and is neither an exception nor a blank. -/
theorem covers_target {r : CaseShift} (hr : r ∈ lowerShifts) {n : Nat} (hc : r.covers n = true) {q : CaseShift}
    (hq : q ∈ lowerShifts ++ (exceptions ++ blanks)) : q.covers (n + r.shift).toNat = false := by
  have h := List.all_eq_true.mp lowerShifts_avoid r hr
  rw [Bool.and_eq_true] at h
  exact CaseShift.covers_of_avoids h.1 (List.all_eq_true.mp h.2 q hq) hc

theorem isValidChar_target {r : CaseShift} (hr : r ∈ lowerShifts) {n : Nat} (hc : r.covers n = true) :
    (n + r.shift).toNat.isValidChar := by
  have h := List.all_eq_true.mp lowerShifts_avoid r hr
  rw [Bool.and_eq_true] at h
  exact CaseShift.isValidChar_of_isSound h.1 hc

/-! ### Characters -/

theorem toNat_ofNat_of_isValidChar {n : Nat} (h : n.isValidChar) : (Char.ofNat n).toNat = n := by
  rw [Char.ofNat, dif_pos h]
  rfl

/-- The lower-case form of a character is the character itself, or one that no stretch takes further. -/
theorem lowerChar_eq_or (c : Char) : lowerChar c = c ∨
    ∀ q ∈ lowerShifts ++ (exceptions ++ blanks), q.covers (lowerChar c).toNat = false := by
  rcases @shiftedCode_eq_or c.toNat lowerShifts with h | ⟨r, hr, hc, h⟩
  · left
    rw [lowerChar, h, Char.ofNat_toNat]
  · right
    intro q hq
    rw [lowerChar, h, toNat_ofNat_of_isValidChar (isValidChar_target hr hc)]
    exact covers_target hr hc hq

/-- Lower case leaves the character as it is, wherever it stands. -/
structure IsLower (c : Char) : Prop where
  fixed : lowerChar c = c
  ne_sigma : c ≠ capitalSigma
  ne_dotted : c ≠ dottedCapitalI

theorem isLower_lowerChar {c : Char} (hs : c ≠ capitalSigma) (hd : c ≠ dottedCapitalI) : IsLower (lowerChar c) := by
  rcases lowerChar_eq_or c with h | h
  · rw [h]
    exact ⟨h, hs, hd⟩
  · have spared : ∀ q ∈ exceptions, q.covers (lowerChar c).toNat = false := fun q hq =>
      h q (List.mem_append_right _ (List.mem_append_left _ hq))
    refine ⟨?_, fun heq => ?_, fun heq => ?_⟩
    · have : shiftedCode lowerShifts (lowerChar c).toNat = (lowerChar c).toNat :=
        shiftedCode_eq_self fun q hq => h q (List.mem_append_left _ hq)
      rw [lowerChar, this, Char.ofNat_toNat]
    · have := spared ⟨0x3A3, 0x3A3, 1, 0⟩ (by simp [exceptions])
      rw [heq] at this
      exact absurd this (by decide)
    · have := spared ⟨0x130, 0x130, 1, 0⟩ (by simp [exceptions])
      rw [heq] at this
      exact absurd this (by decide)

theorem lowerChar_of_isBlank {c : Char} (h : isBlank c = true) : lowerChar c = c := by
  obtain ⟨q, hq, hc⟩ := isBlank_iff.mp h
  have hall := List.all_eq_true.mp blanks_avoid q hq
  rw [Bool.and_eq_true] at hall
  have hshift : (c.toNat + q.shift).toNat = c.toNat := by
    have : q.shift = 0 := shift_of_mem_blanks q hq
    omega
  have : shiftedCode lowerShifts c.toNat = c.toNat := shiftedCode_eq_self fun r hr => by
    rw [← hshift]
    exact CaseShift.covers_of_avoids hall.1 (List.all_eq_true.mp hall.2 r hr) hc
  rw [lowerChar, this, Char.ofNat_toNat]

theorem isBlank_lowerChar (c : Char) : isBlank (lowerChar c) = isBlank c := by
  rcases lowerChar_eq_or c with h | h
  · rw [h]
  · have hfalse : isBlank (lowerChar c) = false := by
      rw [Bool.eq_false_iff]
      intro hb
      obtain ⟨q, hq, hc⟩ := isBlank_iff.mp hb
      rw [h q (List.mem_append_right _ (List.mem_append_right _ hq))] at hc
      cases hc
    cases hb : isBlank c
    · exact hfalse
    · rw [lowerChar_of_isBlank hb, hb] at hfalse
      cases hfalse

/-! ### Texts -/

theorem isLower_of_mem_lowerInContext {cased : Bool} {c d : Char} {after : List Char}
    (h : d ∈ lowerInContext cased c after) : IsLower d := by
  unfold lowerInContext at h
  split at h
  · obtain rfl := List.mem_singleton.mp h
    split <;> exact ⟨by decide +kernel, by decide, by decide⟩
  · rename_i hs
    split at h
    · rcases List.mem_cons.mp h with rfl | h
      · exact ⟨by decide +kernel, by decide, by decide⟩
      · obtain rfl := List.mem_singleton.mp h
        exact ⟨by decide +kernel, by decide, by decide⟩
    · rename_i hd
      obtain rfl := List.mem_singleton.mp h
      exact isLower_lowerChar hs hd

theorem isLower_of_mem_lowerFrom : ∀ {cased : Bool} {cs : List Char}, ∀ d ∈ lowerFrom cased cs, IsLower d
  | _, [], d, h => by cases h
  | _, _ :: _, d, h => by
    rw [lowerFrom] at h
    rcases List.mem_append.mp h with h | h
    · exact isLower_of_mem_lowerInContext h
    · exact isLower_of_mem_lowerFrom d h

theorem lowerFrom_eq_self : ∀ {cased : Bool} {cs : List Char}, (∀ c ∈ cs, IsLower c) → lowerFrom cased cs = cs
  | _, [], _ => rfl
  | cased, c :: cs, h => by
    obtain ⟨hfixed, hs, hd⟩ := h c List.mem_cons_self
    have hc : lowerInContext cased c cs = [c] := by
      rw [lowerInContext, if_neg hs, if_neg hd, hfixed]
    rw [lowerFrom, hc, lowerFrom_eq_self fun d hd' => h d (List.mem_cons_of_mem c hd')]
    rfl

theorem isLower_of_mem_lowerChars {cs : List Char} : ∀ d ∈ lowerChars cs, IsLower d :=
  isLower_of_mem_lowerFrom

theorem lowerChars_eq_self {cs : List Char} (h : ∀ c ∈ cs, IsLower c) : lowerChars cs = cs :=
  lowerFrom_eq_self h

/-- Lower case twice is lower case once. -/
theorem lowerChars_lowerChars (cs : List Char) : lowerChars (lowerChars cs) = lowerChars cs :=
  lowerChars_eq_self isLower_of_mem_lowerChars

theorem isBlank_of_mem_lowerInContext {cased : Bool} {c d : Char} {after : List Char}
    (h : d ∈ lowerInContext cased c after) : isBlank d = isBlank c := by
  unfold lowerInContext at h
  split at h
  · rename_i hs
    obtain rfl := List.mem_singleton.mp h
    rw [hs]
    split <;> rfl
  · split at h
    · rename_i hd
      rw [hd]
      rcases List.mem_cons.mp h with rfl | h
      · rfl
      · obtain rfl := List.mem_singleton.mp h
        rfl
    · obtain rfl := List.mem_singleton.mp h
      exact isBlank_lowerChar c

theorem lowerInContext_ne_nil {cased : Bool} {c : Char} {after : List Char} : lowerInContext cased c after ≠ [] := by
  unfold lowerInContext
  split
  · exact List.cons_ne_nil _ _
  · split <;> exact List.cons_ne_nil _ _

theorem isBlank_of_mem_lowerFrom : ∀ {cased : Bool} {cs : List Char}, (∀ c ∈ cs, isBlank c = false) →
    ∀ d ∈ lowerFrom cased cs, isBlank d = false
  | _, [], _, d, hd => by cases hd
  | cased, c :: cs, h, d, hd => by
    obtain ⟨hc, hcs⟩ := List.forall_mem_cons.mp h
    rw [lowerFrom] at hd
    rcases List.mem_append.mp hd with hd | hd
    · exact (isBlank_of_mem_lowerInContext hd).trans hc
    · exact isBlank_of_mem_lowerFrom hcs d hd

theorem lowerChars_ne_nil {cs : List Char} (h : cs ≠ []) : lowerChars cs ≠ [] := by
  obtain ⟨c, cs, rfl⟩ := List.exists_cons_of_ne_nil h
  rw [lowerChars, lowerFrom]
  exact List.append_ne_nil_of_left_ne_nil lowerInContext_ne_nil _

theorem lower_eq_empty_iff {s : String} : lower s = "" ↔ s = "" := by
  rw [lower, String.ofList_eq_empty_iff]
  constructor
  · intro h
    rw [← String.toList_eq_nil_iff]
    exact Decidable.byContradiction fun hne => lowerChars_ne_nil hne h
  · rintro rfl
    rfl

/-- Each dotted capital I becomes two characters, and every other character becomes one. -/
theorem length_lowerFrom : ∀ {cased : Bool} {cs : List Char},
    (lowerFrom cased cs).length = cs.length + cs.count dottedCapitalI
  | _, [] => rfl
  | cased, c :: cs => by
    have hc : (lowerInContext cased c cs).length = 1 + if c == dottedCapitalI then 1 else 0 := by
      unfold lowerInContext
      split
      · rename_i hs
        rw [hs]
        rfl
      · split
        · rename_i hd
          rw [hd]
          rfl
        · rename_i hd
          rw [beq_eq_false_iff_ne.mpr hd]
          rfl
    rw [lowerFrom, List.length_append, hc, length_lowerFrom, List.length_cons, List.count_cons]
    omega

theorem length_lower (s : String) : (lower s).length = s.length + s.toList.count dottedCapitalI := by
  rw [← String.length_toList, lower, String.toList_ofList, lowerChars, length_lowerFrom, String.length_toList]

theorem lower_lower (s : String) : lower (lower s) = lower s := by
  rw [lower, lower, String.toList_ofList, lowerChars_lowerChars]

/-- Lower case neither makes nor removes blanks. -/
theorem all_isBlank_lowerFrom : ∀ {cased : Bool} {cs : List Char},
    (lowerFrom cased cs).all isBlank = cs.all isBlank
  | _, [] => rfl
  | cased, c :: cs => by
    have hc : (lowerInContext cased c cs).all isBlank = isBlank c := by
      rw [Bool.eq_iff_iff, List.all_eq_true]
      constructor
      · intro h
        obtain ⟨d, hd⟩ := List.exists_mem_of_ne_nil _ (@lowerInContext_ne_nil cased c cs)
        rw [← isBlank_of_mem_lowerInContext hd]
        exact h d hd
      · intro h d hd
        rw [isBlank_of_mem_lowerInContext hd]
        exact h
    rw [lowerFrom, List.all_append, hc, all_isBlank_lowerFrom, List.all_cons]

/-! ### Parts of texts -/

theorem occursIn_iff {part whole : List Char} : occursIn part whole = true ↔ part <:+: whole := by
  induction whole with
  | nil => simp [occursIn]
  | cons c cs ih =>
    rw [occursIn, Bool.or_eq_true, ih, List.isPrefixOf_iff_prefix, List.infix_cons_iff]

end CodeAtlas.Text
