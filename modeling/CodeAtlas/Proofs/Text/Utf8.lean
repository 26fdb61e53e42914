import CodeAtlas.Text.Utf8
import Mathlib

/-! Strict reading undoes writing, and accepts nothing else. A character that takes more than one octet is begun by an
    octet that says how many are to come, and completed by these; the bounds of the second octet leave out just what no
    character is written as. In what was read the line ends are unified, for which there is one way only. -/

namespace CodeAtlas.Text

namespace Utf8

variable {b : UInt8} {p : Pending} {at_ n : Nat} {c : Char} {read cs : List Char} {tail bytes : List UInt8}

/-! ### Characters under way -/

/-- The octet may come next. -/
def Pending.Allows (p : Pending) (b : UInt8) : Prop := p.low ≤ b.toNat ∧ b.toNat ≤ p.high

/-- The bits of a character after one more octet. -/
def Pending.bitsWith (p : Pending) (b : UInt8) : Nat := p.bits * 64 + (b.toNat - 0x80)

/-- A character under way after an octet that is not its last one. -/
def Pending.after (p : Pending) (b : UInt8) : Pending := ⟨p.lead, p.bitsWith b, p.seen + 1, p.left - 1, 0x80, 0xBF⟩

/-- The octets complete a character under way, whose number is then known. -/
inductive Completes : Pending → List UInt8 → Nat → Prop
  | last {p : Pending} {b : UInt8} : p.Allows b → p.left = 1 → Completes p [b] (p.bitsWith b)
  | next {p : Pending} {b : UInt8} {tail : List UInt8} {n : Nat} : p.Allows b → p.left ≠ 1 →
      Completes (p.after b) tail n → Completes p (b :: tail) n

theorem decodeFrom_some_cons (at_ : Nat) (read : List Char) (p : Pending) (b : UInt8) (bytes : List UInt8)
    (h : p.Allows b) : decodeFrom at_ read (some p) (b :: bytes) =
      if p.left = 1 then decodeFrom (at_ + 1) (Char.ofNat (p.bitsWith b) :: read) none bytes
      else decodeFrom (at_ + 1) read (some (p.after b)) bytes := by
  rw [decodeFrom, if_pos (by simpa [Pending.Allows] using h)]
  rfl

/-- A character under way can be read to its end where octets follow that complete it. -/
theorem decodeFrom_some_eq_ok : decodeFrom at_ read (some p) bytes = .ok cs ↔ ∃ tail rest n, bytes = tail ++ rest ∧
    Completes p tail n ∧ decodeFrom (at_ + tail.length) (Char.ofNat n :: read) none rest = .ok cs := by
  constructor
  · intro h
    induction bytes generalizing at_ p with
    | nil => cases h
    | cons b bytes ih =>
      by_cases hallows : p.Allows b
      · rw [decodeFrom_some_cons _ _ _ _ _ hallows] at h
        split at h
        · rename_i hleft
          exact ⟨[b], bytes, _, rfl, .last hallows hleft, h⟩
        · rename_i hleft
          obtain ⟨tail, rest, n, rfl, hcompletes, hrest⟩ := ih h
          refine ⟨b :: tail, rest, n, rfl, .next hallows hleft hcompletes, ?_⟩
          rwa [List.length_cons, Nat.add_comm tail.length, ← Nat.add_assoc]
      · rw [decodeFrom, if_neg (by simpa [Pending.Allows] using hallows)] at h
        cases h
  · rintro ⟨tail, rest, n, rfl, hcompletes, hrest⟩
    induction hcompletes generalizing at_ with
    | last hallows hleft => rwa [List.singleton_append, decodeFrom_some_cons _ _ _ _ _ hallows, if_pos hleft]
    | next hallows hleft _ ih =>
      rw [List.cons_append, decodeFrom_some_cons _ _ _ _ _ hallows, if_neg hleft]
      refine ih ?_
      rwa [List.length_cons, Nat.add_comm _ 1, ← Nat.add_assoc] at hrest

/-! ### First octets -/

theorem begin?_two (h : 0xC2 ≤ b.toNat) (h' : b.toNat ≤ 0xDF) : begin? b = some ⟨b, b.toNat - 0xC0, 1, 1, 0x80, 0xBF⟩ := by
  simp [begin?, h, h']

theorem begin?_three (h : 0xE0 ≤ b.toNat) (h' : b.toNat ≤ 0xEF) : begin? b =
    some ⟨b, b.toNat - 0xE0, 1, 2, if b.toNat = 0xE0 then 0xA0 else 0x80, if b.toNat = 0xED then 0x9F else 0xBF⟩ := by
  have hlarge : ¬b.toNat ≤ 0xDF := by omega
  by_cases hfirst : b.toNat = 0xE0
  · simp [begin?, hfirst]
  · by_cases hlast : b.toNat = 0xED
    · simp [begin?, hlast]
    · have hsecond : 0xE1 ≤ b.toNat := by omega
      simp [begin?, hlarge, hfirst, hlast, hsecond, h']

theorem begin?_four (h : 0xF0 ≤ b.toNat) (h' : b.toNat ≤ 0xF4) : begin? b =
    some ⟨b, b.toNat - 0xF0, 1, 3, if b.toNat = 0xF0 then 0x90 else 0x80, if b.toNat = 0xF4 then 0x8F else 0xBF⟩ := by
  have hlarge : ¬b.toNat ≤ 0xDF ∧ ¬b.toNat ≤ 0xEF ∧ b.toNat ≠ 0xE0 ∧ b.toNat ≠ 0xED := by omega
  by_cases hfirst : b.toNat = 0xF0
  · simp [begin?, hfirst]
  · by_cases hlast : b.toNat = 0xF4
    · simp [begin?, hlast]
    · have hmid : 0xF1 ≤ b.toNat ∧ b.toNat ≤ 0xF3 := by omega
      simp [begin?, hlarge, hfirst, hlast, hmid]

theorem begin?_cases (h : begin? b = some p) : 0xC2 ≤ b.toNat ∧ b.toNat ≤ 0xDF ∨ 0xE0 ≤ b.toNat ∧ b.toNat ≤ 0xEF ∨
    0xF0 ≤ b.toNat ∧ b.toNat ≤ 0xF4 := by
  by_contra hnone
  have hout : begin? b = none := by
    unfold begin?
    simp only [Bool.and_eq_true, decide_eq_true_eq]
    rw [if_neg (by omega), if_neg (by omega), if_neg (by omega), if_neg (by omega), if_neg (by omega),
      if_neg (by omega), if_neg (by omega)]
  rw [hout] at h
  cases h

/-! ### Characters -/

/-- The octets stand for the character with this number, as few of them as can do. The second octet is bounded where
    less would do, where the number would be one of a surrogate and where it would lie beyond all characters. -/
inductive Spells : List UInt8 → Nat → Prop
  | one {b : UInt8} : b.toNat < 0x80 → Spells [b] b.toNat
  | two {b b₁ : UInt8} : 0xC2 ≤ b.toNat → b.toNat ≤ 0xDF → 0x80 ≤ b₁.toNat → b₁.toNat ≤ 0xBF →
      Spells [b, b₁] ((b.toNat - 0xC0) * 64 + (b₁.toNat - 0x80))
  | three {b b₁ b₂ : UInt8} : 0xE0 ≤ b.toNat → b.toNat ≤ 0xEF → 0x80 ≤ b₁.toNat → b₁.toNat ≤ 0xBF →
    (b.toNat = 0xE0 → 0xA0 ≤ b₁.toNat) → (b.toNat = 0xED → b₁.toNat ≤ 0x9F) → 0x80 ≤ b₂.toNat → b₂.toNat ≤ 0xBF →
      Spells [b, b₁, b₂] (((b.toNat - 0xE0) * 64 + (b₁.toNat - 0x80)) * 64 + (b₂.toNat - 0x80))
  | four {b b₁ b₂ b₃ : UInt8} : 0xF0 ≤ b.toNat → b.toNat ≤ 0xF4 → 0x80 ≤ b₁.toNat → b₁.toNat ≤ 0xBF →
    (b.toNat = 0xF0 → 0x90 ≤ b₁.toNat) → (b.toNat = 0xF4 → b₁.toNat ≤ 0x8F) → 0x80 ≤ b₂.toNat → b₂.toNat ≤ 0xBF →
    0x80 ≤ b₃.toNat → b₃.toNat ≤ 0xBF → Spells [b, b₁, b₂, b₃]
      ((((b.toNat - 0xF0) * 64 + (b₁.toNat - 0x80)) * 64 + (b₂.toNat - 0x80)) * 64 + (b₃.toNat - 0x80))

/-- Where one bound of the second octet depends on the first, both may be taken together. -/
theorem allows_ite_iff {narrow narrow' : Prop} [Decidable narrow] [Decidable narrow'] {lead : UInt8}
    {bits seen left low high : Nat} (hlow : 0x80 ≤ low) (hhigh : high ≤ 0xBF) :
    Pending.Allows ⟨lead, bits, seen, left, if narrow then low else 0x80, if narrow' then high else 0xBF⟩ b ↔
      0x80 ≤ b.toNat ∧ b.toNat ≤ 0xBF ∧ (narrow → low ≤ b.toNat) ∧ (narrow' → b.toNat ≤ high) := by
  unfold Pending.Allows
  dsimp only
  split <;> split <;> simp_all <;> omega

/-- A character of one octet is known at once; any other is begun by its first octet and completed by the others. -/
theorem spells_iff : Spells (b :: tail) n ↔ b.toNat < 0x80 ∧ tail = [] ∧ n = b.toNat ∨
    0x80 ≤ b.toNat ∧ ∃ p, begin? b = some p ∧ Completes p tail n := by
  constructor
  · intro h
    cases h with
    | one h => exact Or.inl ⟨h, rfl, rfl⟩
    | two h h' h₁ h₁' => exact Or.inr ⟨by omega, _, begin?_two h h', .last ⟨h₁, h₁'⟩ rfl⟩
    | three h h' h₁ h₁' hlow hhigh h₂ h₂' =>
      refine Or.inr ⟨by omega, _, begin?_three h h', .next ?_ (by simp) (.last ⟨h₂, h₂'⟩ rfl)⟩
      exact (allows_ite_iff (by decide) (by decide)).mpr ⟨h₁, h₁', hlow, hhigh⟩
    | four h h' h₁ h₁' hlow hhigh h₂ h₂' h₃ h₃' =>
      refine Or.inr ⟨by omega, _, begin?_four h h',
        .next ?_ (by simp) (.next ⟨h₂, h₂'⟩ (by simp [Pending.after]) (.last ⟨h₃, h₃'⟩ rfl))⟩
      exact (allows_ite_iff (by decide) (by decide)).mpr ⟨h₁, h₁', hlow, hhigh⟩
  · rintro (⟨h, rfl, rfl⟩ | ⟨-, p, hbegin, hcompletes⟩)
    · exact .one h
    · rcases begin?_cases hbegin with ⟨h, h'⟩ | ⟨h, h'⟩ | ⟨h, h'⟩
      · obtain rfl := Option.some.inj ((begin?_two h h').symm.trans hbegin)
        obtain ⟨h₁, -⟩ | ⟨-, hleft, -⟩ := hcompletes
        · exact .two h h' h₁.1 h₁.2
        · exact absurd rfl hleft
      · obtain rfl := Option.some.inj ((begin?_three h h').symm.trans hbegin)
        obtain ⟨-, hleft⟩ | ⟨hsecond, -, ⟨h₂, -⟩ | ⟨-, hleft, -⟩⟩ := hcompletes
        · cases hleft
        · obtain ⟨h₁, h₁', hlow, hhigh⟩ := (allows_ite_iff (by decide) (by decide)).mp hsecond
          exact .three h h' h₁ h₁' hlow hhigh h₂.1 h₂.2
        · exact absurd rfl hleft
      · obtain rfl := Option.some.inj ((begin?_four h h').symm.trans hbegin)
        obtain ⟨-, hleft⟩ | ⟨hsecond, -, ⟨-, hleft⟩ | ⟨h₂, -, ⟨h₃, -⟩ | ⟨-, hleft, -⟩⟩⟩ := hcompletes
        · cases hleft
        · cases hleft
        · obtain ⟨h₁, h₁', hlow, hhigh⟩ := (allows_ite_iff (by decide) (by decide)).mp hsecond
          exact .four h h' h₁ h₁' hlow hhigh h₂.1 h₂.2 h₃.1 h₃.2
        · exact absurd rfl hleft

/-! ### Written characters -/

theorem encodeChar_one (h : c.toNat ≤ 0x7F) : String.utf8EncodeChar c = [UInt8.ofNat c.toNat] := if_pos h

theorem encodeChar_two (h : 0x7F < c.toNat) (h' : c.toNat ≤ 0x7FF) : String.utf8EncodeChar c =
    [UInt8.ofNat (c.toNat / 64 % 0x20 + 0xC0), UInt8.ofNat (c.toNat % 0x40 + 0x80)] :=
  (if_neg (Nat.not_le.mpr h)).trans (if_pos h')

theorem encodeChar_three (h : 0x7FF < c.toNat) (h' : c.toNat ≤ 0xFFFF) : String.utf8EncodeChar c =
    [UInt8.ofNat (c.toNat / 4096 % 0x10 + 0xE0), UInt8.ofNat (c.toNat / 64 % 0x40 + 0x80),
      UInt8.ofNat (c.toNat % 0x40 + 0x80)] :=
  (if_neg (Nat.not_le.mpr (show 0x7F < c.toNat by omega))).trans ((if_neg (Nat.not_le.mpr h)).trans (if_pos h'))

theorem encodeChar_four (h : 0xFFFF < c.toNat) : String.utf8EncodeChar c =
    [UInt8.ofNat (c.toNat / 262144 % 0x08 + 0xF0), UInt8.ofNat (c.toNat / 4096 % 0x40 + 0x80),
      UInt8.ofNat (c.toNat / 64 % 0x40 + 0x80), UInt8.ofNat (c.toNat % 0x40 + 0x80)] :=
  (if_neg (Nat.not_le.mpr (show 0x7F < c.toNat by omega))).trans
    ((if_neg (Nat.not_le.mpr (show 0x7FF < c.toNat by omega))).trans (if_neg (Nat.not_le.mpr h)))

theorem toNat_octet {k : Nat} (h : k < 256) : (UInt8.ofNat k).toNat = k := UInt8.toNat_ofNat_of_lt' h

/-- What a character is written as stands for it. -/
theorem spells_encodeChar (c : Char) : Spells (String.utf8EncodeChar c) c.toNat := by
  have hvalid : c.toNat < 0xD800 ∨ 0xDFFF < c.toNat ∧ c.toNat < 0x110000 := c.valid
  have hlast := @toNat_octet (c.toNat % 0x40 + 0x80) (by omega)
  have hthird := @toNat_octet (c.toNat / 64 % 0x40 + 0x80) (by omega)
  have hfourth := @toNat_octet (c.toNat / 4096 % 0x40 + 0x80) (by omega)
  by_cases hone : c.toNat ≤ 0x7F
  · have hlead := @toNat_octet c.toNat (by omega)
    rw [encodeChar_one hone]
    convert Spells.one ?_ using 1 <;> omega
  · by_cases htwo : c.toNat ≤ 0x7FF
    · have hlead := @toNat_octet (c.toNat / 64 % 0x20 + 0xC0) (by omega)
      rw [encodeChar_two (by omega) htwo]
      convert Spells.two ?_ ?_ ?_ ?_ using 1 <;> omega
    · by_cases hthree : c.toNat ≤ 0xFFFF
      · have hlead := @toNat_octet (c.toNat / 4096 % 0x10 + 0xE0) (by omega)
        rw [encodeChar_three (by omega) hthree]
        convert Spells.three ?_ ?_ ?_ ?_ ?_ ?_ ?_ ?_ using 1 <;> omega
      · have hlead := @toNat_octet (c.toNat / 262144 % 0x08 + 0xF0) (by omega)
        rw [encodeChar_four (by omega)]
        convert Spells.four ?_ ?_ ?_ ?_ ?_ ?_ ?_ ?_ ?_ ?_ using 1 <;> omega

theorem octet_eq {k : Nat} (h : k = b.toNat) : UInt8.ofNat k = b := by
  rw [h, UInt8.ofNat_toNat]

/-- Octets that stand for a character are what it is written as. -/
theorem Spells.encode {octets : List UInt8} (h : Spells octets n) :
    (Char.ofNat n).toNat = n ∧ String.utf8EncodeChar (Char.ofNat n) = octets := by
  have hnumber : (Char.ofNat n).toNat = n := by
    have hvalid : n < 0xD800 ∨ 0xDFFF < n ∧ n < 0x110000 := by cases h <;> omega
    rw [Char.toNat_ofNat, if_pos hvalid]
  refine ⟨hnumber, ?_⟩
  generalize Char.ofNat n = c at hnumber ⊢
  cases h with
  | one h => rw [encodeChar_one (by omega), octet_eq hnumber]
  | two h h' h₁ h₁' =>
    rw [encodeChar_two (by omega) (by omega)]
    simp only [List.cons.injEq, and_true]
    exact ⟨octet_eq (by omega), octet_eq (by omega)⟩
  | three h h' h₁ h₁' hlow hhigh h₂ h₂' =>
    rw [encodeChar_three (by omega) (by omega)]
    simp only [List.cons.injEq, and_true]
    exact ⟨octet_eq (by omega), octet_eq (by omega), octet_eq (by omega)⟩
  | four h h' h₁ h₁' hlow hhigh h₂ h₂' h₃ h₃' =>
    rw [encodeChar_four (by omega)]
    simp only [List.cons.injEq, and_true]
    exact ⟨octet_eq (by omega), octet_eq (by omega), octet_eq (by omega), octet_eq (by omega)⟩

/-! ### Whole texts -/

/-- What can be read begins with octets that stand for a character, and what follows them can be read after it. -/
theorem decodeFrom_none_cons : decodeFrom at_ read none (b :: bytes) = .ok cs ↔ ∃ tail rest n, bytes = tail ++ rest ∧
    Spells (b :: tail) n ∧ decodeFrom (at_ + 1 + tail.length) (Char.ofNat n :: read) none rest = .ok cs := by
  rw [decodeFrom]
  by_cases hone : b.toNat < 0x80
  · rw [if_pos hone]
    constructor
    · exact fun h => ⟨[], bytes, _, rfl, .one hone, h⟩
    · rintro ⟨tail, rest, n, rfl, hspells, h⟩
      rcases spells_iff.mp hspells with ⟨-, rfl, rfl⟩ | ⟨hlarge, -⟩
      · exact h
      · omega
  · rw [if_neg hone]
    constructor
    · intro h
      cases hbegin : begin? b with
      | none =>
        rw [hbegin] at h
        cases h
      | some p =>
        rw [hbegin] at h
        obtain ⟨tail, rest, n, rfl, hcompletes, hrest⟩ := decodeFrom_some_eq_ok.mp h
        exact ⟨tail, rest, n, rfl, spells_iff.mpr (Or.inr ⟨by omega, p, hbegin, hcompletes⟩), hrest⟩
    · rintro ⟨tail, rest, n, rfl, hspells, h⟩
      rcases spells_iff.mp hspells with ⟨hsmall, -⟩ | ⟨-, p, hbegin, hcompletes⟩
      · exact absurd hsmall hone
      · rw [hbegin]
        exact decodeFrom_some_eq_ok.mpr ⟨tail, rest, n, rfl, hcompletes, h⟩

theorem encode_cons (c : Char) (cs : List Char) : encode (c :: cs) = String.utf8EncodeChar c ++ encode cs :=
  List.flatMap_cons

/-- A text is read as it was written. -/
theorem decodeFrom_encode (at_ : Nat) (read cs : List Char) :
    decodeFrom at_ read none (encode cs) = .ok (read.reverse ++ cs) := by
  induction cs generalizing at_ read with
  | nil => rw [List.append_nil, encode, List.flatMap_nil, decodeFrom]
  | cons c cs ih =>
    have hspells := spells_encodeChar c
    obtain ⟨b, tail, hchar⟩ := List.exists_cons_of_ne_nil (@String.utf8EncodeChar_ne_nil c)
    rw [encode_cons, hchar, List.cons_append, decodeFrom_none_cons]
    refine ⟨tail, encode cs, c.toNat, rfl, hchar ▸ hspells, ?_⟩
    rw [ih, Char.ofNat_toNat, List.reverse_cons, List.append_assoc, List.singleton_append]

/-- What can be read has been written: the octets are taken character by character, so that fewer are left each time. -/
theorem encode_of_decodeFrom (at_ : Nat) (read : List Char) (bytes : List UInt8)
    (h : decodeFrom at_ read none bytes = .ok cs) : ∃ more, cs = read.reverse ++ more ∧ encode more = bytes := by
  match bytes with
  | [] =>
    rw [decodeFrom] at h
    exact ⟨[], by rw [List.append_nil, Except.ok.inj h], rfl⟩
  | b :: bytes =>
    obtain ⟨tail, rest, n, rfl, hspells, hrest⟩ := decodeFrom_none_cons.mp h
    obtain ⟨more, rfl, rfl⟩ := encode_of_decodeFrom _ _ rest hrest
    refine ⟨Char.ofNat n :: more, ?_, ?_⟩
    · rw [List.reverse_cons, List.append_assoc, List.singleton_append]
    · rw [encode_cons, hspells.encode.2, List.cons_append]
termination_by bytes.length

/-- The octets that can be read are those that some text is written as, and they are read as this text. -/
theorem decode_eq_ok_iff : decode bytes = .ok cs ↔ encode cs = bytes := by
  constructor
  · intro h
    obtain ⟨more, rfl, hmore⟩ := encode_of_decodeFrom 0 [] bytes h
    exact hmore
  · rintro rfl
    exact decodeFrom_encode 0 [] cs

end Utf8

/-! ### Line ends -/

/-- The second text is the first one with its line ends unified: a carriage return is a line feed, and goes together
    with a line feed right after it. -/
inductive UnifiesLineEnds : List Char → List Char → Prop
  | nil : UnifiesLineEnds [] []
  | pair {cs ds : List Char} : UnifiesLineEnds cs ds → UnifiesLineEnds ('\r' :: '\n' :: cs) ('\n' :: ds)
  | alone {cs ds : List Char} : (∀ rest, cs ≠ '\n' :: rest) → UnifiesLineEnds cs ds →
    UnifiesLineEnds ('\r' :: cs) ('\n' :: ds)
  | other {c : Char} {cs ds : List Char} : c ≠ '\r' → UnifiesLineEnds cs ds → UnifiesLineEnds (c :: cs) (c :: ds)

theorem unifyLineEndsOnto_unifies (read cs : List Char) :
    ∃ ds, unifyLineEndsOnto read cs = read.reverse ++ ds ∧ UnifiesLineEnds cs ds := by
  fun_induction unifyLineEndsOnto read cs with
  | case1 read => exact ⟨[], (List.append_nil _).symm, .nil⟩
  | case2 read cs ih =>
    obtain ⟨ds, hds, hunifies⟩ := ih
    exact ⟨'\n' :: ds, by simp [hds], .pair hunifies⟩
  | case3 read cs hnext ih =>
    obtain ⟨ds, hds, hunifies⟩ := ih
    exact ⟨'\n' :: ds, by simp [hds], .alone hnext hunifies⟩
  | case4 read c cs hpair hother ih =>
    obtain ⟨ds, hds, hunifies⟩ := ih
    exact ⟨c :: ds, by simp [hds], .other (fun hc => hother hc) hunifies⟩

/-- There is only one way to unify the line ends of a text. -/
theorem UnifiesLineEnds.unique {cs ds es : List Char} (h : UnifiesLineEnds cs ds) (h' : UnifiesLineEnds cs es) : ds = es := by
  induction h generalizing es with
  | nil => cases h'; rfl
  | pair hrest ih =>
    cases h' with
    | pair h' => rw [ih h']
    | alone hnext => exact absurd rfl (hnext _)
    | other hc => exact absurd rfl hc
  | alone hnext hrest ih =>
    cases h' with
    | pair => exact absurd rfl (hnext _)
    | alone _ h' => rw [ih h']
    | other hc => exact absurd rfl hc
  | other hc hrest ih =>
    cases h' with
    | pair | alone => exact absurd rfl hc
    | other _ h' => rw [ih h']

theorem unifiesLineEnds_iff {cs ds : List Char} : UnifiesLineEnds cs ds ↔ unifyLineEnds cs = ds := by
  obtain ⟨es, hes, hunifies⟩ := unifyLineEndsOnto_unifies [] cs
  obtain rfl : unifyLineEnds cs = es := hes
  exact ⟨fun h => hunifies.unique h, fun h => h ▸ hunifies⟩

end CodeAtlas.Text
