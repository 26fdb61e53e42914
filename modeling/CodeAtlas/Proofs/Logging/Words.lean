import CodeAtlas.Logging
import CodeAtlas.Text.Punycode
import Mathlib.Data.List.Nodup

/-! Words for levels. A word asks for the standard level that it names in whatever letter case, or for that of information
    if it names none. Two words name constants that stand among the levels without being one; these alone are refused. -/

namespace CodeAtlas

namespace Text

open Punycode (isPlain)

/-- A way to put characters in capitals that agrees with `capitals` wherever plain letters come of it. -/
structure IsUpperCase (upper : Char → List Char) : Prop where
  plain : ∀ c, (upper c).all isPlain → upper c = capitals c
  other : ∀ c, (capitals c).all isPlain → (upper c).all isPlain

theorem isUpperCase_capitals : IsUpperCase capitals where
  plain _ _ := rfl
  other _ h := h

namespace IsUpperCase

variable {upper : Char → List Char} {word text : String}

/-- A plain text comes of the same words, whatever becomes of the characters that have no plain capitals. -/
theorem capitalized_eq_iff (h : IsUpperCase upper) (htext : text.toList.all isPlain) :
    capitalized word = text ↔ String.ofList (word.toList.flatMap upper) = text := by
  have hplain (f : Char → List Char) (hf : String.ofList (word.toList.flatMap f) = text) :
      ∀ c ∈ word.toList, (f c).all isPlain := by
    intro c hc
    rw [List.all_eq_true] at htext ⊢
    intro d hd
    refine htext d ?_
    rw [← hf, String.toList_ofList]
    exact List.mem_flatMap.mpr ⟨c, hc, hd⟩
  have hsame (hall : ∀ c ∈ word.toList, (upper c).all isPlain) :
      String.ofList (word.toList.flatMap upper) = capitalized word :=
    congrArg String.ofList (List.flatMap_congr fun c hc => h.plain c (hall c hc))
  constructor
  · intro hword
    rw [hsame fun c hc => h.other c (hplain capitals hword c hc), hword]
  · intro hword
    rw [← hsame (hplain upper hword), hword]

/-- What only holds of plain texts can be asked of a word in either kind of capitals. -/
theorem capitalized_iff (h : IsUpperCase upper) {p : String → Prop} (hp : ∀ text, p text → text.toList.all isPlain) :
    p (capitalized word) ↔ p (String.ofList (word.toList.flatMap upper)) := by
  constructor
  · intro hword
    rwa [(h.capitalized_eq_iff (hp _ hword)).mp rfl]
  · intro hword
    rwa [(h.capitalized_eq_iff (hp _ hword)).mpr rfl]

end IsUpperCase

end Text

namespace Logging

/-- The standard levels by name. Two of them have an older name besides, and 0 stands for no level at all. -/
inductive StandardLevel : String → Nat → Prop
  | level (l : Level) : StandardLevel l.name l.rank
  | warn : StandardLevel "WARN" Level.warning.rank
  | fatal : StandardLevel "FATAL" Level.critical.rank
  | unset : StandardLevel "NOTSET" 0

/-- The constants that stand among the names of levels, each with the failure to take it for a level. -/
inductive NoLevel : String → Failure → Prop
  | format : NoLevel "BASIC_FORMAT" (.raised .valueError ("Unknown level: " ++ Text.quoted plainFormat))
  | styles : NoLevel "_STYLES" (.raised .typeError ("Level not an integer or a valid string: " ++ stylesText))

/-- The level that a word asks for: the one that it names, or that of information if it names none. -/
def AsksFor (word : String) (rank : Nat) : Prop :=
  StandardLevel (Text.capitalized word) rank ∨
    (∀ other, ¬StandardLevel (Text.capitalized word) other) ∧ rank = Level.info.rank

def IsRefused (word : String) (f : Failure) : Prop := NoLevel (Text.capitalized word) f

/-- A word that names a level, or nothing that is looked up in its place. -/
def IsTaken (word : String) : Prop := ∀ f, ¬IsRefused word f

variable {word : String} {rank : Nat} {f : Failure}

/-- It does not matter how the characters without plain capitals are put in capitals. -/
theorem levels_of_upperCase {upper : Char → List Char} (h : Text.IsUpperCase upper) (word : String) :
    let name := String.ofList (word.toList.flatMap upper)
    (∀ rank, AsksFor word rank ↔
      StandardLevel name rank ∨ (∀ other, ¬StandardLevel name other) ∧ rank = Level.info.rank) ∧
    ∀ f, IsRefused word f ↔ NoLevel name f := by
  intro name
  have hlevel : ∀ rank, StandardLevel (Text.capitalized word) rank ↔ StandardLevel name rank := by
    refine fun rank => h.capitalized_iff (p := (StandardLevel · rank)) fun text htext => ?_
    cases htext with
    | level l => cases l <;> rfl
    | warn | fatal | unset => rfl
  refine ⟨fun rank => by simp only [AsksFor, hlevel], fun f => h.capitalized_iff (p := (NoLevel · f)) fun text htext => ?_⟩
  cases htext with
  | format | styles => rfl

theorem isTaken_iff : IsTaken word ↔ Text.capitalized word ∉ ["BASIC_FORMAT", "_STYLES"] := by
  constructor
  · intro h hmem
    rcases List.mem_pair.mp hmem with hformat | hstyles
    · exact h _ (show NoLevel _ _ from hformat ▸ NoLevel.format)
    · exact h _ (show NoLevel _ _ from hstyles ▸ NoLevel.styles)
  · intro h f hrefused
    unfold IsRefused at hrefused
    generalize Text.capitalized word = name at h hrefused
    cases hrefused with
    | format => exact h List.mem_cons_self
    | styles => exact h (List.mem_cons_of_mem _ List.mem_cons_self)

instance (word : String) : Decidable (IsTaken word) := decidable_of_iff' _ isTaken_iff

/-! ### Looking a word up -/

theorem names_cases : ∀ n ∈ names, (∃ rank, StandardLevel n.1 rank) ∨ ∃ f, NoLevel n.1 f := by
  simp only [names, List.forall_mem_cons]
  exact ⟨.inl ⟨_, .unset⟩, .inl ⟨_, .level .debug⟩, .inl ⟨_, .level .info⟩, .inl ⟨_, .warn⟩, .inl ⟨_, .level .warning⟩,
    .inl ⟨_, .level .error⟩, .inl ⟨_, .level .critical⟩, .inl ⟨_, .fatal⟩, .inr ⟨_, .format⟩, .inr ⟨_, .styles⟩,
    List.forall_mem_nil _⟩

theorem levelOf_of_standardLevel (h : StandardLevel (Text.capitalized word) rank) : levelOf word = .ok rank := by
  -- the cases are those of the name, whatever word it comes of
  generalize hname : Text.capitalized word = name at h
  rw [levelOf, hname]
  cases h with
  | level l => cases l <;> rfl
  | warn | fatal | unset => rfl

theorem levelOf_of_isRefused (h : IsRefused word f) : levelOf word = .error f := by
  unfold IsRefused at h
  generalize hname : Text.capitalized word = name at h
  rw [levelOf, hname]
  cases h with
  | format | styles => rfl

/-- Every entry of the table is a level or one of the two constants, so that there is none for such a word. -/
theorem levelOf_of_nameless (h : IsTaken word) (hnone : ∀ rank, ¬StandardLevel (Text.capitalized word) rank) :
    levelOf word = .ok Level.info.rank := by
  have hmissing : ∀ n ∈ names, ¬(n.1 == Text.capitalized word) = true := by
    intro n hn heq
    have hname : n.1 = Text.capitalized word := eq_of_beq heq
    rcases names_cases n hn with ⟨rank, hlevel⟩ | ⟨f, hrefused⟩
    · exact hnone rank (hname ▸ hlevel)
    · exact h f (show NoLevel _ _ from hname ▸ hrefused)
  rw [levelOf, List.find?_eq_none.mpr hmissing]
  rfl

theorem levelOf_eq_ok_iff : levelOf word = .ok rank ↔ IsTaken word ∧ AsksFor word rank := by
  constructor
  · intro h
    have htaken : IsTaken word := fun f hrefused => by
      rw [levelOf_of_isRefused hrefused] at h
      cases h
    refine ⟨htaken, ?_⟩
    by_cases hnone : ∀ other, ¬StandardLevel (Text.capitalized word) other
    · rw [levelOf_of_nameless htaken hnone] at h
      exact .inr ⟨hnone, (Except.ok.inj h).symm⟩
    · obtain ⟨other, hother⟩ := not_forall_not.mp hnone
      rw [levelOf_of_standardLevel hother] at h
      exact .inl (Except.ok.inj h ▸ hother)
  · rintro ⟨htaken, hlevel | ⟨hnone, rfl⟩⟩
    · exact levelOf_of_standardLevel hlevel
    · exact levelOf_of_nameless htaken hnone

theorem exists_asksFor (word : String) : ∃ rank, AsksFor word rank := by
  by_cases hnone : ∀ other, ¬StandardLevel (Text.capitalized word) other
  · exact ⟨_, .inr ⟨hnone, rfl⟩⟩
  · obtain ⟨other, hother⟩ := not_forall_not.mp hnone
    exact ⟨other, .inl hother⟩

theorem IsTaken.exists_level (h : IsTaken word) : ∃ rank, levelOf word = .ok rank ∧ AsksFor word rank := by
  obtain ⟨rank, hasks⟩ := exists_asksFor word
  exact ⟨rank, levelOf_eq_ok_iff.mpr ⟨h, hasks⟩, hasks⟩

/-- A word that is refused names no level, and so asks for that of information. -/
theorem asksFor_of_isRefused (h : IsRefused word f) : AsksFor word Level.info.rank := by
  refine .inr ⟨fun rank hlevel => ?_, rfl⟩
  have hok := levelOf_of_standardLevel hlevel
  rw [levelOf_of_isRefused h] at hok
  cases hok

end Logging

end CodeAtlas
