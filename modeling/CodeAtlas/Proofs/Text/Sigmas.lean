import CodeAtlas.Proofs.Text.Pieces

/-! The lower case of a stretch where it stands. All characters but the capital sigma have one lower case wherever they
    are. So a stretch has in the whole text the lower case that it has alone exactly if each of its sigmas ends a word
    in the whole where it does so in the stretch. -/

namespace CodeAtlas.Text

variable {alone within : Bool} {before part after : List Char}

/-- The lower case of a stretch that is followed by `after`. -/
def lowerWithin (cased : Bool) (after : List Char) : List Char → List Char
  | [] => []
  | c :: cs => lowerInContext cased c (cs ++ after) ++ lowerWithin (casedAfter cased c) after cs

theorem lowerFrom_eq_within (after : List Char) : ∀ (cased : Bool) (part : List Char), lowerFrom cased (part ++ after) =
    lowerWithin cased after part ++ lowerFrom (part.foldl casedAfter cased) after
  | _, [] => rfl
  | cased, c :: cs => by
    rw [List.cons_append, lowerFrom, lowerFrom_eq_within after _ cs, lowerWithin, List.append_assoc, List.foldl_cons]

/-- Where the stretch stands, the whole text has the lower case of it. -/
theorem lowerWithin_within (before part after : List Char) :
    lowerWithin (before.foldl casedAfter false) after part <:+: lowerChars (before ++ (part ++ after)) := by
  have hend := @lowerFrom_suffix (part ++ after) false before
  rw [lowerFrom_eq_within] at hend
  exact (List.prefix_append _ _).isInfix.trans hend.isInfix

/-! ### Sigmas -/

theorem length_lowerInContext (alone within : Bool) (c : Char) (cs ds : List Char) :
    (lowerInContext alone c cs).length = (lowerInContext within c ds).length := by
  unfold lowerInContext
  split
  · rfl
  · split <;> rfl

theorem lowerInContext_eq_iff {c : Char} {cs ds : List Char} : lowerInContext alone c cs = lowerInContext within c ds ↔
    (c = capitalSigma → (alone && !startsCased cs) = (within && !startsCased ds)) := by
  unfold lowerInContext
  by_cases hc : c = capitalSigma
  · rw [if_pos hc, if_pos hc]
    simp only [hc, true_imp_iff]
    cases (alone && !startsCased cs) <;> cases (within && !startsCased ds) <;> decide
  · rw [if_neg hc, if_neg hc]
    exact iff_of_true rfl fun h => absurd h hc

/-- A sigma between two texts ends a word. -/
def endsWord (before after : List Char) : Bool := before.foldl casedAfter false && !startsCased after

/-- Each sigma of the stretch ends a word in the whole text exactly if it ends one in the stretch alone. -/
def SigmasAgree (before part after : List Char) : Prop :=
  ∀ p q, part = p ++ capitalSigma :: q → endsWord p q = endsWord (before ++ p) (q ++ after)

theorem lowerFrom_eq_lowerWithin_iff (after : List Char) : ∀ (alone within : Bool) (part : List Char),
    lowerFrom alone part = lowerWithin within after part ↔ ∀ p q, part = p ++ capitalSigma :: q →
      (p.foldl casedAfter alone && !startsCased q) = (p.foldl casedAfter within && !startsCased (q ++ after))
  | _, _, [] => by simp [lowerFrom, lowerWithin]
  | alone, within, c :: cs => by
    have hrest := lowerFrom_eq_lowerWithin_iff after (casedAfter alone c) (casedAfter within c) cs
    rw [lowerFrom, lowerWithin]
    constructor
    · intro heq p q hpq
      obtain ⟨hfirst, hcs⟩ := List.append_inj heq (length_lowerInContext _ _ _ _ _)
      cases p with
      | nil =>
        obtain ⟨rfl, rfl⟩ := List.cons.inj hpq
        exact lowerInContext_eq_iff.mp hfirst rfl
      | cons d p =>
        obtain ⟨rfl, rfl⟩ := List.cons.inj hpq
        exact hrest.mp hcs p q rfl
    · intro hsigmas
      have hfirst : lowerInContext alone c cs = lowerInContext within c (cs ++ after) :=
        lowerInContext_eq_iff.mpr fun hc => hsigmas [] cs (by rw [hc]; rfl)
      rw [hfirst, hrest.mpr fun p q hpq => hsigmas (c :: p) q (by rw [hpq]; rfl)]

/-- Just where its sigmas agree a stretch has the same lower case in the whole text as alone. -/
theorem lowerChars_eq_lowerWithin_iff :
    lowerChars part = lowerWithin (before.foldl casedAfter false) after part ↔ SigmasAgree before part after := by
  rw [lowerChars, lowerFrom_eq_lowerWithin_iff]
  simp only [SigmasAgree, endsWord, List.foldl_append]

theorem SigmasAgree.lowerChars_within (h : SigmasAgree before part after) :
    lowerChars part <:+: lowerChars (before ++ (part ++ after)) := by
  rw [lowerChars_eq_lowerWithin_iff.mpr h]
  exact lowerWithin_within before part after

theorem sigmasAgree_of_not_mem (h : capitalSigma ∉ part) (before after : List Char) : SigmasAgree before part after := by
  rintro p q rfl
  exact absurd (List.mem_append_right p List.mem_cons_self) h

/-- The sigmas of a stretch between borders do not see the rest of the text. -/
theorem sigmasAgree_of_borders (hbefore : ∀ c ∈ before.getLast?, IsBorder c) (hafter : ∀ c ∈ after.head?, IsBorder c)
    (part : List Char) : SigmasAgree before part after := by
  intro p q _
  rw [endsWord, endsWord, List.foldl_append, foldl_casedAfter hbefore, startsCased_append hafter]

/-- Alone the sigma ends a word, and before a letter it does not. -/
example : ¬SigmasAgree [] "ΑΣ".toList "Α".toList := fun h => by
  have := h ['Α'] [] rfl
  revert this
  decide +kernel

end CodeAtlas.Text
