import CodeAtlas.Proofs.Text.Blank
import CodeAtlas.Proofs.Text.Lower

/-! Lower case piece by piece. In general the lower case of a text is not put together from that of its parts, since a
    sigma looks at what surrounds it. It is where commas or blanks stand between the parts: there its view ends. -/

namespace CodeAtlas.Text

/-! ### Borders -/

/-- A character that a sigma neither looks past nor takes for a letter. -/
structure IsBorder (c : Char) : Prop where
  not_ignorable : isCaseIgnorable c = false
  not_cased : isCased c = false

theorem isBorder_comma : IsBorder ',' := ⟨by decide +kernel, by decide +kernel⟩

/-- The codes of all blanks, one by one. -/
def blankCodes : List Nat := blanks.flatMap fun q => List.range' q.first (q.last + 1 - q.first)

theorem blankCodes_uncovered : ∀ n ∈ blankCodes,
    CharSet.covers caseIgnorableSet.ranges n = false ∧ CharSet.covers casedSet.ranges n = false := by
  decide +kernel

theorem toNat_mem_blankCodes {c : Char} (h : isBlank c = true) : c.toNat ∈ blankCodes := by
  obtain ⟨q, hq, hc⟩ := isBlank_iff.mp h
  obtain ⟨hfirst, hlast, -⟩ := CaseShift.covers_iff.mp hc
  refine List.mem_flatMap.mpr ⟨q, hq, ?_⟩
  simp only [List.mem_range'_1]
  omega

theorem isBorder_of_isBlank {c : Char} (h : isBlank c = true) : IsBorder c := by
  obtain ⟨hignorable, hcased⟩ := blankCodes_uncovered _ (toNat_mem_blankCodes h)
  exact ⟨hignorable, hcased⟩

variable {p : Char → Bool} {piece whole before after : List Char}

/-! ### Pieces -/

/-- A stretch of a text that reaches, on either side, up to a character that satisfies `p` or to the end. -/
def IsPiece (p : Char → Bool) (piece whole : List Char) : Prop :=
  ∃ before after, whole = before ++ (piece ++ after) ∧ (∀ c ∈ before.getLast?, p c = true) ∧
    ∀ c ∈ after.head?, p c = true

theorem IsPiece.within (h : IsPiece p piece whole) : piece <:+: whole := by
  obtain ⟨before, after, rfl, -, -⟩ := h
  exact ⟨before, after, List.append_assoc _ _ _⟩

/-- A text is its own only part, or its first part ends where the rest of the parts begins. -/
theorem splitWhere_cases (p : Char → Bool) : ∀ cs : List Char, splitWhere p cs = [cs] ∨
    ∃ part c rest, cs = part ++ c :: rest ∧ p c = true ∧ splitWhere p cs = part :: splitWhere p rest
  | [] => Or.inl rfl
  | c :: cs => by
    cases hc : p c with
    | true => exact Or.inr ⟨[], c, cs, rfl, hc, splitWhere_cons_of hc⟩
    | false =>
      obtain ⟨first, parts, hs, hcons⟩ := @splitWhere_cons_of_not p c cs hc
      rcases splitWhere_cases p cs with hself | ⟨part, d, rest, rfl, hd, hsplit⟩
      · simp only [hself, List.cons.injEq] at hs
        obtain ⟨rfl, rfl⟩ := hs
        exact Or.inl hcons
      · simp only [hsplit, List.cons.injEq] at hs
        obtain ⟨rfl, rfl⟩ := hs
        exact Or.inr ⟨c :: part, d, rest, rfl, hd, hcons⟩

theorem isPiece_of_mem_splitWhere (p : Char → Bool) (cs : List Char) (h : piece ∈ splitWhere p cs) :
    IsPiece p piece cs := by
  rcases splitWhere_cases p cs with hself | ⟨part, c, rest, hcs, hc, hsplit⟩
  · rw [hself, List.mem_singleton] at h
    exact ⟨[], [], by simp [h], by simp, by simp⟩
  · rw [hsplit, List.mem_cons] at h
    rcases h with rfl | h
    · exact ⟨[], c :: rest, hcs, by simp, by simpa using hc⟩
    · have hlt : rest.length < cs.length := by
        simp only [hcs, List.length_append, List.length_cons]
        omega
      obtain ⟨before, after, hrest, hbefore, hafter⟩ := isPiece_of_mem_splitWhere p rest h
      refine ⟨part ++ c :: before, after, by simp [hcs, hrest], fun d hd => ?_, hafter⟩
      -- The last character before the piece is one of the rest, or it is the one that parts the text.
      cases hlast : before.getLast? with
      | none =>
        have : c = d := by simpa [List.getLast?_append, List.getLast?_cons, hlast] using hd
        exact this ▸ hc
      | some e =>
        have : e = d := by simpa [List.getLast?_append, List.getLast?_cons, hlast] using hd
        exact hbefore d (by rw [hlast, this]; rfl)
termination_by cs.length

theorem isPiece_trimChars (cs : List Char) : IsPiece isBlank (trimChars cs) cs := by
  refine ⟨cs.takeWhile isBlank, (cs.dropWhile isBlank).rtakeWhile isBlank, ?_, fun c hc => ?_, fun c hc => ?_⟩
  · rw [trimChars_eq, List.rdropWhile_append_rtakeWhile, List.takeWhile_append_dropWhile]
  · exact List.mem_takeWhile_imp (List.mem_of_getLast? hc)
  · exact List.mem_rtakeWhile_imp (List.mem_of_head? hc)

/-! ### Lower case -/

theorem startsCased_append (h : ∀ c ∈ after.head?, IsBorder c) :
    ∀ cs : List Char, startsCased (cs ++ after) = startsCased cs
  | [] => by
    cases after with
    | nil => rfl
    | cons c rest =>
      have hc := h c rfl
      simp [startsCased, hc.not_ignorable, hc.not_cased]
  | c :: cs => by rw [List.cons_append, startsCased, startsCased, startsCased_append h cs]

/-- What stands behind a piece does not change its lower case. -/
theorem lowerFrom_append (h : ∀ c ∈ after.head?, IsBorder c) : ∀ {cased : Bool} (cs : List Char),
    lowerFrom cased (cs ++ after) = lowerFrom cased cs ++ lowerFrom (cs.foldl casedAfter cased) after
  | cased, [] => rfl
  | cased, c :: cs => by
    have hc : lowerInContext cased c (cs ++ after) = lowerInContext cased c cs := by
      simp only [lowerInContext, startsCased_append h cs]
    rw [List.cons_append, lowerFrom, lowerFrom, hc, lowerFrom_append h cs, List.append_assoc, List.foldl_cons]

/-- The lower case of a text ends with that of its end, read from where the text before has left off. -/
theorem lowerFrom_suffix (rest : List Char) : ∀ {cased : Bool} (before : List Char),
    lowerFrom (before.foldl casedAfter cased) rest <:+ lowerFrom cased (before ++ rest)
  | _, [] => List.suffix_refl _
  | cased, c :: before => by
    rw [List.cons_append, lowerFrom, List.foldl_cons]
    exact (lowerFrom_suffix rest before).trans (List.suffix_append _ _)

/-- Behind a border nothing is known of the text before. -/
theorem foldl_casedAfter (h : ∀ c ∈ before.getLast?, IsBorder c) : before.foldl casedAfter false = false := by
  induction before using List.reverseRecOn with
  | nil => rfl
  | append_singleton before c ih =>
    have hc : IsBorder c := h c (by simp)
    simp [List.foldl_append, casedAfter, hc.not_ignorable, hc.not_cased]

/-- The lower case of a piece stands in that of the whole. -/
theorem IsPiece.lowerChars_within (h : IsPiece p piece whole) (hp : ∀ c, p c = true → IsBorder c) :
    lowerChars piece <:+: lowerChars whole := by
  obtain ⟨before, after, rfl, hbefore, hafter⟩ := h
  have hend : lowerFrom false (piece ++ after) <:+ lowerChars (before ++ (piece ++ after)) := by
    have := @lowerFrom_suffix (piece ++ after) false before
    rwa [foldl_casedAfter fun c hc => hp c (hbefore c hc)] at this
  rw [lowerFrom_append fun c hc => hp c (hafter c hc)] at hend
  exact (List.prefix_append _ _).isInfix.trans hend.isInfix

/-- Also once blanks beside it have been taken away, a part between commas has its lower case in that of the whole. -/
theorem lowerChars_trim_within {part s : String} (h : part ∈ commaParts s) :
    lowerChars (trim part).toList <:+: lowerChars s.toList := by
  obtain ⟨cs, hcs, rfl⟩ := List.mem_map.mp h
  rw [trim, String.toList_ofList, String.toList_ofList]
  have htrim := (isPiece_trimChars cs).lowerChars_within fun c hc => isBorder_of_isBlank hc
  have hpart := (isPiece_of_mem_splitWhere _ _ hcs).lowerChars_within fun c hc => by
    rw [beq_iff_eq.mp hc]
    exact isBorder_comma
  exact htrim.trans hpart

/-- A sigma ends its word before a comma, and not before a letter. -/
example : lowerChars "ΑΣ, ΑΣΑ".toList = "ας, ασα".toList := by decide +kernel

theorem words_within {s word : String} (h : word ∈ words s) : word.toList <:+: s.toList :=
  (isPiece_of_mem_splitWhere isBlank _ (List.mem_filter.mp (mem_words.mp h)).1).within

end CodeAtlas.Text
