import CodeAtlas.Proofs.Text.Pieces
import CodeAtlas.Text.Token
import Mathlib.Data.List.TakeWhile

/-! The tokens of a text, and their count. Found from left to right and each as long as can be, the tokens are the longest
    stretches of word characters and the marks between these. The count of a text is put together from those of two parts
    of it, but for a word that goes on from the first part to the second. -/

namespace CodeAtlas.Text

/-! ### Word characters and blanks -/

theorem blankCodes_no_word : ∀ n ∈ blankCodes, CharSet.covers wordSet.ranges n = false := by decide +kernel

theorem isWord_of_isBlank {c : Char} (h : isBlank c = true) : isWord c = false :=
  blankCodes_no_word _ (toNat_mem_blankCodes h)

/-- A character that is a token by itself: it is neither part of a word nor blank. -/
def isMark (c : Char) : Bool := !isWord c && !isBlank c

/-! ### Tokens -/

/-- The tokens as they are found from left to right. A word character takes all that follow it along, a blank is passed
    over, and any other character is a token by itself. -/
def tokens : List Char → List (List Char)
  | [] => []
  | c :: cs =>
    if isWord c then (c :: cs.takeWhile isWord) :: tokens (cs.dropWhile isWord)
    else if isBlank c then tokens cs
    else [c] :: tokens cs
termination_by cs => cs.length
decreasing_by
  · exact Nat.lt_succ_of_le (List.length_dropWhile_le _ _)
  · exact Nat.lt_succ_self _
  · exact Nat.lt_succ_self _

/-- The longest stretches of word characters, in order. -/
def wordRuns (cs : List Char) : List (List Char) :=
  (splitWhere (fun c => !isWord c) cs).filter fun run => !run.isEmpty

variable {c : Char} {cs run : List Char}

theorem wordRuns_cons_of_not (hc : isWord c = false) : wordRuns (c :: cs) = wordRuns cs := by
  rw [wordRuns, splitWhere_cons_of (by simp [hc]), List.filter_cons_of_neg (by simp), wordRuns]

theorem wordRuns_cons (hc : isWord c = true) (cs : List Char) :
    wordRuns (c :: cs) = (c :: cs.takeWhile isWord) :: wordRuns (cs.dropWhile isWord) := by
  have hrun : ∀ d ∈ c :: cs.takeWhile isWord, (!isWord d) = false := by
    intro d hd
    rw [Bool.not_eq_false']
    rcases List.mem_cons.mp hd with rfl | hd
    · exact hc
    · exact List.mem_takeWhile_imp hd
  have hcs : c :: cs = (c :: cs.takeWhile isWord) ++ cs.dropWhile isWord := by
    rw [List.cons_append, List.takeWhile_append_dropWhile]
  rw [hcs]
  cases hrest : cs.dropWhile isWord with
  | nil =>
    rw [List.append_nil, wordRuns, splitWhere_of_not hrun]
    rfl
  | cons d rest =>
    -- what is left behind the run begins with no word character, so that the run ends there and `d` adds no run of its own
    have hd : isWord d = false := by
      have := List.head?_dropWhile_not isWord cs
      simpa [hrest] using this
    rw [wordRuns, splitWhere_append_cons hrun (by simp [hd]), List.filter_cons_of_pos (by simp), wordRuns_cons_of_not hd,
      wordRuns]

/-- A token that is a word, and no mark. -/
def isWordToken (token : List Char) : Bool := token.all isWord

theorem isWordToken_takeWhile (hc : isWord c = true) (cs : List Char) : isWordToken (c :: cs.takeWhile isWord) = true := by
  rw [isWordToken, List.all_cons, hc, Bool.true_and, List.all_takeWhile]

/-- The tokens that are words are the longest stretches of word characters. -/
theorem filter_isWordToken (cs : List Char) : (tokens cs).filter isWordToken = wordRuns cs := by
  induction cs using tokens.induct with
  | case1 =>
    rw [tokens]
    rfl
  | case2 c cs hc ih =>
    rw [tokens, if_pos hc, List.filter_cons_of_pos (isWordToken_takeWhile hc cs), ih, wordRuns_cons hc]
  | case3 c cs hc hblank ih => rw [tokens, if_neg hc, if_pos hblank, ih, wordRuns_cons_of_not (Bool.eq_false_iff.mpr hc)]
  | case4 c cs hc hblank ih =>
    have hmark : ¬isWordToken [c] = true := by simpa [isWordToken] using hc
    rw [tokens, if_neg hc, if_neg hblank, List.filter_cons_of_neg hmark, ih,
      wordRuns_cons_of_not (Bool.eq_false_iff.mpr hc)]

theorem filter_isMark_dropWhile (cs : List Char) : (cs.dropWhile isWord).filter isMark = cs.filter isMark := by
  have hnone : (cs.takeWhile isWord).filter isMark = [] := by
    rw [List.filter_eq_nil_iff]
    intro c hc
    simp [isMark, List.mem_takeWhile_imp hc]
  conv_rhs => rw [← List.takeWhile_append_dropWhile (p := isWord) (l := cs)]
  rw [List.filter_append, hnone, List.nil_append]

/-- The other tokens are the marks. -/
theorem filter_not_isWordToken (cs : List Char) :
    (tokens cs).filter (fun token => !isWordToken token) = (cs.filter isMark).map fun c => [c] := by
  induction cs using tokens.induct with
  | case1 =>
    rw [tokens]
    rfl
  | case2 c cs hc ih =>
    rw [tokens, if_pos hc, List.filter_cons_of_neg (by simp [isWordToken_takeWhile hc]), ih, filter_isMark_dropWhile,
      List.filter_cons_of_neg (by simp [isMark, hc])]
  | case3 c cs hc hblank ih =>
    rw [tokens, if_neg hc, if_pos hblank, ih, List.filter_cons_of_neg (by simp [isMark, hblank])]
  | case4 c cs hc hblank ih =>
    rw [tokens, if_neg hc, if_neg hblank, List.filter_cons_of_pos (by simpa [isWordToken] using hc), ih,
      List.filter_cons_of_pos (by simp [isMark, hc, hblank]), List.map_cons]

theorem length_tokens (cs : List Char) : (tokens cs).length = (wordRuns cs).length + cs.countP isMark := by
  rw [List.length_eq_length_filter_add isWordToken, filter_isWordToken, filter_not_isWordToken, List.length_map,
    List.countP_eq_length_filter]

theorem tokens_eq_nil_iff (cs : List Char) : tokens cs = [] ↔ ∀ c ∈ cs, isBlank c = true := by
  induction cs using tokens.induct with
  | case1 => simp [tokens]
  | case2 c cs hc ih =>
    have hblank : ¬isBlank c = true := fun hblank => by simp [isWord_of_isBlank hblank] at hc
    simp [tokens, hc, hblank]
  | case3 c cs hc hblank ih =>
    rw [tokens, if_neg hc, if_pos hblank, ih, List.forall_mem_cons]
    exact (and_iff_right hblank).symm
  | case4 c cs hc hblank ih => simp [tokens, hc, hblank]

theorem length_tokens_le (cs : List Char) : (tokens cs).length ≤ cs.length := by
  induction cs using tokens.induct with
  | case1 => simp [tokens]
  | case2 c cs hc ih =>
    rw [tokens, if_pos hc]
    exact Nat.succ_le_succ (ih.trans (List.length_dropWhile_le _ _))
  | case3 c cs hc hblank ih =>
    rw [tokens, if_neg hc, if_pos hblank]
    exact Nat.le_succ_of_le ih
  | case4 c cs hc hblank ih =>
    rw [tokens, if_neg hc, if_neg hblank]
    exact Nat.succ_le_succ ih

/-! ### Counting on -/

/-- The tokens that begin in a text which stands behind a word character, or behind another one or nothing. -/
def countFrom (inWord : Bool) (cs : List Char) : Nat := (cs.foldl TokenCount.step ⟨0, inWord⟩).count

/-- The last character so far belongs to a word. -/
def endsInWord (inWord : Bool) (cs : List Char) : Bool := (cs.getLast?.map isWord).getD inWord

def beginsWithWord (cs : List Char) : Bool := cs.head?.any isWord

namespace TokenCount

theorem inWord_step (t : TokenCount) (c : Char) : (t.step c).inWord = isWord c := by
  unfold step
  split
  · rename_i hc
    exact hc.symm
  · rename_i hc
    split <;> exact (Bool.eq_false_iff.mpr hc).symm

/-- Of the state only whether it is in a word decides on how many tokens there are yet to come. -/
theorem foldl_step (t : TokenCount) (cs : List Char) :
    cs.foldl step t = ⟨t.count + countFrom t.inWord cs, endsInWord t.inWord cs⟩ := by
  induction cs generalizing t with
  | nil => rfl
  | cons c cs ih =>
    have hcount : (t.step c).count = t.count + (step ⟨0, t.inWord⟩ c).count := by
      unfold step
      split
      · split <;> simp
      · split <;> simp
    have hends : endsInWord t.inWord (c :: cs) = endsInWord (isWord c) cs := by
      rw [endsInWord, endsInWord, List.getLast?_cons]
      cases cs.getLast? <;> rfl
    rw [countFrom, List.foldl_cons, List.foldl_cons, ih, ih (step ⟨0, t.inWord⟩ c), hcount, hends, inWord_step, inWord_step,
      Nat.add_assoc]

end TokenCount

variable {inWord : Bool}

theorem countFrom_append (inWord : Bool) (as cs : List Char) :
    countFrom inWord (as ++ cs) = countFrom inWord as + countFrom (endsInWord inWord as) cs := by
  rw [countFrom, List.foldl_append, TokenCount.foldl_step, TokenCount.foldl_step, Nat.zero_add]

theorem countFrom_cons_of_word (hc : isWord c = true) :
    countFrom inWord (c :: cs) = (if inWord then 0 else 1) + countFrom true cs := by
  rw [countFrom, List.foldl_cons, TokenCount.foldl_step, TokenCount.inWord_step, hc, TokenCount.step, if_pos hc]

theorem countFrom_cons_of_blank (hc : ¬isWord c = true) (hblank : isBlank c = true) :
    countFrom inWord (c :: cs) = countFrom false cs := by
  rw [countFrom, List.foldl_cons, TokenCount.step, if_neg hc, if_pos hblank]
  rfl

theorem countFrom_cons_of_mark (hc : ¬isWord c = true) (hblank : ¬isBlank c = true) :
    countFrom inWord (c :: cs) = 1 + countFrom false cs := by
  rw [countFrom, List.foldl_cons, TokenCount.foldl_step, TokenCount.inWord_step, TokenCount.step, if_neg hc, if_neg hblank,
    Bool.eq_false_iff.mpr hc]

/-- Behind a word character a word at the start is no token of its own. -/
theorem countFrom_false (cs : List Char) :
    countFrom false cs = countFrom true cs + if beginsWithWord cs then 1 else 0 := by
  cases cs with
  | nil => rfl
  | cons c cs =>
    have hbegins : beginsWithWord (c :: cs) = isWord c := rfl
    rw [hbegins]
    by_cases hc : isWord c = true
    · rw [countFrom_cons_of_word hc, countFrom_cons_of_word hc, if_pos hc, Nat.add_comm]
      simp
    · rw [if_neg hc, Nat.add_zero]
      by_cases hblank : isBlank c = true
      · rw [countFrom_cons_of_blank hc hblank, countFrom_cons_of_blank hc hblank]
      · rw [countFrom_cons_of_mark hc hblank, countFrom_cons_of_mark hc hblank]

/-- The rest of a word is no token. -/
theorem countFrom_dropWhile (cs : List Char) : countFrom true cs = countFrom false (cs.dropWhile isWord) := by
  induction cs with
  | nil => rfl
  | cons c cs ih =>
    by_cases hc : isWord c = true
    · rw [List.dropWhile_cons_of_pos hc, ← ih, countFrom_cons_of_word hc]
      simp
    · have hbegins : ¬beginsWithWord (c :: cs) = true := hc
      rw [List.dropWhile_cons_of_neg hc, countFrom_false, if_neg hbegins, Nat.add_zero]

theorem countFrom_eq (cs : List Char) : countFrom false cs = (tokens cs).length := by
  -- the count is taken character by character, the tokens leap over a word: `countFrom_dropWhile` makes up for that
  induction cs using tokens.induct with
  | case1 =>
    rw [tokens]
    rfl
  | case2 c cs hc ih =>
    rw [tokens, if_pos hc, List.length_cons, ← ih, countFrom_cons_of_word hc, countFrom_dropWhile, Nat.add_comm]
    rfl
  | case3 c cs hc hblank ih => rw [tokens, if_neg hc, if_pos hblank, ← ih, countFrom_cons_of_blank hc hblank]
  | case4 c cs hc hblank ih =>
    rw [tokens, if_neg hc, if_neg hblank, List.length_cons, ← ih, countFrom_cons_of_mark hc hblank, Nat.add_comm]

theorem tokenCount_eq (s : String) : tokenCount s = (tokens s.toList).length := countFrom_eq s.toList

/-- The count of a text is that of its two parts, less one where a word goes on from one to the other. -/
theorem tokenCount_append (a b : String) :
    tokenCount (a ++ b) + (if endsInWord false a.toList && beginsWithWord b.toList then 1 else 0) =
      tokenCount a + tokenCount b := by
  have hsum : tokenCount (a ++ b) = tokenCount a + countFrom (endsInWord false a.toList) b.toList := by
    rw [tokenCount, String.toList_append]
    exact countFrom_append false _ _
  rw [hsum, Nat.add_assoc]
  congr 1
  cases endsInWord false a.toList with
  | false => rfl
  | true => exact (countFrom_false _).symm

/-- Counts of tokens compose: the count of a text is that of its two parts, less one where a word goes on from one to the
    other. It is the number of tokens that are found from left to right, which are the longest stretches of word characters
    and the marks; there are none just in a blank text, and never more than characters. -/
theorem token_counts_compose (a b : String) :
    tokenCount (a ++ b) + (if endsInWord false a.toList && beginsWithWord b.toList then 1 else 0) =
      tokenCount a + tokenCount b ∧
    tokenCount a = (tokens a.toList).length ∧
    tokenCount a = (wordRuns a.toList).length + a.toList.countP isMark ∧
    (tokenCount a = 0 ↔ isBlankText a = true) ∧
    tokenCount a ≤ a.length := by
  refine ⟨tokenCount_append a b, tokenCount_eq a, ?_, ?_, ?_⟩
  · rw [tokenCount_eq, length_tokens]
  · rw [tokenCount_eq, List.length_eq_zero_iff, tokens_eq_nil_iff, isBlankText, List.all_eq_true]
  · rw [tokenCount_eq, ← String.length_toList]
    exact length_tokens_le _

end CodeAtlas.Text
