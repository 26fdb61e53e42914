/-! Blank characters, and the two things they do to a text: they are trimmed from its ends, and they
    part it into words. -/

namespace CodeAtlas.Text

/-- Spaces, tabs, line and paragraph ends, and the four information separators. -/
def isBlank (c : Char) : Bool :=
  let n := c.toNat
  (9 ≤ n && n ≤ 13) || (28 ≤ n && n ≤ 32) || n == 0x85 || n == 0xA0 || n == 0x1680 ||
    (0x2000 ≤ n && n ≤ 0x200A) || n == 0x2028 || n == 0x2029 || n == 0x202F || n == 0x205F || n == 0x3000

/-! ### Trimming -/

/-- The characters between the first and the last one that is not blank. -/
def trimChars (cs : List Char) : List Char :=
  ((cs.dropWhile isBlank).reverse.dropWhile isBlank).reverse

def trim (s : String) : String := String.ofList (trimChars s.toList)

/-- Nothing is left of `s` once it is trimmed. -/
def isBlankText (s : String) : Bool := s.toList.all isBlank

/-! ### Splitting -/

/-- The stretches between the characters that satisfy `p`: always one more than there are such
    characters, and some of them may be empty. -/
def splitWhere (p : Char → Bool) : List Char → List (List Char)
  | [] => [[]]
  | c :: cs =>
    if p c then [] :: splitWhere p cs
    else match splitWhere p cs with
      | [] => [[c]]
      | part :: parts => (c :: part) :: parts

/-- The longest stretches without a blank, in order. -/
def wordsChars (cs : List Char) : List (List Char) :=
  (splitWhere isBlank cs).filter fun part => !part.isEmpty

def words (s : String) : List String := (wordsChars s.toList).map String.ofList

/-- The parts of `s` between its commas. -/
def commaParts (s : String) : List String :=
  (splitWhere (· == ',') s.toList).map String.ofList

end CodeAtlas.Text
