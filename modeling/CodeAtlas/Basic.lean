/-! What the other modules share: powers and zeros of numbers, cuts of lists, digits, and sets of characters. -/

namespace CodeAtlas

/-! ### Numbers

Powers of numbers and the zero of a sum are those of the core library in every module, also where other structures on
the same numbers are in scope. -/

@[default_instance 20000]
instance (priority := high) natPower : Pow Nat Nat := instPowNat

@[default_instance 20000]
instance (priority := high) intPower : Pow Int Nat := instPowNat

instance (priority := high) natZero : Zero Nat := Zero.ofOfNat0

instance (priority := high) intZero : Zero Int := Zero.ofOfNat0

namespace Text

/-! ### Cuts

Cuts of a list are counted from either end. A negative count is taken from the far end, and a count beyond the list
stops at its end. -/

/-- The first `n` items; with a negative `n`, all but the last `-n`. -/
def takeUpTo {α : Type} (n : Int) (xs : List α) : List α :=
  if n < 0 then xs.take (xs.length - n.natAbs) else xs.take n.toNat

/-- The items from `-n` on, counted from the end: the last `n` when `n` is positive, everything when
    it is 0, and all but the first `-n` when it is negative. -/
def fromEnd {α : Type} (n : Int) (xs : List α) : List α :=
  if 0 < n then xs.drop (xs.length - n.toNat) else xs.drop n.natAbs

/-- The first `n` characters of a text. -/
def takeChars (n : Nat) (s : String) : String := String.ofList (s.toList.take n)

/-! ### Digits

Hexadecimal digits are written in lower case and read in either. -/

/-- The number that decimal digits write. -/
def natOfDigits (ds : List Char) : Nat := ds.foldl (fun n c => n * 10 + (c.toNat - 48)) 0

def hexDigit (n : Nat) : Char := "0123456789abcdef".toList.getD n '0'

/-- The last `width` hexadecimal digits of `n`, most significant first. -/
def hexDigits : Nat → Nat → List Char
  | 0, _ => []
  | width + 1, n => hexDigits width (n / 16) ++ [hexDigit (n % 16)]

def hexValue? (c : Char) : Option Nat :=
  if c.isDigit then some (c.toNat - 48)
  else if 'a' ≤ c && c ≤ 'f' then some (c.toNat - 87)
  else if 'A' ≤ c && c ≤ 'F' then some (c.toNat - 55)
  else none

/-! ### Characters -/

/-- A set of characters, written as closed ranges of codes in ascending order. -/
structure CharSet where
  ranges : List (Nat × Nat)

namespace CharSet

/-- The code `n` lies in one of the ranges; a range above `n` ends the search, since they ascend. -/
def covers : List (Nat × Nat) → Nat → Bool
  | [], _ => false
  | (lo, hi) :: rest, n => if n < lo then false else if n ≤ hi then true else covers rest n

def contains (s : CharSet) (c : Char) : Bool := covers s.ranges c.toNat

end CharSet

end Text

end CodeAtlas
