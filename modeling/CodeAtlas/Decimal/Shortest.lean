import CodeAtlas.Basic

/-! The shortest decimal of a binary fraction: the fewest digits that still read back as the same
    double, and among those the digits nearest to it. Everything is exact arithmetic on naturals. -/

namespace CodeAtlas.Decimal

/-- A decimal `digits * 10 ^ exponent`. -/
structure Scaled where
  digits : Nat
  exponent : Int
deriving DecidableEq, Repr

namespace Scaled

/-- Takes up to `fuel` zeros off the end of the digits. -/
def stripZeros : Nat → Scaled → Scaled
  | 0, d => d
  | fuel + 1, d =>
    if d.digits ≠ 0 && d.digits % 10 = 0 then stripZeros fuel ⟨d.digits / 10, d.exponent + 1⟩ else d

/-- The digits as characters, most significant first. -/
def text (d : Scaled) : List Char := (toString d.digits).toList

/-- The power of ten of the first digit. -/
def leading (d : Scaled) : Int := d.exponent + ((d.text.length : Int) - 1)

end Scaled

/-- The positive number `mantissa * 2 ^ exponent`. -/
structure Binary where
  mantissa : Nat
  exponent : Int
deriving DecidableEq, Repr

/-- The numerator and denominator of `n * 2 ^ e`. -/
def ratioOf (n : Nat) (e : Int) : Nat × Nat :=
  if 0 ≤ e then (n * 2 ^ e.toNat, 1) else (n, 2 ^ (-e).toNat)

/-- The quotient of `num / den` by `10 ^ k`, as a numerator and a denominator. -/
def scaledBy (num den : Nat) (k : Int) : Nat × Nat :=
  if 0 ≤ k then (num, den * 10 ^ k.toNat) else (num * 10 ^ (-k).toNat, den)

/-- Raises the guess `e` until `10 ^ (e + 1)` exceeds `num / den`. -/
def leadingFrom (num den : Nat) : Nat → Int → Int
  | 0, e => e
  | fuel + 1, e =>
    let (n, d) := scaledBy num den (e + 1)
    if d ≤ n then leadingFrom num den fuel (e + 1) else e

/-- The power of ten of the first digit of the positive `num / den`. The guess from the lengths of the
    two is at most a few places too low. -/
def leadingPower (num den : Nat) : Int :=
  let guess : Int := (((toString num).length : Int) - ((toString den).length : Int)) - 2
  leadingFrom num den 4 guess

namespace Binary

/-- The bounds of the numbers that round to `b`, all in units of a quarter of its last place: the
    lower one, `b` itself and the upper one. The gap below a power of two is half as wide. -/
def bounds (b : Binary) (narrowBelow : Bool) : Nat × Nat × Nat :=
  (4 * b.mantissa - (if narrowBelow then 1 else 2), 4 * b.mantissa, 4 * b.mantissa + 2)

/-- `digits * 10 ^ k` lies between the bounds, which count as inside when `closed`. -/
def within (low high den : Nat) (closed : Bool) (digits : Nat) (k : Int) : Bool :=
  let (n, d) := if 0 ≤ k then (digits * 10 ^ k.toNat, 1) else (digits, 10 ^ (-k).toNat)
  let value := n * den
  if closed then low * d ≤ value && value ≤ high * d else low * d < value && value < high * d

/-- The decimal on the grid of `10 ^ k` nearest to `num / den` among its two neighbours there that
    satisfy `ok`; of two equally near ones, the even one. -/
def onGrid? (num den : Nat) (ok : Nat → Bool) (k : Int) : Option Scaled :=
  let (n, d) := scaledBy num den k
  let below := n / d
  let remainder := n % d
  match ok below && below ≠ 0, ok (below + 1) with
  | true, true =>
    if 2 * remainder < d || (2 * remainder = d && below % 2 = 0) then some ⟨below, k⟩
    else some ⟨below + 1, k⟩
  | true, false => some ⟨below, k⟩
  | false, true => some ⟨below + 1, k⟩
  | false, false => none

/-- Tries grids of one more digit each, `fuel` times. -/
def firstGrid (try_ : Int → Option Scaled) : Nat → Int → Option Scaled
  | 0, _ => none
  | fuel + 1, k => match try_ k with
    | some d => some d
    | none => firstGrid try_ fuel (k - 1)

/-- The shortest decimal that rounds to `b`; seventeen digits always suffice. -/
def shortest (b : Binary) (narrowBelow : Bool) : Scaled :=
  let (low, mid, high) := b.bounds narrowBelow
  let (lowNum, den) := ratioOf low (b.exponent - 2)
  let (num, _) := ratioOf mid (b.exponent - 2)
  let (highNum, _) := ratioOf high (b.exponent - 2)
  let closed := b.mantissa % 2 = 0
  let try_ := fun k => onGrid? num den (fun digits => within lowNum highNum den closed digits k) k
  match firstGrid try_ 18 (leadingPower num den) with
  | some d => d.stripZeros 20
  | none => ⟨0, 0⟩

end Binary

end CodeAtlas.Decimal
