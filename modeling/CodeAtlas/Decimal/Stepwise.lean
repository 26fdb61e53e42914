import CodeAtlas.Decimal.Shortest

/-! Fifteen significant digits of a number, found step by step: the number is brought between one and
    ten, half a unit of its last digit is added, and the digits are read off from the front. Every step
    rounds to a mantissa of 64 bits, so that a number very near to a half may go either way. -/

namespace CodeAtlas.Decimal

namespace Binary

/-! ### Arithmetic -/

/-- Rounded to a mantissa of so many bits, a half going to the even neighbour. -/
def fitted (bits : Nat) (b : Binary) : Binary :=
  let excess := b.mantissa.log2 + 1 - bits
  let unit := 2 ^ excess
  let below := b.mantissa / unit
  let remainder := b.mantissa % unit
  let up := unit < 2 * remainder || (2 * remainder = unit && below % 2 = 1)
  ⟨if up then below + 1 else below, b.exponent + excess⟩

/-- The product, not yet rounded. -/
def product (a b : Binary) : Binary := ⟨a.mantissa * b.mantissa, a.exponent + b.exponent⟩

/-- The quotient with a mantissa of so many bits. What the long division leaves over only matters for
    telling a half from more than a half. -/
def quotient (bits : Nat) (a b : Binary) : Binary :=
  let places := bits + b.mantissa.log2 + 2
  let num := a.mantissa * 2 ^ places
  let sticky := if num % b.mantissa = 0 then 0 else 1
  fitted bits ⟨2 * (num / b.mantissa) + sticky, a.exponent - b.exponent - places - 1⟩

/-- Both mantissas in units of the smaller exponent. -/
def aligned (a b : Binary) : Nat × Nat × Int :=
  let e := min a.exponent b.exponent
  (a.mantissa * 2 ^ (a.exponent - e).toNat, b.mantissa * 2 ^ (b.exponent - e).toNat, e)

def isAtMost (a b : Binary) : Bool :=
  let (m, n, _) := aligned a b
  m ≤ n

def floor (b : Binary) : Nat :=
  let (num, den) := ratioOf b.mantissa b.exponent
  num / den

/-- What is left of `b` without the integer `n`, which is not greater. -/
def without (b : Binary) (n : Nat) : Binary :=
  let (m, k, e) := aligned b ⟨n, 0⟩
  ⟨m - k, e⟩

end Binary

namespace Stepwise

open Binary

def times (a b : Binary) : Binary := fitted 64 (product a b)

def plus (a b : Binary) : Binary :=
  let (m, n, e) := aligned a b
  fitted 64 ⟨m + n, e⟩

/-- The double nearest to `num / den`. -/
def double (num den : Nat) : Binary := quotient 53 ⟨num, 0⟩ ⟨den, 0⟩

def one : Binary := ⟨1, 0⟩

def ten : Binary := ⟨10, 0⟩

/-- Half a unit of the fifteenth digit. -/
def halfUnit : Binary := fitted 53 (product (double 5 (10 ^ 5)) (double 1 (10 ^ 10)))

/-! ### Between one and ten -/

/-- Multiplies a scale by `step`, a power of ten, as long as it does not exceed `x`. -/
def raise (step : Binary) (power : Int) (x : Binary) : Nat → Binary × Int → Binary × Int
  | 0, s => s
  | fuel + 1, (scale, e) =>
    let next := times scale step
    if isAtMost next x then raise step power x fuel (next, e + power) else (scale, e)

/-- Multiplies `x` by `step`, a power of ten, as long as it is below `bound`. -/
def lift (bound step : Binary) (power : Int) : Nat → Binary × Int → Binary × Int
  | 0, s => s
  | fuel + 1, (x, e) =>
    if isAtMost bound x then (x, e) else lift bound step power fuel (times x step, e - power)

/-- The number between one and ten, and the power of ten that it was divided by. -/
def normalized (x : Binary) : Binary × Int :=
  let scale := raise (double (10 ^ 100) 1) 100 x 4 (one, 0)
  let scale := raise (double (10 ^ 10) 1) 10 x 10 scale
  let (scale, e) := raise ten 1 x 10 scale
  let start := (quotient 64 x scale, e)
  lift one ten 1 10 (lift (double 1 (10 ^ 8)) (double (10 ^ 8) 1) 8 50 start)

/-! ### Digits -/

/-- The first digits of a number below ten, as a number. -/
def digitsOnto (found : Nat) : Nat → Binary → Nat
  | 0, _ => found
  | places + 1, x =>
    let digit := x.floor
    digitsOnto (found * 10 + digit) places (times (x.without digit) ten)

/-- Fifteen significant digits. -/
def fifteen (b : Binary) : Scaled :=
  let (x, e) := normalized b
  let x := plus x halfUnit
  let (x, e) := if isAtMost ten x then (times x (double 1 10), e + 1) else (x, e)
  Scaled.stripZeros 15 ⟨digitsOnto 0 15 x, e - 14⟩

end Stepwise

end CodeAtlas.Decimal
