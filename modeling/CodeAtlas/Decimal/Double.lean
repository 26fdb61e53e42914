import CodeAtlas.Decimal.Stepwise

/-! Doubles as text. What differs from place to place is kept in a `RealStyle`: how far positional
    notation goes, and whether a single digit before an exponent is followed by a point. -/

namespace CodeAtlas.Decimal

/-- What a double is. -/
inductive Double where
  | nan
  | infinite (negative : Bool)
  | zero (negative : Bool)
  | finite (negative : Bool) (magnitude : Binary) (narrowBelow : Bool)

/-- Reads the sign, exponent and fraction fields of a double. -/
def Double.ofBits (bits : Nat) : Double :=
  let negative := 2 ^ 63 ≤ bits
  let field : Nat := bits / 2 ^ 52 % 2048
  let fraction : Nat := bits % 2 ^ 52
  if field = 2047 then if fraction = 0 then .infinite negative else .nan
  else if field = 0 then
    if fraction = 0 then .zero negative else .finite negative ⟨fraction, -1074⟩ false
  else .finite negative ⟨2 ^ 52 + fraction, (field : Int) - 1075⟩ (fraction = 0 && field ≠ 1)

def Double.ofFloat (x : Float) : Double := Double.ofBits x.toBits.toNat

/-- The integer that a double is, if it is one. -/
def whole? (x : Float) : Option Int :=
  match Double.ofFloat x with
  | .nan => none
  | .infinite _ => none
  | .zero _ => some 0
  | .finite negative b _ =>
    let (num, den) := ratioOf b.mantissa b.exponent
    if num % den ≠ 0 then none else some (if negative then -(num / den : Nat) else (num / den : Nat))

/-- How a double is written. -/
structure RealStyle where
  /-- The digits of a magnitude. -/
  digits : Binary → Bool → Scaled
  /-- The least power of ten of a first digit that is still written without an exponent. -/
  least : Int
  /-- The greatest such power. -/
  greatest : Int
  /-- A lone digit before an exponent is followed by a point and a zero. -/
  pointAlways : Bool
  nan : String
  infinite : String

/-- As few digits as read back, without an exponent from a ten-thousandth up to below ten to the
    sixteenth. -/
def shortStyle : RealStyle where
  digits := Binary.shortest
  least := -4
  greatest := 15
  pointAlways := false
  nan := "nan"
  infinite := "inf"

/-- The style of values exchanged as data: as `shortStyle`, with words for what is no number. -/
def dataStyle : RealStyle := { shortStyle with nan := "NaN", infinite := "Infinity" }

/-- Fifteen significant digits, as a table column of texts keeps a number. -/
def columnStyle : RealStyle where
  digits := fun b _ => Stepwise.fifteen b
  least := -4
  greatest := 14
  pointAlways := true
  nan := ""
  infinite := "Inf"

/-- An exponent with its sign and at least two digits. -/
def exponentText (e : Int) : String :=
  let digits := toString e.natAbs
  (if e < 0 then "e-" else "e+") ++ (if digits.length < 2 then "0" ++ digits else digits)

namespace RealStyle

/-- The digits with the point in its place, and a zero on a side of it that would be empty. -/
def positional (d : Scaled) : String :=
  let digits := d.text
  let whole := d.leading + 1
  if whole ≤ 0 then "0." ++ String.ofList (List.replicate (-whole).toNat '0' ++ digits)
  else
    let n := whole.toNat
    if digits.length ≤ n then
      String.ofList (digits ++ List.replicate (n - digits.length) '0') ++ ".0"
    else String.ofList (digits.take n ++ '.' :: digits.drop n)

def withExponent (style : RealStyle) (d : Scaled) : String :=
  let mantissa := match d.text with
    | [c] => if style.pointAlways then [c, '.', '0'] else [c]
    | c :: cs => c :: '.' :: cs
    | [] => []
  String.ofList mantissa ++ exponentText d.leading

def magnitude (style : RealStyle) (d : Scaled) : String :=
  if style.least ≤ d.leading && d.leading ≤ style.greatest then positional d else style.withExponent d

/-- The text of a double. -/
def write (style : RealStyle) (x : Float) : String :=
  let signed := fun (negative : Bool) (s : String) => if negative then "-" ++ s else s
  match Double.ofFloat x with
  | .nan => style.nan
  | .infinite negative => signed negative style.infinite
  | .zero negative => signed negative "0.0"
  | .finite negative b narrowBelow => signed negative (style.magnitude (style.digits b narrowBelow))

end RealStyle

/-- The shortest digits of a double without an exponent, and without a point where nothing follows it. -/
def plainText (x : Float) : String :=
  match Double.ofFloat x with
  | .nan => "NaN"
  | .infinite negative => if negative then "-inf" else "inf"
  | .zero negative => if negative then "-0" else "0"
  | .finite negative b narrowBelow =>
    let s := RealStyle.positional (b.shortest narrowBelow)
    (if negative then "-" else "") ++ if s.endsWith ".0" then String.ofList (s.toList.dropLast.dropLast) else s

/-- The double nearest to `digits * 10 ^ exponent`. A first digit beyond the range of doubles settles
    the answer without computing a large power. -/
def nearestFloat (negative : Bool) (digits : Nat) (exponent : Int) : Float :=
  let top := (toString digits).length + exponent
  let x : Float :=
    if digits = 0 || top < -400 then 0.0
    else if 400 < top then Float.ofScientific 1 false 400
    else Float.ofScientific digits (exponent < 0) exponent.natAbs
  if negative then -x else x

end CodeAtlas.Decimal
