import CodeAtlas.Decimal.Double
import CodeAtlas.Schema.Basic
import CodeAtlas.Text.Blank
import CodeAtlas.Basic
import CodeAtlas.Value.Reader

/-! Fitting one value to the kind of its field. Numbers and truth values may also be written as texts;
    everything else has to be what it is. -/

namespace CodeAtlas.Schema

/-- White space that may surround a number in a text: the blanks without the information separators. -/
def isNumberSpace (c : Char) : Bool := Text.isBlank c && !(28 ≤ c.toNat && c.toNat ≤ 31)

def trimNumber (cs : List Char) : List Char :=
  ((cs.dropWhile isNumberSpace).reverse.dropWhile isNumberSpace).reverse

/-- The characters without their underscores, each of which has to stand between two others. -/
def withoutUnderscores? (cs : List Char) : Option (List Char) :=
  let parts := Text.splitWhere (· == '_') cs
  if parts.all fun part => !part.isEmpty then some parts.flatten else none

/-! ### Integers -/

/-- What is left of a number without a sign once the zeros at its start are dropped: it begins with
    another digit, with the last zero before a point, or with a minus sign, which may only stand behind
    zeros. Underscores among the zeros do not matter. -/
def withoutZeros? (cs : List Char) : Option (List Char) :=
  match cs with
  | '0' :: _ =>
    let rest := cs.dropWhile fun c => c == '0' || c == '_'
    match rest with
    | [] => some (cs.drop (cs.length - 1))
    | '.' :: _ => some (cs.drop (cs.length - rest.length - 1))
    | c :: _ => if c.isDigit || c == '-' then some rest else none
  | c :: _ => if c.isDigit || c == '-' then some cs else none
  | [] => none

/-- A text of a whole number without its point and the zeros after it. -/
def withoutZeroFraction (cs : List Char) : List Char :=
  match cs.dropWhile (· ≠ '.') with
  | '.' :: zeros => if !zeros.isEmpty && zeros.all (· == '0') then cs.takeWhile (· ≠ '.') else cs
  | _ => cs

/-- The sign and the digits that a text of an integer comes down to, if it is one. -/
def plainInteger? (s : String) : Option (List Char) :=
  match trimNumber s.toList with
  | '+' :: '-' :: _ => none
  | '+' :: cs => (withoutZeros? cs).bind fun cs => withoutUnderscores? (withoutZeroFraction cs)
  | '-' :: cs => (withoutZeros? cs).bind fun cs => withoutUnderscores? ('-' :: withoutZeroFraction cs)
  | cs => (withoutZeros? cs).bind fun cs => withoutUnderscores? (withoutZeroFraction cs)

/-- The integer of a sign and digits, of which only a lone one may be zero at the start. -/
def integerOfPlain? (cs : List Char) : Option Int :=
  let (negative, ds) := match cs with
    | '-' :: ds => (true, ds)
    | ds => (false, ds)
  if ds.isEmpty || !ds.all Char.isDigit || (ds.head? = some '0' && 1 < ds.length) ||
      Value.Reader.digitLimit < cs.length then none
  else
    let n : Int := Text.natOfDigits ds
    some (if negative then -n else n)

/-- A text that begins with the sign and the digits of a number that is too long to be read. -/
def startsOversized (s : String) : Bool :=
  let (sign, unsigned) : Nat × List Char := match s.toList with
    | '-' :: cs => (1, cs)
    | cs => (0, cs)
  unsigned.head? ≠ some '0' && Value.Reader.digitLimit < sign + (Value.Reader.digits unsigned).1.length

/-- The integer that a text stands for. -/
def integerOfText (s : String) : Except Complaint Int :=
  if startsOversized s then .error .oversizedInteger
  else match (plainInteger? s).bind integerOfPlain? with
    | some n => .ok n
    | none => .error .unreadableInteger

/-- The integer that a double is, if it is one of moderate size. -/
def integerOfReal (x : Float) : Except Complaint Int :=
  if !x.isFinite then .error .notFinite
  else match Decimal.whole? x with
    | none => .error .fractional
    | some n => if n.natAbs < 2 ^ 63 then .ok n else .error .oversizedInteger

def integer : Value → Except Complaint Int
  | .int n => .ok n
  | .bool b => .ok (if b then 1 else 0)
  | .real x => integerOfReal x
  | .text s => integerOfText s
  | _ => .error .notInteger

/-! ### Numbers -/

/-- The number that characters stand for, without blanks and underscores. -/
def realOfPlain? (cs : List Char) : Option Float :=
  let (negative, unsigned) := match cs with
    | '+' :: r => (false, r)
    | '-' :: r => (true, r)
    | r => (false, r)
  let word := String.ofList (unsigned.map Char.toLower)
  if word = "inf" || word = "infinity" then some (if negative then -1.0 / 0.0 else 1.0 / 0.0)
  else if word = "nan" then some (0.0 / 0.0)
  else
    let (whole, rest) := Value.Reader.digits unsigned
    let (decimals, rest) := match rest with
      | '.' :: r => Value.Reader.digits r
      | r => ([], r)
    if whole.isEmpty && decimals.isEmpty then none
    else
      let mantissa := Text.natOfDigits (whole ++ decimals)
      match rest with
      | [] => some (Decimal.nearestFloat negative mantissa (-decimals.length))
      | _ => match Value.Reader.exponent? rest with
        | some (e, []) => some (Decimal.nearestFloat negative mantissa (e - decimals.length))
        | _ => none

/-- The number that a text stands for: blanks may surround it, or underscores stand within it. -/
def realOfText (s : String) : Except Complaint Float :=
  match (realOfPlain? (trimNumber s.toList)).or ((withoutUnderscores? s.toList).bind realOfPlain?) with
  | some x => .ok x
  | none => .error .unreadableNumber

def realOfInt (n : Int) : Float := Decimal.nearestFloat (n < 0) n.natAbs 0

def number : Value → Except Complaint Float
  | .real x => .ok x
  | .int n => if (realOfInt n).isFinite then .ok (realOfInt n) else .error .notNumber
  | .bool b => .ok (if b then 1.0 else 0.0)
  | .text s => realOfText s
  | _ => .error .notNumber

/-! ### Truth values -/

/-- Numbers beyond a signed word of 64 bits are not even looked at. -/
def boolOfInt (n : Int) : Except Complaint Bool :=
  if n = 0 then .ok false
  else if n = 1 then .ok true
  else if -(2 ^ 63) ≤ n && n < 2 ^ 63 then .error .unreadableBoolean
  else .error .notBoolean

def trueWords : List String := ["1", "on", "t", "true", "y", "yes"]

def falseWords : List String := ["0", "off", "f", "false", "n", "no"]

def boolean : Value → Except Complaint Bool
  | .bool b => .ok b
  | .int n => boolOfInt n
  | .real x => match integerOfReal x with
    | .ok n => boolOfInt n
    | .error _ => .error .notBoolean
  | .text s =>
    let word := String.ofList (s.toList.map Char.toLower)
    if trueWords.contains word then .ok true
    else if falseWords.contains word then .ok false
    else .error .unreadableBoolean
  | _ => .error .notBoolean

end CodeAtlas.Schema
