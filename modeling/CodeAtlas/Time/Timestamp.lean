import CodeAtlas.Time.Calendar

/-! A moment as written on a clock: a date, a time of day to the microsecond, and, where it is known,
    how far the clock is ahead of universal time. -/

namespace CodeAtlas

structure Timestamp where
  year : Nat
  month : Nat
  day : Nat
  hour : Nat := 0
  minute : Nat := 0
  second : Nat := 0
  micro : Nat := 0
  /-- How many microseconds the clock is ahead of universal time. -/
  offset : Option Int := some 0
deriving DecidableEq, Repr

namespace Timestamp

/-- The last `width` decimal digits of `n`. -/
def digits : Nat → Nat → List Char
  | 0, _ => []
  | width + 1, n => digits width (n / 10) ++ [Char.ofNat (48 + n % 10)]

/-- A count of microseconds below a second, after a point; nothing when it is zero. -/
def fractionChars (micro : Nat) : List Char := if micro = 0 then [] else '.' :: digits 6 micro

/-- An offset as hours and minutes, with seconds and their fraction only where they are not zero. -/
def offsetChars (offset : Int) : List Char :=
  let n := offset.natAbs
  let seconds := n / 1000000
  let micro := n % 1000000
  (if offset < 0 then '-' else '+') :: digits 2 (seconds / 3600) ++
    ':' :: digits 2 (seconds / 60 % 60) ++
    (if seconds % 60 = 0 && micro = 0 then [] else ':' :: digits 2 (seconds % 60)) ++ fractionChars micro

def chars (t : Timestamp) : List Char :=
  digits 4 t.year ++ '-' :: digits 2 t.month ++ '-' :: digits 2 t.day ++
    'T' :: digits 2 t.hour ++ ':' :: digits 2 t.minute ++ ':' :: digits 2 t.second ++
    fractionChars t.micro ++ (match t.offset with
      | none => []
      | some offset => offsetChars offset)

/-- The text of a timestamp: date, the letter T, time, fraction if any, offset if any. -/
def text (t : Timestamp) : String := String.ofList t.chars

/-- Microseconds from the start of year 1 to the time shown by the clock. -/
def microseconds (t : Timestamp) : Int :=
  ((((Time.dayNumber t.year t.month t.day - 1) * 24 + t.hour) * 60 + t.minute) * 60 + t.second : Nat)
    * 1000000 + t.micro

/-- The same clock `n` microseconds later, if that is still within the years 1 to 9999. -/
def later? (t : Timestamp) (n : Int) : Option Timestamp :=
  let total := t.microseconds + n
  if total < 0 then none
  else
    let micros := total.toNat
    let seconds := micros / 1000000
    let (year, month, day) := Time.dateOfDay (seconds / 86400 + 1)
    if 9999 < year then none
    else some {
      year, month, day
      hour := seconds / 3600 % 24
      minute := seconds / 60 % 60
      second := seconds % 60
      micro := micros % 1000000
      offset := t.offset }

end Timestamp

end CodeAtlas
