/-! Punycode: texts of any characters in plain letters, digits and hyphens. The plain characters come
    first; every other one is written as the way from the last one to it, over all places in the text and
    all characters in between, as a number whose digits end by themselves. -/

namespace CodeAtlas.Text.Punycode

/-! ### Numbers -/

def digitChar (d : Nat) : Char := if d < 26 then Char.ofNat (0x61 + d) else Char.ofNat (0x30 + d - 26)

def digitValue? (c : Char) : Option Nat :=
  if 'a' ≤ c && c ≤ 'z' then some (c.toNat - 0x61)
  else if 'A' ≤ c && c ≤ 'Z' then some (c.toNat - 0x41)
  else if c.isDigit then some (c.toNat - 0x30 + 26)
  else none

/-- A digit below this, at the place `k`, is the last one of its number. -/
def threshold (k bias : Nat) : Nat := min 26 (max 1 (k - bias))

theorem one_le_threshold (k bias : Nat) : 1 ≤ threshold k bias := by
  unfold threshold
  omega

/-- The digits of a number from the place `k` on. -/
def digits (bias k n : Nat) : List Char :=
  let t := threshold k bias
  if n < t then [digitChar n]
  else digitChar (t + (n - t) % (36 - t)) :: digits bias (k + 36) ((n - t) / (36 - t))
termination_by n
decreasing_by
  have h := one_le_threshold k bias
  calc (n - threshold k bias) / (36 - threshold k bias) ≤ n - threshold k bias := Nat.div_le_self _ _
    _ < n := by omega

/-- The number at the start of some digits, and what follows it. -/
def number? (bias : Nat) : Nat → Nat → List Char → Option (Nat × List Char)
  | _, _, [] => none
  | k, weight, c :: rest => do
    let d ← digitValue? c
    let t := threshold k bias
    if d < t then pure (d * weight, rest)
    else
      let (n, rest) ← number? bias (k + 36) (weight * (36 - t)) rest
      pure (n + d * weight, rest)

/-- Takes steps of 35 out of a distance, and counts them. -/
def scaled (d k : Nat) : Nat :=
  if 455 < d then scaled (d / 35) (k + 36) else k + 36 * d / (d + 38)
termination_by d
decreasing_by exact Nat.div_lt_self (by omega) (by omega)

/-- The bias after a distance, the first one or not, that has made the text `length` characters long. -/
def adapt (distance : Nat) (isFirst : Bool) (length : Nat) : Nat :=
  let d := if isFirst then distance / 700 else distance / 2
  scaled (d + d / length) 0

/-! ### Writing -/

def isPlain (c : Char) : Bool := c.toNat < 0x80

/-- How far the writing has come: what is written, the distance from the last character, and how many
    characters are in. -/
structure Writing where
  written : List Char
  distance : Nat := 0
  bias : Nat := 72
  done : Nat
  isFirst : Bool := true

/-- Passes one character of the text by, while the characters `code` are put in. -/
def Writing.pass (code : Nat) (w : Writing) (c : Char) : Writing :=
  if c.toNat < code then { w with distance := w.distance + 1 }
  else if c.toNat = code then
    { written := w.written ++ digits w.bias 36 w.distance
      bias := adapt w.distance w.isFirst (w.done + 1), done := w.done + 1, isFirst := false }
  else w

/-- Puts in the characters of rising codes, of which `next` is the lowest that may come. -/
def Writing.putAll (cs : List Char) : Nat → List Nat → Writing → Writing
  | _, [], w => w
  | next, code :: codes, w =>
    let w := cs.foldl (pass code) { w with distance := w.distance + (code - next) * (w.done + 1) }
    putAll cs (code + 1) codes { w with distance := w.distance + 1 }

def encode (cs : List Char) : List Char :=
  let plain := cs.filter isPlain
  let codes := ((cs.filter fun c => !isPlain c).map Char.toNat).mergeSort.eraseDups
  (Writing.putAll cs 0x80 codes
    { written := plain ++ (if plain.isEmpty then [] else ['-']), done := plain.length }).written

/-! ### Reading -/

/-- The character with a code, if there is one. -/
def charOf? (n : Nat) : Option Char := if n.isValidChar then some (Char.ofNat n) else none

/-- Puts in one character after the other, at most `fuel` of them. `place` is the next place in the text
    and `code` the code that the last character had. -/
def readAll : Nat → List Char → Nat → Nat → Nat → Bool → List Char → Option (List Char)
  | _, text, _, _, _, _, [] => some text
  | 0, _, _, _, _, _, _ => none
  | fuel + 1, text, place, code, bias, isFirst, rest => do
    let (distance, rest) ← number? bias 36 1 rest
    let width := text.length + 1
    let place := place + distance
    let code := code + place / width
    let c ← charOf? code
    let at_ := place % width
    readAll fuel (text.take at_ ++ c :: text.drop at_) (at_ + 1) code (adapt distance isFirst width) false rest

/-- The text that characters stand for; the plain ones end at the last hyphen. -/
def decode? (cs : List Char) : Option (List Char) :=
  let (plain, rest) :=
    if cs.contains '-' then
      let rest := (cs.reverse.takeWhile (· ≠ '-')).reverse
      (cs.take (cs.length - rest.length - 1), rest)
    else ([], cs)
  readAll rest.length plain 0 0x80 72 true rest

end CodeAtlas.Text.Punycode
