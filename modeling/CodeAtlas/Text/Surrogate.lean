/-! Codes that are one half of a pair and no character on their own. Where such a code gets into a text all
    the same, a private character stands in for it: it is neither blank nor part of a word, no text that
    is kept anywhere holds it, and it cannot be encoded. -/

namespace CodeAtlas.Text.Surrogate

def isHigh (n : Nat) : Bool := 0xD800 ≤ n && n ≤ 0xDBFF

def isLow (n : Nat) : Bool := 0xDC00 ≤ n && n ≤ 0xDFFF

/-- The code of the character that two halves make. -/
def pair (high low : Nat) : Nat := 0x10000 + (high - 0xD800) * 0x400 + (low - 0xDC00)

/-- How far the stand-ins lie above the codes they stand for. -/
def offset : Nat := 0x10F000 - 0xD800

/-- The character of a code, or the stand-in for it. -/
def charOf (n : Nat) : Char := Char.ofNat (if isHigh n || isLow n then n + offset else n)

/-- The code that a stand-in stands for. -/
def half? (c : Char) : Option Nat :=
  let n := c.toNat - offset
  if isHigh n || isLow n then some n else none

/-- Some character stands in for a half. -/
def isIn (cs : List Char) : Bool := cs.any fun c => (half? c).isSome

/-! ### Encoding -/

/-- Why a text cannot be encoded: the halves at the positions `first` to `last`, of which `code` is the
    first. -/
structure Refusal where
  code : Nat
  first : Nat
  last : Nat
deriving DecidableEq, Repr

/-- The first stretch of halves in a text. -/
def refusal? (cs : List Char) : Option Refusal :=
  let rest := cs.dropWhile fun c => (half? c).isNone
  (rest.head?.bind half?).map fun code =>
    let first := cs.length - rest.length
    ⟨code, first, first + (rest.takeWhile fun c => (half? c).isSome).length - 1⟩

end CodeAtlas.Text.Surrogate
