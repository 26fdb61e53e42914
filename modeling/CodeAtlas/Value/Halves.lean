import CodeAtlas.Text.Surrogate
import CodeAtlas.Value.Reader

/-! Halves of pairs in a value. A text of a value may write one by its code, and a value that holds one
    cannot be encoded. -/

namespace CodeAtlas.Value

/-! ### Written halves -/

/-- The code of four hexadecimal digits. -/
def codeOf? (a b c d : Char) : Option Nat := do
  let a ← Text.hexValue? a
  let b ← Text.hexValue? b
  let c ← Text.hexValue? c
  let d ← Text.hexValue? d
  pure (((a * 16 + b) * 16 + c) * 16 + d)

/-- The codes that are written after a backslash, in order. Between two that do not follow each other at
    once there is a gap. -/
def writtenCodes : List Char → List (Option Nat)
  | '\\' :: 'u' :: a :: b :: c :: d :: rest =>
    match codeOf? a b c d with
    | some n => some n :: writtenCodes rest
    | none => none :: writtenCodes (a :: b :: c :: d :: rest)
  | '\\' :: _ :: rest => none :: writtenCodes rest
  | _ :: rest => none :: writtenCodes rest
  | [] => []

/-- Some half is written without the other one right behind it. -/
def hasLoneHalf : List (Option Nat) → Bool
  | some n :: some m :: rest =>
    if Text.Surrogate.isHigh n && Text.Surrogate.isLow m then hasLoneHalf rest
    else Text.Surrogate.isHigh n || Text.Surrogate.isLow n || hasLoneHalf (some m :: rest)
  | some n :: rest => Text.Surrogate.isHigh n || Text.Surrogate.isLow n || hasLoneHalf rest
  | none :: rest => hasLoneHalf rest
  | [] => false

/-- The text of a value writes a half of a pair on its own. -/
def writesHalf (cs : List Char) : Bool := hasLoneHalf (writtenCodes cs)

/-! ### Values with halves -/

mutual

/-- Why the first text with a half cannot be encoded, a name before its value. -/
def refusal? : Value → Option Text.Surrogate.Refusal
  | .text s => Text.Surrogate.refusal? s.toList
  | .list items => itemsRefusal? items
  | .object fields => fieldsRefusal? fields
  | _ => none

def itemsRefusal? : List Value → Option Text.Surrogate.Refusal
  | [] => none
  | v :: vs => (refusal? v).or (itemsRefusal? vs)

def fieldsRefusal? : List (String × Value) → Option Text.Surrogate.Refusal
  | [] => none
  | (name, v) :: rest => ((Text.Surrogate.refusal? name.toList).or (refusal? v)).or (fieldsRefusal? rest)

end

end CodeAtlas.Value
