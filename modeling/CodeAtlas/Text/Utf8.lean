import CodeAtlas.Text.Quoted

/-! Octets as text. Strict UTF-8 refuses a text at the first octet that cannot go on with it, and the refusal
    names the longest stretch there that began like a character. In a text that is read from a file the line ends are
    unified, and in an address any octet may be written in digits. -/

namespace CodeAtlas.Text

namespace Utf8

/-- Why a stretch of octets is no character. -/
inductive Defect where
  | invalidStart
  | invalidContinuation
  | unexpectedEnd
deriving DecidableEq, Repr

/-- A refusal: what is wrong with the octets at positions `first` to `last`, the first of which is
    `octet`. -/
structure Refusal where
  defect : Defect
  first : Nat
  last : Nat
  octet : UInt8
deriving DecidableEq, Repr

def Defect.message : Defect → String
  | .invalidStart => "invalid start byte"
  | .invalidContinuation => "invalid continuation byte"
  | .unexpectedEnd => "unexpected end of data"

def Refusal.message (r : Refusal) : String :=
  let place :=
    if r.first = r.last then
      "byte 0x" ++ String.ofList (hexDigits 2 r.octet.toNat) ++ " in position " ++ toString r.first
    else "bytes in position " ++ toString r.first ++ "-" ++ toString r.last
  "'utf-8' codec can't decode " ++ place ++ ": " ++ r.defect.message

def encode (cs : List Char) : List UInt8 := cs.flatMap String.utf8EncodeChar

/-- A character under way: its first octet, the bits so far, how many octets were read and how many
    are still to come, and the bounds of the next one. -/
structure Pending where
  lead : UInt8
  bits : Nat
  seen : Nat
  left : Nat
  low : Nat
  high : Nat

/-- What an octet that may begin a character says about the rest of it: a second octet is narrowed so
    that no character has two encodings, none is a surrogate and none lies beyond U+10FFFF. -/
def begin? (b : UInt8) : Option Pending :=
  let n := b.toNat
  if 0xC2 ≤ n && n ≤ 0xDF then some ⟨b, n - 0xC0, 1, 1, 0x80, 0xBF⟩
  else if n = 0xE0 then some ⟨b, 0, 1, 2, 0xA0, 0xBF⟩
  else if n = 0xED then some ⟨b, 0xD, 1, 2, 0x80, 0x9F⟩
  else if 0xE1 ≤ n && n ≤ 0xEF then some ⟨b, n - 0xE0, 1, 2, 0x80, 0xBF⟩
  else if n = 0xF0 then some ⟨b, 0, 1, 3, 0x90, 0xBF⟩
  else if 0xF1 ≤ n && n ≤ 0xF3 then some ⟨b, n - 0xF0, 1, 3, 0x80, 0xBF⟩
  else if n = 0xF4 then some ⟨b, 4, 1, 3, 0x80, 0x8F⟩
  else none

/-- Reads on from position `at_` with the characters read so far in reverse order. -/
def decodeFrom (at_ : Nat) (read : List Char) : Option Pending → List UInt8 → Except Refusal (List Char)
  | none, [] => .ok read.reverse
  | some p, [] => .error ⟨.unexpectedEnd, at_ - p.seen, at_ - 1, p.lead⟩
  | none, b :: bs =>
    if b.toNat < 0x80 then decodeFrom (at_ + 1) (Char.ofNat b.toNat :: read) none bs
    else match begin? b with
      | none => .error ⟨.invalidStart, at_, at_, b⟩
      | some p => decodeFrom (at_ + 1) read (some p) bs
  | some p, b :: bs =>
    if p.low ≤ b.toNat && b.toNat ≤ p.high then
      let bits := p.bits * 64 + (b.toNat - 0x80)
      if p.left = 1 then decodeFrom (at_ + 1) (Char.ofNat bits :: read) none bs
      else decodeFrom (at_ + 1) read (some ⟨p.lead, bits, p.seen + 1, p.left - 1, 0x80, 0xBF⟩) bs
    else .error ⟨.invalidContinuation, at_ - p.seen, at_ - 1, p.lead⟩

def decode (bytes : List UInt8) : Except Refusal (List Char) := decodeFrom 0 [] none bytes

/-! ### Lenient reading -/

/-- Stands for a stretch that is no character. -/
def replacement : Char := '\uFFFD'

/-- What an octet at the start of a character makes known: a character at once, or one under way. -/
def enter (b : UInt8) : List Char × Option Pending :=
  if b.toNat < 0x80 then ([Char.ofNat b.toNat], none)
  else match begin? b with
    | none => ([replacement], none)
    | some p => ([], some p)

/-- What the next octet makes known. One that cannot go on with the character under way begins anew. -/
def advance (p : Option Pending) (b : UInt8) : List Char × Option Pending :=
  match p with
  | none => enter b
  | some p =>
    if p.low ≤ b.toNat && b.toNat ≤ p.high then
      let bits := p.bits * 64 + (b.toNat - 0x80)
      if p.left = 1 then ([Char.ofNat bits], none)
      else ([], some ⟨p.lead, bits, p.seen + 1, p.left - 1, 0x80, 0xBF⟩)
    else
      let (known, next) := enter b
      (replacement :: known, next)

def decodeLossyFrom : Option Pending → List UInt8 → List Char
  | none, [] => []
  | some _, [] => [replacement]
  | p, b :: bs =>
    let (known, next) := advance p b
    known ++ decodeLossyFrom next bs

/-- Reads octets as text, whatever they are: every stretch that is no character is replaced. -/
def decodeLossy (bytes : List UInt8) : List Char := decodeLossyFrom none bytes

end Utf8

/-! ### Line ends -/

/-- Reads the rest of a text onto the characters already read, which are in reverse order. -/
def unifyLineEndsOnto (read : List Char) : List Char → List Char
  | [] => read.reverse
  | '\r' :: '\n' :: cs => unifyLineEndsOnto ('\n' :: read) cs
  | '\r' :: cs => unifyLineEndsOnto ('\n' :: read) cs
  | c :: cs => unifyLineEndsOnto (c :: read) cs

/-- A carriage return, alone or before a line feed, is read as one line feed. -/
def unifyLineEnds (cs : List Char) : List Char := unifyLineEndsOnto [] cs

/-! ### Octets written in digits -/

/-- The octets that characters stand for. Any of them may stand as a percent sign with two hexadecimal digits, and a
    percent sign without two digits stands for itself. -/
def percentOctets : List Char → List UInt8
  | [] => []
  | '%' :: a :: b :: rest =>
    match hexValue? a, hexValue? b with
    | some x, some y => (x * 16 + y).toUInt8 :: percentOctets rest
    | _, _ => '%'.toUInt8 :: percentOctets (a :: b :: rest)
  | c :: rest => String.utf8EncodeChar c ++ percentOctets rest

def percentDecode (s : String) : String := String.ofList (Utf8.decodeLossy (percentOctets s.toList))

end CodeAtlas.Text
