import CodeAtlas.Text.Surrogate

/-! Encodings in units of two or four octets. -/

namespace CodeAtlas.Text.Wide

/-- Which octet of a unit comes first. -/
inductive Order where
  | greatestFirst
  | leastFirst
deriving DecidableEq, Repr

/-- The number that the octets of a unit stand for. -/
def Order.unit (o : Order) (octets : List UInt8) : Nat :=
  let ordered := match o with
    | .greatestFirst => octets
    | .leastFirst => octets.reverse
  ordered.foldl (fun n b => n * 256 + b.toNat) 0

/-- The units of two octets; nothing if an octet is left over. -/
def pairs? (o : Order) : List UInt8 → Option (List Nat)
  | a :: b :: rest => (pairs? o rest).map (o.unit [a, b] :: ·)
  | [] => some []
  | _ => none

/-- The units of four octets; nothing if octets are left over. -/
def quads? (o : Order) : List UInt8 → Option (List Nat)
  | a :: b :: c :: d :: rest => (quads? o rest).map (o.unit [a, b, c, d] :: ·)
  | [] => some []
  | _ => none

/-- The characters of units of two octets. Two halves make a character; a half on its own stays. -/
def joinPairs : List Nat → List Char
  | high :: low :: rest =>
    if Surrogate.isHigh high && Surrogate.isLow low then
      Char.ofNat (Surrogate.pair high low) :: joinPairs rest
    else Surrogate.charOf high :: joinPairs (low :: rest)
  | [n] => [Surrogate.charOf n]
  | [] => []

def decodePairs? (o : Order) (bytes : List UInt8) : Option (List Char) := (pairs? o bytes).map joinPairs

def decodeQuads? (o : Order) (bytes : List UInt8) : Option (List Char) :=
  (quads? o bytes).bind fun units =>
    if units.all (· < 0x110000) then some (units.map Surrogate.charOf) else none

end CodeAtlas.Text.Wide
