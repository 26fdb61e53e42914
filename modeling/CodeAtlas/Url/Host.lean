import CodeAtlas.Text.Blank
import CodeAtlas.Basic
import CodeAtlas.Url.Name

/-! Hosts: four octets with points between them, a long address in groups of hexadecimal digits, or a
    name of labels with points between them. -/

namespace CodeAtlas.Url

/-! ### Four octets -/

/-- An octet: up to three digits, without a zero in front of others. -/
def isOctet (cs : List Char) : Bool :=
  !cs.isEmpty && cs.all Char.isDigit && cs.length ≤ 3 && (cs.length = 1 || cs.head? != some '0') &&
    Text.natOfDigits cs ≤ 255

def isFourOctets (cs : List Char) : Bool :=
  let parts := Text.splitWhere (· == '.') cs
  parts.length = 4 && parts.all isOctet

/-- A host of digits, with `parts` characters of any kind between them, is meant as four octets when
    `parts` is three. -/
def looksParted : Nat → List Char → Bool
  | 0, cs => !cs.isEmpty && cs.all Char.isDigit
  | parts + 1, cs => (List.range cs.length).any fun k =>
    0 < k && (cs.take k).all Char.isDigit && looksParted parts (cs.drop (k + 1))

/-! ### Groups -/

def isGroup (cs : List Char) : Bool :=
  !cs.isEmpty && cs.length ≤ 4 && cs.all fun c => (Text.hexValue? c).isSome

/-- The groups on one side of a gap, where a lone empty part stands for none. -/
def sideGroups (parts : List (List Char)) : List (List Char) := if parts = [[]] then [] else parts

/-- Eight groups. One gap may stand for as many of them as are missing, at least one. -/
def isEightGroups (parts : List (List Char)) : Bool :=
  match (List.range parts.length).filter fun i => 0 < i && i + 1 < parts.length && parts[i]? = some [] with
  | [] => parts.length = 8 && parts.all isGroup
  | [i] =>
    let groups := sideGroups (parts.take i) ++ sideGroups (parts.drop (i + 1))
    groups.length ≤ 7 && groups.all isGroup
  | _ => false

/-- Four octets at the end count as two groups. -/
def withoutOctets (parts : List (List Char)) : Option (List (List Char)) :=
  match parts.getLast? with
  | some last =>
    if last.contains '.' then
      if isFourOctets last then some (parts.dropLast ++ [['0'], ['0']]) else none
    else some parts
  | none => some parts

/-- A long address, with an optional zone after a percent sign. -/
def isLongAddress (cs : List Char) : Bool :=
  let parts := Text.splitWhere (· == ':') (cs.takeWhile (· ≠ '%'))
  let zoneFits := match cs.dropWhile (· ≠ '%') with
    | [] => true
    | _ :: zone => !zone.isEmpty && !zone.contains '%' && !zone.contains '/'
  zoneFits && 3 ≤ parts.length && ((withoutOctets parts).map isEightGroups).getD false

/-! ### Faults -/

/-- Which of the forms of a host does not come out right. -/
inductive HostFault where
  | octets
  | groups
  | name
deriving DecidableEq, Repr

/-- What is wrong with a host, if anything is. Names in plain characters are taken as they are. -/
def hostFault? (cs : List Char) : Option HostFault :=
  if cs.isEmpty then none
  else if looksParted 3 cs then if isFourOctets cs then none else some .octets
  else if cs.head? = some '[' && 1 < cs.length && cs.getLast? = some ']' then
    if isLongAddress (cs.tail.dropLast) then none else some .groups
  else if cs.all fun c => c.toNat < 0x80 then none
  else if isName cs then none
  else some .name

end CodeAtlas.Url
