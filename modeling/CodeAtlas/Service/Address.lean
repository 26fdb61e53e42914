import CodeAtlas.Text.Blank
import CodeAtlas.Text.Utf8

/-! Addresses of requests: a path, and named parameters after a question mark. In the text of an
    address any octet may stand as a percent sign with two hexadecimal digits. -/

namespace CodeAtlas.Service

/-! ### Parameters -/

/-- What a name or a value among the parameters stands for; a plus sign is a space there. -/
def parameterText (cs : List Char) : String :=
  Text.percentDecode (String.ofList (cs.map fun c => if c = '+' then ' ' else c))

/-- A parameter: a name, and whatever follows its first equals sign. -/
def parameter (cs : List Char) : String × String :=
  (parameterText (cs.takeWhile (· ≠ '=')), parameterText ((cs.dropWhile (· ≠ '=')).drop 1))

/-- The parameters between the ampersands. -/
def parameters (cs : List Char) : List (String × String) :=
  ((Text.splitWhere (· == '&') cs).filter fun part => !part.isEmpty).map parameter

structure Address where
  path : String
  parameters : List (String × String) := []
deriving DecidableEq, Repr

namespace Address

def ofText (s : String) : Address where
  path := Text.percentDecode (String.ofList (s.toList.takeWhile (· ≠ '?')))
  parameters := Service.parameters ((s.toList.dropWhile (· ≠ '?')).drop 1)

/-- The value of a parameter; the last of equal names counts. -/
def parameter? (a : Address) (name : String) : Option String :=
  (a.parameters.reverse.find? fun p => p.1 == name).map (·.2)

end Address

end CodeAtlas.Service
