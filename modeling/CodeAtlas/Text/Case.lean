import CodeAtlas.Text.CaseTable

/-! Lower case of a whole text. One character has one lower-case form, with two exceptions: the dotted
    capital I becomes two characters, and the capital sigma becomes a final sigma at the end of a
    word and a plain one elsewhere. -/

namespace CodeAtlas.Text

def isCased (c : Char) : Bool := casedSet.contains c

def isCaseIgnorable (c : Char) : Bool := caseIgnorableSet.contains c

/-- Where the code `n` goes in lower case; the stretches ascend, so one above `n` ends the search. -/
def shiftedCode : List CaseShift → Nat → Nat
  | [], n => n
  | r :: rest, n =>
    if n < r.first then n
    else if r.covers n then (n + r.shift).toNat
    else shiftedCode rest n

/-- The lower-case form of a character that has one of a single character. -/
def lowerChar (c : Char) : Char := Char.ofNat (shiftedCode lowerShifts c.toNat)

def capitalSigma : Char := 'Σ'

def dottedCapitalI : Char := 'İ'

/-- The first character that is not ignorable is cased: a sigma before it does not end a word. -/
def startsCased : List Char → Bool
  | [] => false
  | c :: cs => if isCaseIgnorable c then startsCased cs else isCased c

/-- What is known of the characters read so far once `c` is read too: `cased` says whether the last
    one that is not ignorable is cased. -/
def casedAfter (cased : Bool) (c : Char) : Bool :=
  if isCaseIgnorable c then cased else isCased c

/-- The lower-case form of `c` between what is known of the text before it and the text after. -/
def lowerInContext (cased : Bool) (c : Char) (after : List Char) : List Char :=
  if c = capitalSigma then [if cased && !startsCased after then 'ς' else 'σ']
  else if c = dottedCapitalI then ['i', '\u0307']
  else [lowerChar c]

def lowerFrom (cased : Bool) : List Char → List Char
  | [] => []
  | c :: cs => lowerInContext cased c cs ++ lowerFrom (casedAfter cased c) cs

/-- Nothing stands before a text, so nothing cased does. -/
def lowerChars (cs : List Char) : List Char := lowerFrom false cs

def lower (s : String) : String := String.ofList (lowerChars s.toList)

/-- `part` occurs in `whole` as a stretch of neighbouring characters. -/
def occursIn (part whole : List Char) : Bool :=
  match whole with
  | [] => part.isEmpty
  | c :: cs => part.isPrefixOf (c :: cs) || occursIn part cs

end CodeAtlas.Text
