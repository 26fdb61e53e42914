import CodeAtlas.Basic
import CodeAtlas.Text.Case
import CodeAtlas.Text.Punycode
import CodeAtlas.Text.Token
import CodeAtlas.Url.NameTable

/-! Names of hosts in any script: labels with stops between them. A label has one spelling, which is in
    lower case, and a written form in plain characters. -/

namespace CodeAtlas.Url

/-! ### Characters -/

def isBetween (low high : Nat) (c : Char) : Bool := low ≤ c.toNat && c.toNat ≤ high

def isMark (c : Char) : Bool := markSet.contains c

/-- Characters that go into a label wherever they stand. -/
def isLabelChar (c : Char) : Bool :=
  if c.toNat < 0x80 then c == '-' || c.isDigit || ('a' ≤ c && c ≤ 'z')
  else c == '\u06FD' || c == '\u06FE' || c == '\u0F0B' || isMark c ||
    (Text.isWord c && Text.lowerChars [c] == [c] && !respelledSet.contains c)

/-- Digits that must not stand together with those of the other kind. -/
def isWestArabicDigit (c : Char) : Bool := isBetween 0x660 0x669 c

def isEastArabicDigit (c : Char) : Bool := isBetween 0x6F0 0x6F9 c

def isGreek (c : Char) : Bool := isBetween 0x370 0x3FF c || isBetween 0x1F00 0x1FFF c

def isHebrew (c : Char) : Bool := isBetween 0x591 0x5F4 c

/-- Syllables of Japanese, and characters of Chinese. -/
def isEastAsian (c : Char) : Bool :=
  isBetween 0x3041 0x3096 c || isBetween 0x309D 0x309F c || isBetween 0x30A1 0x30FA c ||
    isBetween 0x30FD 0x30FF c || isBetween 0x31F0 0x31FF c || isBetween 0x3005 0x3007 c ||
    isBetween 0x3400 0x4DBF c || isBetween 0x4E00 0x9FFF c || isBetween 0x20000 0x323AF c

/-- Marks that take the vowel from the character before them. -/
def isVirama (c : Char) : Bool :=
  [0x94D, 0x9CD, 0xA4D, 0xACD, 0xB4D, 0xBCD, 0xC4D, 0xCCD, 0xD3B, 0xD3C, 0xD4D, 0xDCA, 0xE3A, 0xEBA,
    0xF84, 0x1039, 0x103A, 0x1714, 0x1715, 0x1734, 0x17D2, 0x1A60, 0x1B44, 0x1BAA, 0x1BAB, 0x1BF2,
    0x1BF3, 0x2D7F, 0xA806, 0xA82C, 0xA8C4, 0xA953, 0xA9C0, 0xAAF6, 0xABED].contains c.toNat

/-- Letters that join the letters on either side of them. -/
def joins (c : Char) : Bool := isBetween 0x620 0x64A c || isBetween 0x66E 0x6D3 c

/-- A character may stand between those `before` it, the nearest first, and those `after` it. -/
def fits (before after : List Char) (c : Char) : Bool :=
  let near := fun (p : Char → Bool) (cs : List Char) => (cs.head?.map p).getD false
  if isLabelChar c then true
  else if c == '\u200D' then near isVirama before
  else if c == '\u200C' then near isVirama before || (near joins before && near joins after)
  else if c == '\u00B7' then near (· == 'l') before && near (· == 'l') after
  else if c == '\u0375' then near isGreek after
  else if c == '\u05F3' || c == '\u05F4' then near isHebrew before
  else if c == '\u30FB' then before.any isEastAsian || after.any isEastAsian
  else if isWestArabicDigit c then !before.any isEastArabicDigit && !after.any isEastArabicDigit
  else if isEastArabicDigit c then !before.any isWestArabicDigit && !after.any isWestArabicDigit
  else false

def allFit (before : List Char) : List Char → Bool
  | [] => true
  | c :: after => fits before after c && allFit (c :: before) after

/-! ### Directions -/

/-- Digits that run with letters written from right to left. -/
def isLeftwardDigit (c : Char) : Bool := isWestArabicDigit c || isBetween 0x10D30 0x10D39 c

/-- Digits that run from left to right among letters of any direction. -/
def isRightwardDigit (c : Char) : Bool := c.isDigit || isEastArabicDigit c

def isLeftward (c : Char) : Bool :=
  leftwardSet.contains c && !isMark c && !isLeftwardDigit c && !isRightwardDigit c

/-- A label with characters from right to left begins with such a letter, has no letter of the other
    direction, ends in a letter or a digit, and has digits of one kind only. -/
def keepsDirection (cs : List Char) : Bool :=
  if cs.any fun c => isLeftward c || isLeftwardDigit c then
    (cs.head?.map isLeftward).getD false &&
      cs.all (fun c => isLeftward c || isLeftwardDigit c || isRightwardDigit c || isMark c || c == '-') &&
      ((cs.reverse.find? fun c => !isMark c).map (· != '-')).getD false &&
      !(cs.any isLeftwardDigit && cs.any isRightwardDigit)
  else true

/-! ### Labels -/

/-- No two neighbours make one character together. -/
def isComposed : List Char → Bool
  | a :: b :: rest =>
    !(compositions.any fun m => m.1 == b.toNat && m.2.contains a.toNat) && isComposed (b :: rest)
  | _ => true

/-- A label as it is spelled: hyphens stand neither at its ends nor side by side after its first two
    characters, and it does not begin with a mark. -/
def isSpelled (cs : List Char) : Bool :=
  !cs.isEmpty && allFit [] cs && isComposed cs && keepsDirection cs && !(cs.head?.map isMark).getD false &&
    cs.head? != some '-' && cs.getLast? != some '-' && (cs.drop 2).take 2 != ['-', '-']

/-- What plain characters that stand for others begin with. -/
def writtenMark : List Char := ['x', 'n', '-', '-']

/-- The written form of a label, if it is one: in plain characters, and not too long. -/
def writtenLabel? (cs : List Char) : Option (List Char) :=
  let written :=
    if cs.all Text.Punycode.isPlain then
      if writtenMark.isPrefixOf cs then
        let rest := cs.drop writtenMark.length
        if rest.isEmpty || rest.getLast? == some '-' then none
        else (Text.Punycode.decode? rest).bind fun spelled => if isSpelled spelled then some cs else none
      else if isSpelled cs then some cs else none
    else if isSpelled cs then some (writtenMark ++ Text.Punycode.encode cs) else none
  written.filter fun form => form.length ≤ 63

/-- The full stops of other scripts part labels as well. -/
def isStop (c : Char) : Bool := c == '.' || c == '\u3002' || c == '\uFF0E' || c == '\uFF61'

/-- Labels, the last of which may be followed by a stop; all together they must not be too long. -/
def isName (cs : List Char) : Bool :=
  let labels := Text.splitWhere isStop (Text.lowerChars cs)
  let labels := if labels.getLast? = some [] then labels.dropLast else labels
  match labels.mapM writtenLabel? with
  | none => false
  | some forms => !forms.isEmpty && (forms.map List.length).sum + (forms.length - 1) ≤ 253

end CodeAtlas.Url
