import CodeAtlas.Decimal.Double
import CodeAtlas.Basic
import CodeAtlas.Text.Surrogate
import CodeAtlas.Value.Basic

/-! Reading a value from its text. The reader works through a list of characters; a refusal tells how
    many of them were left, so that its place follows from the length of the whole. -/

namespace CodeAtlas.Value.Reader

/-- What a text lacks to be a value. -/
inductive Complaint where
  | expectingValue
  | expectingName
  | expectingColon
  | expectingComma
  | extraData
  | unterminatedText
  | invalidControl
  | invalidEscape
  | invalidCode
  | tooManyDigits (count : Nat)
  | tooDeep
deriving DecidableEq, Repr

def Complaint.message : Complaint → String
  | .expectingValue => "Expecting value"
  | .expectingName => "Expecting property name enclosed in double quotes"
  | .expectingColon => "Expecting ':' delimiter"
  | .expectingComma => "Expecting ',' delimiter"
  | .extraData => "Extra data"
  | .unterminatedText => "Unterminated string starting at"
  | .invalidControl => "Invalid control character at"
  | .invalidEscape => "Invalid \\escape"
  | .invalidCode => "Invalid \\uXXXX escape"
  | .tooManyDigits n =>
    "Exceeds the limit (4300 digits) for integer string conversion: value has " ++ toString n ++
      " digits; use sys.set_int_max_str_digits() to increase the limit"
  | .tooDeep => "maximum recursion depth exceeded"

/-- A complaint with the number of characters from its place to the end. -/
structure Refusal where
  complaint : Complaint
  left : Nat
deriving DecidableEq, Repr

/-- Something read, and the characters after it. -/
abbrev Result (α : Type) := Except Refusal (α × List Char)

def refuse {α : Type} (complaint : Complaint) (rest : List Char) : Except Refusal α :=
  .error ⟨complaint, rest.length⟩

def isSpace (c : Char) : Bool := c == ' ' || c == '\t' || c == '\n' || c == '\r'

def skipSpace (cs : List Char) : List Char := cs.dropWhile isSpace

/-! ### Numbers -/

/-- The longest run of digits, and what follows it. -/
def digits (cs : List Char) : List Char × List Char := (cs.takeWhile Char.isDigit, cs.dropWhile Char.isDigit)

/-- The digits after a point, when there is a point with at least one digit. -/
def fraction? : List Char → Option (List Char × List Char)
  | '.' :: cs => match digits cs with
    | ([], _) => none
    | found => some found
  | _ => none

/-- An exponent with its sign, when there is a letter with at least one digit. -/
def exponent? : List Char → Option (Int × List Char)
  | c :: cs =>
    if c = 'e' || c = 'E' then
      let (negative, unsigned) := match cs with
        | '+' :: r => (false, r)
        | '-' :: r => (true, r)
        | r => (false, r)
      match digits unsigned with
      | ([], _) => none
      | (ds, rest) => some (if negative then -(Text.natOfDigits ds : Int) else Text.natOfDigits ds, rest)
    else none
  | [] => none

/-- Integers longer than this are refused. -/
def digitLimit : Nat := 4300

/-- A number from its first digit on. A point or an exponent without digits is not part of it. -/
def number (negative : Bool) (cs : List Char) : Result Value :=
  let (whole, rest) := match cs with
    | '0' :: r => (['0'], r)
    | _ => digits cs
  if whole.isEmpty then refuse .expectingValue cs
  else
    let fraction := fraction? rest
    let afterFraction := (fraction.map (·.2)).getD rest
    let exponent := exponent? afterFraction
    let after := (exponent.map (·.2)).getD afterFraction
    if fraction.isNone && exponent.isNone then
      if digitLimit < whole.length then refuse (.tooManyDigits whole.length) cs
      else
        let n : Int := Text.natOfDigits whole
        .ok (.int (if negative then -n else n), after)
    else
      let decimals := (fraction.map (·.1)).getD []
      let power : Int := (exponent.map (·.1)).getD 0 - decimals.length
      .ok (.real (Decimal.nearestFloat negative (Text.natOfDigits (whole ++ decimals)) power), after)

/-! ### Texts -/

/-- The code of exactly four hexadecimal digits that are not the last characters. -/
def code? : List Char → Option (Nat × List Char)
  | a :: b :: c :: d :: e :: rest => do
    let a ← Text.hexValue? a
    let b ← Text.hexValue? b
    let c ← Text.hexValue? c
    let d ← Text.hexValue? d
    pure (((a * 16 + b) * 16 + c) * 16 + d, e :: rest)
  | _ => none

/-- The character that the single letter after a backslash stands for. -/
def escaped? : Char → Option Char
  | '"' => some '"'
  | '\\' => some '\\'
  | '/' => some '/'
  | 'b' => some '\x08'
  | 'f' => some '\x0c'
  | 'n' => some '\n'
  | 'r' => some '\r'
  | 't' => some '\t'
  | _ => none

/-- Reads a text after its opening quote onto the characters read so far, in reverse order; `whole`
    begins at the opening quote. A pair of surrogate codes is one character. -/
def textOnto (whole : List Char) : Nat → List Char → List Char → Result String
  | 0, _, _ => refuse .unterminatedText whole
  | _ + 1, _, [] => refuse .unterminatedText whole
  | fuel + 1, read, c :: cs =>
    if c = '"' then .ok (String.ofList read.reverse, cs)
    else if c = '\\' then
      match cs with
      | [] => refuse .unterminatedText whole
      | 'u' :: more =>
        match code? more with
        | none => refuse .invalidCode cs
        | some (high, rest) =>
          match Text.Surrogate.isHigh high, rest with
          | true, '\\' :: 'u' :: more' =>
            if more'.length < 5 then textOnto whole fuel (Text.Surrogate.charOf high :: read) rest
            else match code? more' with
              | none => refuse .invalidCode ('u' :: more')
              | some (low, rest') =>
                if Text.Surrogate.isLow low then
                  textOnto whole fuel (Char.ofNat (Text.Surrogate.pair high low) :: read) rest'
                else textOnto whole fuel (Text.Surrogate.charOf high :: read) rest
          | _, _ => textOnto whole fuel (Text.Surrogate.charOf high :: read) rest
      | e :: more =>
        match escaped? e with
        | none => refuse .invalidEscape (c :: cs)
        | some x => textOnto whole fuel (x :: read) more
    else if c.toNat < 0x20 then refuse .invalidControl (c :: cs)
    else textOnto whole fuel (c :: read) cs

/-- A text from its opening quote on. -/
def text (cs : List Char) : Result String := textOnto cs (cs.length + 1) [] cs.tail

/-! ### Values -/

/-- The words that stand for a value. -/
def word? (cs : List Char) : Option (Value × List Char) :=
  let words : List (String × Value) :=
    [("null", .null), ("true", .bool true), ("false", .bool false),
      ("NaN", .real (0.0 / 0.0)), ("Infinity", .real (1.0 / 0.0)), ("-Infinity", .real (-1.0 / 0.0))]
  words.findSome? fun w =>
    if w.1.toList.isPrefixOf cs then some (w.2, cs.drop w.1.length) else none

mutual

/-- A value at the start of the characters, with no space before it. Lists and objects stand within each
    other at most `depth` deep. -/
def value (depth : Nat) : Nat → List Char → Result Value
  | 0, cs => refuse .expectingValue cs
  | fuel + 1, cs =>
    match cs with
    | '"' :: _ => (text cs).map fun r => (.text r.1, r.2)
    | '[' :: rest =>
      if depth = 0 then refuse .tooDeep cs
      else match skipSpace rest with
        | ']' :: after => .ok (.list [], after)
        | items => (listItems (depth - 1) fuel [] items).map fun r => (.list r.1, r.2)
    | '{' :: rest =>
      if depth = 0 then refuse .tooDeep cs
      else match skipSpace rest with
        | '}' :: after => .ok (.object [], after)
        | fields =>
          (objectFields (depth - 1) fuel [] fields).map fun r => (.object (Fields.ofPairs r.1), r.2)
    | _ =>
      match word? cs with
      | some found => .ok found
      | none => match cs with
        | '-' :: rest =>
          if (rest.head?.map Char.isDigit).getD false then number true rest else refuse .expectingValue cs
        | _ => number false cs

/-- The items of a list up to its closing bracket, onto those read so far in reverse order. -/
def listItems (depth : Nat) : Nat → List Value → List Char → Result (List Value)
  | 0, _, cs => refuse .expectingValue cs
  | fuel + 1, read, cs =>
    match value depth fuel cs with
    | .error e => .error e
    | .ok (v, rest) =>
      match skipSpace rest with
      | ']' :: after => .ok ((v :: read).reverse, after)
      | ',' :: more => listItems depth fuel (v :: read) (skipSpace more)
      | other => refuse .expectingComma other

/-- The fields of an object up to its closing brace, onto those read so far in reverse order. -/
def objectFields (depth : Nat) : Nat → List (String × Value) → List Char → Result (List (String × Value))
  | 0, _, cs => refuse .expectingName cs
  | fuel + 1, read, cs =>
    match cs with
    | '"' :: _ =>
      match text cs with
      | .error e => .error e
      | .ok (name, afterName) =>
        match skipSpace afterName with
        | ':' :: afterColon =>
          match value depth fuel (skipSpace afterColon) with
          | .error e => .error e
          | .ok (v, rest) =>
            match skipSpace rest with
            | '}' :: after => .ok (((name, v) :: read).reverse, after)
            | ',' :: more => objectFields depth fuel ((name, v) :: read) (skipSpace more)
            | other => refuse .expectingComma other
        | other => refuse .expectingColon other
    | _ => refuse .expectingName cs

end

end CodeAtlas.Value.Reader

namespace CodeAtlas.Value

/-- Why a text is no value, and the position where that shows. -/
structure Malformed where
  complaint : Reader.Complaint
  position : Nat
deriving DecidableEq, Repr

/-- The value of a text: one value with nothing but space around it. Every list and every item takes a
    step, and each of them has at least a character. -/
def readWithin (depth : Nat) (cs : List Char) : Except Malformed Value :=
  let place := fun (r : Reader.Refusal) => Malformed.mk r.complaint (cs.length - r.left)
  match Reader.value depth (2 * cs.length + 2) (Reader.skipSpace cs) with
  | .error r => .error (place r)
  | .ok (v, rest) => match Reader.skipSpace rest with
    | [] => .ok v
    | extra => .error (place ⟨.extraData, extra.length⟩)

/-- The value of a text, however deep. -/
def read (s : String) : Except Malformed Value := readWithin s.length s.toList

end CodeAtlas.Value
