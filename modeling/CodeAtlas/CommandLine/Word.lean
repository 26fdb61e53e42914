import CodeAtlas.Text.DigitTable

/-! The words of a command line by their looks: which ones name something, and which ones are options. -/

namespace CodeAtlas.CommandLine

/-- What a word looks like. The only option there is asks for help. -/
inductive Look where
  /-- A word that is no option: it may name a command, or stand for itself. -/
  | plain
  | help
  /-- Help is asked for together with something else, which help has no use for. -/
  | helpWith (rest : String)
  | unknownOption
deriving DecidableEq, Repr

/-- The long spelling of the option; the short one is a dash and an `h`. -/
def longHelp : String := "--help"

/-- A minus sign and a number: digits, or a point with digits after it. One line end may follow. -/
def isNegativeNumber (cs : List Char) : Bool :=
  match cs with
  | '-' :: number =>
    let isNumber := fun (ds : List Char) =>
      match ds.dropWhile Text.isDecimalDigit with
      | [] => !ds.isEmpty
      | '.' :: decimals => !decimals.isEmpty && decimals.all Text.isDecimalDigit
      | _ => false
    isNumber number || (number.getLast? == some '\n' && isNumber number.dropLast)
  | _ => false

/-- What stands before the first equals sign, and what stands after it. -/
def splitAtEquals (cs : List Char) : Option (List Char × List Char) :=
  match cs.dropWhile (· ≠ '=') with
  | [] => none
  | _ :: after => some (cs.takeWhile (· ≠ '='), after)

/-- What stands right behind the letter that asks for help: it may be asked for again, but nothing else
    may stand there. -/
def afterHelp : List Char → Look
  | ['h'] => .help
  | 'h' :: rest => afterHelp rest
  | rest => .helpWith (String.ofList rest)

/-- The letters after one dash, the first of which asks for help. An equals sign may part it from the
    others. -/
def letterLook : List Char → Look
  | 'h' :: '=' :: rest => afterHelp rest
  | letters => afterHelp letters

/-- A word that starts with two dashes; of the long spelling any beginning will do. -/
def longLook (cs : List Char) : Look :=
  let (name, value) := match splitAtEquals cs with
    | none => (cs, none)
    | some (name, value) => (name, some (String.ofList value))
  if name.isPrefixOf longHelp.toList then
    match value with
    | none => .help
    | some value => .helpWith value
  else if cs.contains ' ' then .plain
  else .unknownOption

/-- A word that starts with one dash. -/
def shortLook (cs : List Char) : Look :=
  if ['-', 'h'].isPrefixOf cs then letterLook cs.tail
  else if isNegativeNumber cs || cs.contains ' ' then .plain
  else .unknownOption

def look (word : String) : Look :=
  match word.toList with
  | '-' :: '-' :: rest => longLook ('-' :: '-' :: rest)
  | '-' :: c :: rest => shortLook ('-' :: c :: rest)
  | _ => .plain

end CodeAtlas.CommandLine
