import CodeAtlas.Failure
import CodeAtlas.Journal

/-! Which notes are shown. Every source of notes may have a level of its own; one without takes the
    level of the nearest source above it, up to the root. Sources are named along dots. -/

namespace CodeAtlas

namespace Text

/-- The capital letters that a character becomes, where they are plain Latin ones. -/
def capitals (c : Char) : List Char :=
  if 'a' ≤ c && c ≤ 'z' then [Char.ofNat (c.toNat - 32)]
  else match c.toNat with
    | 0xDF => ['S', 'S']
    | 0x131 => ['I']
    | 0x17F => ['S']
    | 0xFB00 => ['F', 'F']
    | 0xFB01 => ['F', 'I']
    | 0xFB02 => ['F', 'L']
    | 0xFB03 => ['F', 'F', 'I']
    | 0xFB04 => ['F', 'F', 'L']
    | 0xFB05 => ['S', 'T']
    | 0xFB06 => ['S', 'T']
    | _ => [c]

/-- A text in capitals, as far as they are plain Latin letters. -/
def capitalized (s : String) : String := String.ofList (s.toList.flatMap capitals)

end Text

namespace Logging

/-- What a word in capitals names: a level, or something that cannot be one. -/
inductive Named where
  | level (rank : Nat)
  | format (text : String)
  | styles (text : String)

/-- The texts of the format and of the styles that share their place with the level names. -/
def plainFormat : String := "%(levelname)s:%(name)s:%(message)s"

def stylesText : String :=
  "\x7b'%': (<class 'logging.PercentStyle'>, '%(levelname)s:%(name)s:%(message)s'), " ++
    "'\x7b': (<class 'logging.StrFormatStyle'>, '\x7blevelname\x7d:\x7bname\x7d:\x7bmessage\x7d'), " ++
    "'$': (<class 'logging.StringTemplateStyle'>, '$\x7blevelname\x7d:$\x7bname\x7d:$\x7bmessage\x7d')\x7d"

def names : List (String × Named) := [
  ("NOTSET", .level 0), ("DEBUG", .level 10), ("INFO", .level 20), ("WARN", .level 30),
  ("WARNING", .level 30), ("ERROR", .level 40), ("CRITICAL", .level 50), ("FATAL", .level 50),
  ("BASIC_FORMAT", .format plainFormat), ("_STYLES", .styles stylesText)]

/-- The level that a word names in whatever letter case; the level of information if it names none. -/
def levelOf (word : String) : Except Failure Nat :=
  match names.find? fun n => n.1 == Text.capitalized word with
  | none => .ok 20
  | some (_, .level rank) => .ok rank
  | some (_, .format text) => .error (.raised .valueError ("Unknown level: " ++ Text.quoted text))
  | some (_, .styles text) =>
    .error (.raised .typeError ("Level not an integer or a valid string: " ++ text))

/-- The levels that sources have of their own, and how many outlets the root has. -/
structure Setup where
  root : Nat := 0
  own : List (String × Nat) := []
  outlets : Nat := 0
deriving DecidableEq, Repr

/-- These name the root. -/
def isRoot (source : String) : Bool := source = "" || source = "root"

/-- These sources say too much. -/
def noisySources : List String := ["httpx", "httpcore", "openai"]

namespace Setup

/-- The level a source has of its own, 0 where it has none. -/
def ownLevel (s : Setup) (source : String) : Nat :=
  if isRoot source then s.root
  else ((s.own.find? fun o => o.1 == source).map (·.2)).getD 0

def setLevel (s : Setup) (source : String) (rank : Nat) : Setup :=
  if isRoot source then { s with root := rank }
  else { s with own := (source, rank) :: s.own.filter fun o => o.1 != source }

/-- Gives sources the levels that words name for them, up to the first that names no level. -/
def setLevels (s : Setup) : List (String × String) → Except Failure Unit × Setup
  | [] => (.ok (), s)
  | (source, word) :: rest => match levelOf word with
    | .error f => (.error f, s)
    | .ok rank => (s.setLevel source rank).setLevels rest

/-- Sets the root's level, leaves it with one outlet, quiets the noisy sources, and then sets the levels
    of single sources. -/
def configure (s : Setup) (word : String) (overrides : List (String × String)) :
    Except Failure Unit × Setup :=
  match levelOf word with
  | .error f => (.error f, s)
  | .ok rank =>
    let s := { s with root := rank, outlets := 1 }
    let s := noisySources.foldl (fun s source => s.setLevel source Level.warning.rank) s
    s.setLevels overrides

/-- Why arguments in order and by name are none of `configure`: a name that it does not know, a level
    both ways, or more than one argument in order. -/
def argumentFault? (inOrder : List Value) (named : Value.Fields) : Option Failure :=
  let byName := named.findSome? fun f =>
    if f.1 = "level" then if inOrder.isEmpty then none else some "got multiple values for argument 'level'"
    else if f.1 = "logger_levels" then none
    else some ("got an unexpected keyword argument " ++ Text.quoted f.1)
  let given := toString inOrder.length
  let tooMany :=
    if inOrder.length ≤ 1 then none
    else some ("takes from 0 to 1 positional arguments but " ++ given ++
      (if (Value.Fields.get? named "logger_levels").isSome then
        " positional arguments (and 1 keyword-only argument) were given" else " were given"))
  (byName.or tooMany).map fun text => .raised .typeError ("configure_logging() " ++ text)

/-- The words for levels of single sources, up to the first that is no text. -/
def overridesOf : Value.Fields → List (String × String) × Option Misuse
  | [] => ([], none)
  | (source, .text word) :: rest =>
    let (words, fault) := overridesOf rest
    ((source, word) :: words, fault)
  | (_, v) :: _ => ([], some (.operation v.typeName "upper"))

/-- Configures by arguments of any type, in order and by name. -/
def configureBy (s : Setup) (inOrder : List Value) (named : Value.Fields) : Except Failure Setup :=
  match argumentFault? inOrder named with
  | some f => .error f
  | none =>
    let level := (inOrder.head?.or (Value.Fields.get? named "level")).getD (.text "INFO")
    let given := (Value.Fields.get? named "logger_levels").getD .null
    let (overrides, fault) := match given with
      | .object fields => overridesOf fields
      | v => ([], if v.isEmptyLike then none else some (.operation v.typeName "items"))
    match level with
    | .text word => match s.configure word overrides, fault with
      | (.error f, _), _ => .error f
      | (.ok (), _), some fault => .error (.misuse fault)
      | (.ok (), s), none => .ok s
    | v => .error (.misuse (.operation v.typeName "upper"))

/-- What stands before the last dot of a name; nothing where there is none. -/
def beforeDot (name : List Char) : List Char := (name.reverse.dropWhile (· ≠ '.')).tail.reverse

/-- The names above a name, nearest first. The character before a dot is passed over in the search for
    the next one, so that of two neighbouring dots only the latter counts. -/
def namesAbove : Nat → List Char → List (List Char)
  | 0, _ => []
  | fuel + 1, name =>
    let above := beforeDot name
    if above.isEmpty then [] else above :: namesAbove fuel above.dropLast

/-- The nearest source above one that has been given a level, be it none. -/
def above? (s : Setup) (source : String) : Option String :=
  ((namesAbove source.length source.toList).map String.ofList).find? fun name =>
    s.own.any fun o => o.1 == name

/-- The level that counts for a source, looked for in at most so many sources above it. -/
def effectiveWithin (s : Setup) : Nat → String → Nat
  | 0, _ => s.root
  | fuel + 1, source =>
    if isRoot source then s.root
    else
      let rank := s.ownLevel source
      if rank = 0 then ((s.above? source).map (effectiveWithin s fuel)).getD s.root else rank

/-- The level that counts for a source. Every name above it is shorter. -/
def effective (s : Setup) (source : String) : Nat := s.effectiveWithin (source.length + 1) source

def rankName (rank : Nat) : String :=
  if rank = 0 then "NOTSET" else if rank = 10 then "DEBUG" else if rank = 20 then "INFO"
  else if rank = 30 then "WARNING" else if rank = 40 then "ERROR" else if rank = 50 then "CRITICAL"
  else "Level " ++ toString rank

/-- The line that is shown of a note of the given rank, if it is shown. A note without a rank never is. -/
def line? (s : Setup) (time source : String) (rank : Nat) (text : String) : Option String :=
  if s.outlets = 0 || rank = 0 || rank < s.effective source then none
  else some (time ++ " " ++ rankName rank ++ " [" ++ (if isRoot source then "root" else source) ++ "] " ++
    text ++ "\n")

/-- Everything that is shown of some notes. -/
def output (s : Setup) (time : String) (notes : List Note) : String :=
  String.join (notes.filterMap fun n => s.line? time n.source n.level.rank n.text)

end Setup

end Logging

end CodeAtlas
