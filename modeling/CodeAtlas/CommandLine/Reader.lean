import CodeAtlas.CommandLine.Usage
import CodeAtlas.CommandLine.Word
import CodeAtlas.Text.Quoted

/-! Reading the words of a command line. The first plain word names a command, which all words after it
    belong to; a help option is answered as soon as it is met. After two dashes no word is an option. -/

namespace CodeAtlas.CommandLine

/-- What the program is told to do. -/
inductive Command where
  | prepare
  | index (path : Option String)
  | search (query : String)
  | ask (question : String)
deriving DecidableEq, Repr

/-- Why words make no command. -/
inductive Complaint where
  | unknownCommand (word : String)
  | missingOperand (name : String)
  | uselessAddition (rest : String)
  | unrecognized (words : List String)
deriving DecidableEq, Repr

def Complaint.message : Complaint → String
  | .unknownCommand word => "argument command: invalid choice: " ++ Text.quoted word ++ " (choose from " ++
      ", ".intercalate (offers.map fun o => Text.quoted o.name) ++ ")"
  | .missingOperand name => "the following arguments are required: " ++ name
  | .uselessAddition rest => "argument -h/--help: ignored explicit argument " ++ Text.quoted rest
  | .unrecognized words => "unrecognized arguments: " ++ " ".intercalate words

/-- What a command line turns out to be. Help and refusals come from the program itself or from one of
    its commands. -/
inductive Reading where
  | command (c : Command)
  | nothing
  | help (asked : Option Offer)
  | refused (from? : Option Offer) (complaint : Complaint)
deriving DecidableEq, Repr

/-! ### The words of a command -/

/-- The operand found so far, and the words that nobody asked for. -/
structure Found where
  operand : Option String := none
  extras : List String := []
deriving DecidableEq, Repr

/-- Why the words of a command are not read to their end. -/
inductive Stop where
  | help
  | addition (rest : String)
deriving DecidableEq, Repr

/-- The words after two dashes, which are dropped along with the operand that they make room for. -/
def Found.afterDashes (f : Found) (wanted : Bool) (words : List String) : Found :=
  if wanted && f.operand.isNone then
    match words with
    | [] => f
    | w :: rest => { operand := some w, extras := f.extras ++ rest }
  else { f with extras := f.extras ++ "--" :: words }

/-- Reads the words after a command's name; an operand is taken only if one is wanted. Two dashes right
    behind the operand are dropped. -/
def collect (wanted : Bool) : List String → Found → Except Stop Found
  | [], f => .ok f
  | "--" :: rest, f => .ok (f.afterDashes wanted rest)
  | w :: rest, f =>
    match look w with
    | .help => .error .help
    | .helpWith more => .error (.addition more)
    | .unknownOption => collect wanted rest { f with extras := f.extras ++ [w] }
    | .plain =>
      if wanted && f.operand.isNone then
        match rest with
        | "--" :: more => .ok { operand := some w, extras := f.extras ++ more }
        | _ => collect wanted rest { f with operand := some w }
      else collect wanted rest { f with extras := f.extras ++ [w] }

/-- The command of an offer with the operand found for it. -/
def Offer.command (o : Offer) (operand : Option String) : Except Complaint Command :=
  match o.operand, operand with
  | .required name, none => .error (.missingOperand name)
  | _, operand =>
    if o.name = "init" then .ok .prepare
    else if o.name = "index" then .ok (.index operand)
    else if o.name = "search" then .ok (.search (operand.getD ""))
    else .ok (.ask (operand.getD ""))

/-- Reads a command whose name has been found; `extras` are the options before it. -/
def Offer.read (o : Offer) (extras words : List String) : Reading :=
  match collect o.operand.takesWord words {} with
  | .error .help => .help (some o)
  | .error (.addition rest) => .refused (some o) (.uselessAddition rest)
  | .ok found =>
    match o.command found.operand, extras ++ found.extras with
    | .error complaint, _ => .refused (some o) complaint
    | .ok c, [] => .command c
    | .ok _, unasked => .refused none (.unrecognized unasked)

/-! ### The whole line -/

/-- Reads the words from the first one on that has not been met; `extras` are unknown options. -/
def readFrom (extras : List String) : List String → Reading
  | [] => if extras.isEmpty then .nothing else .refused none (.unrecognized extras)
  | ["--"] => .refused none (.unrecognized (extras ++ ["--"]))
  | w :: rest =>
    if w = "--" then .refused none (.unknownCommand w)
    else match look w with
      | .help => .help none
      | .helpWith more => .refused none (.uselessAddition more)
      | .unknownOption => readFrom (extras ++ [w]) rest
      | .plain => match offers.find? fun o => o.name == w with
        | none => .refused none (.unknownCommand w)
        | some o => o.read extras rest

def read (words : List String) : Reading := readFrom [] words

end CodeAtlas.CommandLine
