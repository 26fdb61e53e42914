/-! What the commands are, and how their use is explained. -/

namespace CodeAtlas.CommandLine

/-- What may follow the name of a command. -/
inductive Operand where
  | none
  | optional (name help : String)
  | required (name : String)
deriving DecidableEq, Repr

/-- A command as it is offered. -/
structure Offer where
  name : String
  summary : String
  operand : Operand := .none
deriving DecidableEq, Repr

def program : String := "repomap"

def about : String := "Command line entrypoint: `repomap <command>`."

def offers : List Offer := [
  { name := "init", summary := "Initialize the database" },
  { name := "index", summary := "Index a codebase with the configured model"
    operand := .optional "path" "Directory to index (defaults to REPOMAP_DATA_DIR)" },
  { name := "search", summary := "Run a search and print ranked file ids", operand := .required "query" },
  { name := "ask", summary := "Answer a question with the tool-calling agent"
    operand := .required "question" }]

/-- The names of the commands as one of them is to be chosen. -/
def choice : String := "\x7b" ++ ",".intercalate (offers.map (·.name)) ++ "\x7d"

/-! ### Usage -/

namespace Operand

/-- How the operand stands in the usage; an optional one is bracketed. -/
def usage : Operand → String
  | none => ""
  | optional name _ => " [" ++ name ++ "]"
  | required name => " " ++ name

def takesWord : Operand → Bool
  | none => false
  | _ => true

end Operand

def usage : String := "usage: " ++ program ++ " [-h] " ++ choice ++ " ...\n"

/-- The name under which a command speaks. -/
def Offer.title (o : Offer) : String := program ++ " " ++ o.name

def Offer.usage (o : Offer) : String := "usage: " ++ o.title ++ " [-h]" ++ o.operand.usage ++ "\n"

/-! ### Help -/

/-- A line of help: an indented name, and what there is to say about it. -/
structure Entry where
  indent : Nat := 2
  name : String
  text : String := ""

namespace Entry

def head (e : Entry) : String := String.ofList (List.replicate e.indent ' ') ++ e.name

/-- The entry with its text in a column of its own; a name that is too long has a line of its own. -/
def render (column : Nat) (e : Entry) : String :=
  if e.text.isEmpty then e.head ++ "\n"
  else if e.head.length + 2 ≤ column then
    e.head ++ String.ofList (List.replicate (column - e.head.length) ' ') ++ e.text ++ "\n"
  else e.head ++ "\n" ++ String.ofList (List.replicate column ' ') ++ e.text ++ "\n"

end Entry

/-- The column of the texts: two places after the longest name, but never far to the right. -/
def column (entries : List Entry) : Nat :=
  min 24 ((entries.map fun e => e.head.length + 2).foldl max 0)

def helpEntry : Entry := { name := "-h, --help", text := "show this help message and exit" }

/-- Help: the usage, a word about the program, and a section of entries for each title. -/
def renderHelp (usage about : String) (sections : List (String × List Entry)) : String :=
  let column := column (sections.flatMap (·.2))
  let parts := sections.map fun (title, entries) =>
    "\n" ++ title ++ ":\n" ++ String.join (entries.map (Entry.render column))
  usage ++ (if about.isEmpty then "" else "\n" ++ about ++ "\n") ++ String.join parts

def help : String :=
  renderHelp usage about [
    ("positional arguments",
      { name := choice } :: offers.map fun o => { indent := 4, name := o.name, text := o.summary }),
    ("options", [helpEntry])]

def Operand.sections : Operand → List (String × List Entry)
  | .none => []
  | .optional name help => [("positional arguments", [{ name, text := help }])]
  | .required name => [("positional arguments", [{ name }])]

def Offer.help (o : Offer) : String :=
  renderHelp o.usage "" (o.operand.sections ++ [("options", [helpEntry])])

end CodeAtlas.CommandLine
