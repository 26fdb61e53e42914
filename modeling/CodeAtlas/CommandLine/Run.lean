import CodeAtlas.CommandLine.Reader
import CodeAtlas.Logging
import CodeAtlas.Options
import CodeAtlas.Session
import CodeAtlas.Settings.Basic

/-! Running a command line: the words are read, the settings are loaded, the store is opened, and the
    command does its work. Failures that are foreseen end a run with a note and a code of their own. -/

namespace CodeAtlas.CommandLine

/-- How a run ended: with a code for the caller, or in a failure that nobody foresaw. Its output is
    what is shown of its notes, and then what it printed. -/
structure Outcome where
  ending : Except Failure Nat
  setup : Logging.Setup := {}
  notes : List Note := []
  printed : String := ""
  errors : String := ""

def Outcome.output (o : Outcome) (time : String) : String := o.setup.output time o.notes ++ o.printed

/-- The part of the program that the notes of a run belong to. -/
def source : String := "repomap.cli"

def info (text : String) : Note := ⟨.info, source, text⟩

def problem (text : String) : Note := ⟨.error, source, text⟩

/-! ### The commands -/

/-- What a command has come to: a code for the caller, and what it printed. -/
abbrev Result := Except Failure (Nat × String)

/-- A text at the right end of a field of the given width. -/
def atRight (width : Nat) (s : String) : String :=
  String.ofList (List.replicate (width - s.length) ' ') ++ s

def hitLine (h : Search.Scored) : String := atRight 3 (toString h.score) ++ "  " ++ h.id.getD "None" ++ "\n"

def reportNote (r : Index.Report) : Note :=
  info ("Indexing codebase completed: " ++ toString r.inserted.length ++ " inserted, " ++
    toString r.updated.length ++ " updated, " ++ toString r.skipped.length ++ " skipped")

def missingModel : Note :=
  problem "No chat model configured; set REPOMAP_LLM_API_KEY or REPOMAP_LLM_BASE_URL"

variable {μ : Type}

/-- Prints the hits of a search, one a line. -/
def search (query : String) (s : Session μ) : Result × Session μ :=
  let (hits, s) := s.inWorkspace (Workspace.hitsBy Workspace.answer {} query)
  (hits.map fun hits => (0, String.join (hits.map hitLine)), s)

/-- What is to be indexed: the path of the command line if there is one, or else that of the settings. -/
def indexRoot (settings : Settings) (path : Option String) : String :=
  match path with
  | none => settings.dataDir.text
  | some p => if p.isEmpty then settings.dataDir.text else p

/-- The indexer that the settings ask for; the database itself is never indexed. -/
def indexer (settings : Settings) (w : Workspace) : Except Failure Index.Indexer := do
  let config ← settings.indexing w.tree w.here
  let excluded ← Index.realPaths w.tree w.here [settings.databasePath]
  pure { config, excluded }

def index (settings : Settings) (m : Models μ) (path : Option String) (s : Session μ) : Result × Session μ :=
  let w := s.workspace
  match indexer settings w with
  | .error f => (.error f, s)
  | .ok x =>
    match x.run (Session.means m) w.tree w.here (indexRoot settings path) s with
    | (.error f, s) => (.error f, s)
    | (.ok report, s) => (.ok (0, ""), Journal.add [reportNote report] s)

/-- Prints the answer of a conversation about the question. -/
def ask (m : Models μ) (question : String) (s : Session μ) : Result × Session μ :=
  let tools := Session.registry (Workspace.toolsBy Workspace.answer {})
  let (done, progress, s) := Conversation.run {} tools (Session.chat m) [] question s
  (done.map fun _ => (0, progress.answer ++ "\n"), s)

/-- Does what a command is for once the store is ready. -/
def work (settings : Settings) (models : Except Failure (Option (Models μ))) (c : Command)
    (s : Session μ) : Result × Session μ :=
  match c with
  | .prepare =>
    (.ok (0, ""), Journal.add [info ("Database initialized at " ++ settings.databasePath.text)] s)
  | .search query => search query s
  | .index path => match models with
    | .error f => (.error f, s)
    | .ok none => (.ok (2, ""), Journal.add [missingModel] s)
    | .ok (some m) => index settings m path s
  | .ask question => match models with
    | .error f => (.error f, s)
    | .ok none => (.ok (2, ""), Journal.add [missingModel] s)
    | .ok (some m) => ask m question s

/-- Makes the store ready, and lets the command do its work. -/
def perform (settings : Settings) (models : Except Failure (Option (Models μ))) (c : Command)
    (s : Session μ) : Result × Session μ :=
  match s.inWorkspace Workspace.prepareStore with
  | (.error f, s) => (.error f, s)
  | (.ok (), s) => work settings models c s

/-! ### The whole run -/

/-- The workspace at the start of a run. -/
def atStart (settings : Settings) (s : Session μ) : Session μ :=
  { s with workspace := { s.workspace with store := .database settings.databasePath, journal := [] } }

/-- Runs a command with settings that are known; how notes are shown is set up already. -/
def execute (setup : Logging.Setup) (settings : Settings) (models : Except Failure (Option (Models μ)))
    (c : Command) (s : Session μ) : Outcome × Session μ :=
  let (done, s) := perform settings models c (atStart settings s)
  let notes := s.workspace.notes
  (match done with
    | .ok (code, printed) => { ending := .ok code, setup, notes, printed }
    | .error f =>
      if f.isForeseen then { ending := .ok 1, setup, notes := notes ++ [problem f.message] }
      else { ending := .error f, setup, notes }, s)

/-- Runs a command in surroundings of variables. The settings decide which models there are to ask. -/
def start (around : List (String × String)) (models : Settings → Except Failure (Option (Models μ)))
    (c : Command) (s : Session μ) : Outcome × Session μ :=
  match Settings.load s.workspace.tree s.workspace.here around with
  | .error f => ({ ending := .error f }, s)
  | .ok settings =>
    match ({} : Logging.Setup).configure settings.logLevel [] with
    | (.error f, setup) => ({ ending := .error f, setup }, s)
    | (.ok (), setup) => execute setup settings (models settings) c s

/-- What is said of words that make no command. -/
def refusal (from? : Option Offer) (complaint : Complaint) : String :=
  (from?.map Offer.usage).getD usage ++ (from?.map Offer.title).getD program ++ ": error: " ++
    complaint.message ++ "\n"

/-- Runs a command line. -/
def run (around : List (String × String)) (models : Settings → Except Failure (Option (Models μ)))
    (words : List String) (s : Session μ) : Outcome × Session μ :=
  match read words with
  | .command c => start around models c s
  | .nothing => ({ ending := .ok 1, printed := help }, s)
  | .help asked => ({ ending := .ok 0, printed := (asked.map Offer.help).getD help }, s)
  | .refused from? complaint => ({ ending := .ok 2, errors := refusal from? complaint }, s)

end CodeAtlas.CommandLine
