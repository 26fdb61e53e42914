import CodeAtlas.Failure
import CodeAtlas.FileTree.Reading
import CodeAtlas.Index.Summary
import CodeAtlas.Settings.EnvFile
import CodeAtlas.Text.Case

/-! The settings of a process: from the variables around it, then from a file of variables, then by
    default. Names of variables may be in any letter case. -/

namespace CodeAtlas

structure Settings where
  databasePath : Path := Path.ofText "indexing.sqlite"
  dataDir : Path := Path.ofText "."
  logLevel : String := "INFO"
  modelName : String := "gpt-4o-mini"
  modelUrl : Option String := none
  modelKey : Option String := none
  promptPath : Option Path := none

/-- The chat model that settings ask for. Without a temperature the model keeps its own. -/
structure ModelChoice where
  name : String
  url : Option String
  key : String
  temperature : Option Nat := some 0
deriving DecidableEq, Repr

namespace Settings

/-- The value of a setting's variable; the last of equal names counts. -/
def settingOf? (env : List EnvFile.Binding) (setting : String) : Option String :=
  (EnvFile.lookup (env.map fun v => (Text.lower v.1, v.2)) ("repomap_" ++ setting)).join

/-- Why variables cannot be put into the surroundings: the first fault of the first one that has one. -/
def variableFault? (env : Value.Fields) : Option Failure :=
  env.findSome? fun v => match v.2 with
    | .text s =>
      if v.1.contains '\x00' || s.contains '\x00' then some (.raised .valueError "embedded null byte")
      else if v.1.contains '=' then some (.raised .valueError "illegal environment variable name")
      else if v.1.isEmpty then some (.raised .osError "[Errno 22] Invalid argument")
      else none
    | v => some (.misuse (.binding v.typeName))

/-- The settings that one look-up of variables gives. -/
def ofLookup (get : String → Option String) : Settings :=
  let default_ : Settings := {}
  { databasePath := ((get "database_path").map Path.ofText).getD default_.databasePath
    dataDir := ((get "data_dir").map Path.ofText).getD default_.dataDir
    logLevel := (get "log_level").getD default_.logLevel
    modelName := (get "llm_model").getD default_.modelName
    modelUrl := get "llm_base_url"
    modelKey := get "llm_api_key"
    promptPath := (get "indexing_prompt_path").map Path.ofText }

/-- The text of the file of variables, when it is a file. -/
def envFileText (t : FileTree) (here : Place) : Except Failure String :=
  let p := Path.ofText ".env"
  match t.isFile here p with
  | .ok true => (t.readText here p).mapError fun f => match f with
    | .file f => .file f
    | .encoding r => .encoding r
  | _ => .ok ""

/-- The settings in surroundings of variables; those of the file only count where these give none. -/
def load (t : FileTree) (here : Place) (env : List (String × String)) : Except Failure Settings :=
  (envFileText t here).map fun s =>
    let around := env.map fun v => (v.1, some v.2)
    let inFile := EnvFile.expanded env s
    ofLookup fun setting => (settingOf? around setting).or (settingOf? inFile setting)

/-- How files are indexed; the instruction to the model may come from a file. -/
def indexing (s : Settings) (t : FileTree) (here : Place) : Except Failure Index.Config :=
  match s.promptPath with
  | none => .ok {}
  | some p => match t.readText here p with
    | .ok text => .ok { systemPrompt := Text.trim text }
    | .error fault =>
      if fault.isOrdinary then .error (.index (.prompt p fault))
      else match fault with
        | .file f => .error (.file f)
        | .encoding r => .error (.encoding r)

def given (s : Option String) : Bool := (s.getD "") ≠ ""

/-- Models of this family only work at a temperature of their own, unless they are made for chats. -/
def keepsTemperature (name : String) : Bool :=
  let name := Text.lowerChars name.toList
  "gpt-5".toList.isPrefixOf name && !Text.occursIn "chat".toList name

/-- A chat model is only chosen where a key or an address is set; the address has to be one. -/
def model? (s : Settings) : Except Failure (Option ModelChoice) :=
  if given s.modelKey || given s.modelUrl then
    (Url.read (s.modelUrl.getD "")).mapError .url |>.map fun _ => some {
      name := s.modelName, url := s.modelUrl
      key := if given s.modelKey then s.modelKey.getD "" else "unused"
      temperature := if keepsTemperature s.modelName then none else some 0 }
  else .ok none

end Settings

end CodeAtlas
