import CodeAtlas.Conversation.Loop
import CodeAtlas.Index.Summary
import CodeAtlas.Search.Engine

/-! The options of searching, indexing and conversing as objects: what they may hold, and how they are
    read and shown. -/

namespace CodeAtlas

/-- The number of a field that has been checked to be one and to reach its bound. -/
def fieldNat (fields : Value.Fields) (name : String) : Nat :=
  match Value.Fields.get? fields name with
  | some (.int n) => n.toNat
  | _ => 0

def fieldText (fields : Value.Fields) (name : String) : String :=
  match Value.Fields.get? fields name with
  | some (.text s) => s
  | _ => ""

def fieldBool (fields : Value.Fields) (name : String) : Bool :=
  match Value.Fields.get? fields name with
  | some (.bool b) => b
  | _ => false

def fieldTexts (fields : Value.Fields) (name : String) : List String :=
  match Value.Fields.get? fields name with
  | some (.list items) => items.filterMap fun v => match v with
    | .text s => some s
    | _ => none
  | _ => []

namespace Search

def Config.schema : Schema where
  title := "SearchConfig"
  fields := [
    { name := "max_query_length", kind := .integer, atLeast := some (.whole 1), default := some (.int 100) },
    { name := "per_term_limit", kind := .integer, atLeast := some (.whole 1), default := some (.int 3) },
    { name := "concurrent_lookups", kind := .boolean, default := some (.bool false) }]

/-- The options of checked fields; a bound that is kept anyway is made sure of. -/
def Config.ofFields (fields : Value.Fields) : Config where
  maxQueryLength := max 1 (fieldNat fields "max_query_length")
  perTermLimit := max 1 (fieldNat fields "per_term_limit")
  concurrent := fieldBool fields "concurrent_lookups"
  one_le_maxQueryLength := Nat.le_max_left 1 _
  one_le_perTermLimit := Nat.le_max_left 1 _

def Config.ofValue (v : Value) : Except Failure Config :=
  ((Config.schema.validate v).map Config.ofFields).mapError .invalid

/-- The weights that an object gives; it may give no others. -/
def Weights.ofFields (w : Weights) : Value.Fields → Except Failure Weights
  | [] => .ok w
  | (name, v) :: rest =>
    let points : Int := match v with
      | .int n => n
      | .bool b => if b then 1 else 0
      | _ => 0
    if name = "keyword" then { w with keyword := points }.ofFields rest
    else if name = "description" then { w with description := points }.ofFields rest
    else if name = "both" then { w with both := points }.ofFields rest
    else .error (.unknownWeight name)

end Search

namespace Index

def Config.schema : Schema where
  title := "IndexingConfig"
  fields := [
    { name := "include_suffixes", kind := .texts, default := some (.list []) },
    { name := "max_file_chars", kind := .integer, atLeast := some (.whole 1), default := some (.int 60000) },
    { name := "max_keywords", kind := .integer, atLeast := some (.whole 1), default := some (.int 5) },
    { name := "system_prompt", kind := .text, default := some (.text defaultPrompt) }]

def Config.ofFields (fields : Value.Fields) : Config where
  includeSuffixes := fieldTexts fields "include_suffixes"
  maxFileChars := max 1 (fieldNat fields "max_file_chars")
  maxKeywords := max 1 (fieldNat fields "max_keywords")
  systemPrompt := fieldText fields "system_prompt"
  one_le_maxFileChars := Nat.le_max_left 1 _
  one_le_maxKeywords := Nat.le_max_left 1 _

def Config.ofValue (v : Value) : Except Failure Config :=
  ((Config.schema.validate v).map Config.ofFields).mapError .invalid

def Config.toValue (c : Config) : Value := .object [
  ("include_suffixes", .list (c.includeSuffixes.map .text)),
  ("max_file_chars", .int c.maxFileChars),
  ("max_keywords", .int c.maxKeywords),
  ("system_prompt", .text c.systemPrompt)]

end Index

namespace Conversation

def Config.schema : Schema where
  title := "AgentConfig"
  fields := [
    { name := "max_iterations", kind := .integer, atLeast := some (.whole 1), default := some (.int 8) },
    { name := "system_prompt", kind := .text, default := some (.text ({} : Config).systemPrompt) }]

def Config.ofFields (fields : Value.Fields) : Config where
  maxIterations := max 1 (fieldNat fields "max_iterations")
  systemPrompt := fieldText fields "system_prompt"
  one_le_maxIterations := Nat.le_max_left 1 _

def Config.ofValue (v : Value) : Except Failure Config :=
  ((Config.schema.validate v).map Config.ofFields).mapError .invalid

end Conversation

/-- The shapes of options, by their titles. -/
def optionSchemas : List Schema := [Search.Config.schema, Index.Config.schema, Conversation.Config.schema]

/-- Checks options of the given title and shows all of them, defaults included. -/
def checkOptions (title : String) (v : Value) : Except Failure Value :=
  match optionSchemas.find? fun s => s.title == title with
  | none => .error (.unknownKey (some title))
  | some schema => ((schema.validate v).map Value.object).mapError .invalid

end CodeAtlas
