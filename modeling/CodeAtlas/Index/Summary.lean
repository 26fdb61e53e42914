import CodeAtlas.Failure
import CodeAtlas.Index.Keywords
import CodeAtlas.Schema.Validate

/-! What a model is asked about a file, and what it has to answer. -/

namespace CodeAtlas.Index

/-- What the model is told to do unless something else is configured. -/
def defaultPrompt : String := "\n".intercalate [
  "You produce a compact repository map for a single source file.",
  "",
  "Return three fields:",
  "- content: the repo map. Start with `@@ <file path>`, then one `│` line per",
  "  top-level symbol (class, function, constant, export) with its signature,",
  "  and `⋮...` between unrelated sections.",
  "- description: one paragraph describing what the code does and why it exists.",
  "- keywords: at most 5 short tags, separated by commas.",
  "",
  "Do not include code bodies or commentary outside the three fields."]

/-- Which files are summarized, how much of each is sent, and how many keywords are kept. -/
structure Config where
  includeSuffixes : List String := []
  maxFileChars : Nat := 60000
  maxKeywords : Nat := 5
  systemPrompt : String := defaultPrompt
  one_le_maxFileChars : 1 ≤ maxFileChars := by decide
  one_le_maxKeywords : 1 ≤ maxKeywords := by decide

/-- The request for an outline of one file. -/
def userPrompt (path source : String) : String :=
  "## Context\nSystem wants you to give repo map for this file,\nFile path: " ++ path ++
    "\n\n## File Content\n```\n" ++ source ++ "\n```"

/-- What a model is asked: an instruction and a request. -/
structure Prompt where
  system : String
  human : String
deriving DecidableEq, Repr

/-- What the model says about a file. -/
structure Summary where
  content : String
  description : String
  keywords : String
deriving DecidableEq, Repr

namespace Summary

def schema : Schema where
  title := "RepoMapSummary"
  fields := [
    { name := "content", kind := .text,
      description := some "Full repo map with @@ file path, ⋮... descriptions, and │ symbol lines" },
    { name := "description", kind := .text,
      description := some "One paragraph description of what the code does and its purpose" },
    { name := "keywords", kind := .text,
      description := some "Minimal 3 word each separator, max 5 keyword (separator by comma)" }]

/-- The summary of fields that fit the schema. -/
def ofFields (fields : Value.Fields) : Summary :=
  match fields with
  | [(_, .text content), (_, .text description), (_, .text keywords)] => ⟨content, description, keywords⟩
  | _ => ⟨"", "", ""⟩

end Summary

/-- An answer of the model: a summary, or a value that may turn out to be one. -/
inductive Answer where
  | summary (s : Summary)
  | value (v : Value)

/-- The summary of an answer about the file known as `id`. -/
def Answer.read (id : String) : Answer → Except Failure Summary
  | .summary s => .ok s
  | .value v => ((Summary.schema.validate v).map Summary.ofFields).mapError fun rejection =>
    .index (.summary id rejection)

/-- The three texts of an entry, in their normal form. -/
structure Texts where
  content : String
  description : String
  keywords : String
deriving DecidableEq, Repr

/-- The texts of a summary; none of them may come out empty. -/
def Summary.texts (s : Summary) (id : String) (maxKeywords : Nat) : Except Failure Texts :=
  let keywords := normalizeKeywords s.keywords maxKeywords
  let content := Text.trim s.content
  let description := Text.trim s.description
  if content.isEmpty || description.isEmpty || keywords.isEmpty then .error (.index (.incomplete id))
  else .ok ⟨content, description, keywords⟩

end CodeAtlas.Index
