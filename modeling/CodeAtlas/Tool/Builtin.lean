import CodeAtlas.Journal
import CodeAtlas.Search.Engine
import CodeAtlas.Tool.Registry

/-! The tools that are always at hand: one reads a file, one searches the records. -/

namespace CodeAtlas.Tool

/-- The single text among the fields of a tool with one field. -/
def onlyText : Value.Fields → String
  | [(_, .text s)] => s
  | _ => ""

variable {σ : Type}

/-- Reads a file by `read`. -/
def fileReader (read : σ → String → Except FileFault String) : Tool σ where
  name := "file_reader"
  description := "Read entire file contents from the filesystem with absolute path"
  arguments := {
    title := "FileReaderInput"
    fields := [{
      name := "target_file"
      kind := .text
      description := some "Path to the file to read, must be a valid file path." }] }
  handler := fun fields s => ((read s (onlyText fields)).mapError .file, s)

/-- The outlines of the hits from the `i`th one on; all of them have to be there. -/
def outlineList (i : Nat) : List Search.Scored → Except Failure (List String)
  | [] => .ok []
  | h :: rest => match h.record.content with
    | none => .error (.absentItem i)
    | some outline => (outlineList (i + 1) rest).map (outline :: ·)

/-- The outlines of the hits, one below the other. -/
def outlines (hits : List Search.Scored) : Except Failure String :=
  (outlineList 0 hits).map "\n".intercalate

/-- Searches by `search`, which may change the state. -/
def semanticSearch (search : String → σ → Except Failure (List Search.Scored) × σ) : Tool σ where
  name := "semantic_search"
  description := "Search and explore codebase using semantic search with relevance scoring. " ++
    "Finds relevant files, functions, and code patterns based on natural language queries."
  arguments := {
    title := "SemanticSearchInput"
    fields := [{
      name := "query"
      kind := .text
      description := some ("Natural language query to find relevant indexed files, example: " ++
        "how the implementation of calculator, database connection, etc") }] }
  handler := fun fields s =>
    let (hits, s) := search (onlyText fields) s
    (hits.bind outlines, s)

/-- Both tools, the reader first. -/
def builtin (read : σ → String → Except FileFault String)
    (search : String → σ → Except Failure (List Search.Scored) × σ) : Registry σ :=
  ⟨[fileReader read, semanticSearch search]⟩

end CodeAtlas.Tool
