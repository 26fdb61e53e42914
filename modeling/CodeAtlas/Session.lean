import CodeAtlas.Conversation.Loop
import CodeAtlas.Workspace

/-! A workspace in the hands of someone who asks models. Whatever a model remembers from one question
    to the next is a state of type `μ` beside the workspace. -/

namespace CodeAtlas

structure Session (μ : Type) where
  workspace : Workspace
  model : μ

/-- How a chat model and a summarizing model answer. -/
structure Models (μ : Type) where
  chat : List Conversation.Message → μ → Except Failure Conversation.Response × μ
  summarize : Index.Prompt → μ → Except Failure Index.Answer × μ
  /-- Texts with halves of pairs have come in with the answers of the chat model so far. -/
  halves : μ → Bool := fun _ => false

namespace Session

variable {μ α : Type}

instance : Journal (Session μ) where
  add notes s := { s with workspace := Journal.add notes s.workspace }

/-- Work on the workspace alone. -/
def inWorkspace (work : Workspace → α × Workspace) (s : Session μ) : α × Session μ :=
  let (a, workspace) := work s.workspace
  (a, { s with workspace })

/-- Work of a model alone. -/
def byModel (work : μ → α × μ) (s : Session μ) : α × Session μ :=
  let (a, model) := work s.model
  (a, { s with model })

/-- A tool over workspaces as one over sessions. -/
def tool (t : Tool Workspace) : Tool (Session μ) where
  name := t.name
  description := t.description
  arguments := t.arguments
  handler fields := inWorkspace (t.handler fields)

def registry (r : Tool.Registry Workspace) : Tool.Registry (Session μ) := ⟨r.tools.map tool⟩

/-- Once halves of pairs have come in with an answer, texts of the workspace may hold them too. -/
def chat (m : Models μ) : Conversation.Model (Session μ) := fun messages s =>
  let (answer, s) := byModel (m.chat messages) s
  (answer, { s with workspace.halves := s.workspace.halves || m.halves s.model })

/-- Indexing writes to the store of the workspace and reads its clock. -/
def means (m : Models μ) : Index.Means (Session μ) where
  ask prompt := byModel (m.summarize prompt)
  write r := inWorkspace fun w => w.upsert r
  now := inWorkspace Workspace.readClock

end Session

end CodeAtlas
