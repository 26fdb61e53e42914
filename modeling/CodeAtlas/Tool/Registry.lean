import CodeAtlas.Basic
import CodeAtlas.Tool.Basic

/-! The tools at hand, each under a name of its own, in the order of their registration. -/

namespace CodeAtlas.Tool

structure Registry (σ : Type) where
  tools : List (Tool σ) := []

/-- Someone who is told of every successful tool call, keeps a state of type `τ`, and may fail. -/
abbrev Observer (τ : Type) := Trace → τ → Except Failure Unit × τ

/-- Nobody is told. -/
def Observer.none {τ : Type} : Observer τ := fun _ t => (.ok (), t)

/-- Keeps all traces in order. -/
def Observer.collecting : Observer (List Trace) := fun trace traces => (.ok (), traces ++ [trace])

namespace Registry

variable {σ τ : Type}

def get? (r : Registry σ) (name : String) : Option (Tool σ) := r.tools.find? fun t => t.name == name

def names (r : Registry σ) : List String := r.tools.map (·.name)

def declarations (r : Registry σ) : List Value := r.tools.map Tool.declaration

/-- Adds a tool at the end, unless its name is taken. -/
def register (r : Registry σ) (t : Tool σ) : Except Failure (Registry σ) :=
  if (r.get? t.name).isSome then .error (.duplicateTool t.name) else .ok ⟨r.tools ++ [t]⟩

/-- Runs a tool and tells the observer of its success. -/
def execute (r : Registry σ) (observe : Observer τ) (name : String) (arguments : Value.Fields)
    (s : σ) (t : τ) : Except Failure String × σ × τ :=
  match r.get? name with
  | none => (.error (.unknownTool name), s, t)
  | some tool =>
    match tool.invoke arguments s with
    | (.error f, s) => (.error f, s, t)
    | (.ok output, s) =>
      match observe ⟨name, arguments, Text.takeChars previewLength output⟩ t with
      | (.error f, t) => (.error f, s, t)
      | (.ok (), t) => (.ok output, s, t)

/-- Runs a tool whose name and arguments may be values of any type. -/
def executeValues (r : Registry σ) (observe : Observer τ) (name arguments : Value) (s : σ) (t : τ) :
    Except Failure String × σ × τ :=
  match name, arguments with
  | .text name, .object arguments => r.execute observe name arguments s t
  | .text name, v => match r.get? name with
    | none => (.error (.unknownTool name), s, t)
    | some tool => match tool.arguments.validate v with
      | .error rejection => (.error (.invalid rejection), s, t)
      | .ok arguments => r.execute observe name arguments s t
  | .list _, _ => (.error (.arguments (.unusableName "list")), s, t)
  | .object _, _ => (.error (.arguments (.unusableName "dict")), s, t)
  | v, _ => (.error (.unknownTool v.shown), s, t)

end Registry

end CodeAtlas.Tool
