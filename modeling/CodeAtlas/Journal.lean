/-! What a run notes down while it works. -/

namespace CodeAtlas

inductive Level where
  | debug
  | info
  | warning
  | error
  | critical
deriving DecidableEq, Repr

namespace Level

def name : Level → String
  | .debug => "DEBUG"
  | .info => "INFO"
  | .warning => "WARNING"
  | .error => "ERROR"
  | .critical => "CRITICAL"

def rank : Level → Nat
  | .debug => 10
  | .info => 20
  | .warning => 30
  | .error => 40
  | .critical => 50

end Level

/-- A remark of one part of the program. -/
structure Note where
  level : Level
  source : String
  text : String
deriving DecidableEq, Repr

/-- States that keep notes, in the order in which they are made. -/
class Journal (σ : Type) where
  add : List Note → σ → σ

end CodeAtlas
