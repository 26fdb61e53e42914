import CodeAtlas.RunLog
import CodeAtlas.Schema.Coerce
import CodeAtlas.Text.DigitTable

/-! A log of runs in the hands of someone who gives values of any type: options, latencies, limits and
    ids. -/

namespace CodeAtlas.RunLog

/-- The limit that a value sets. One between two integers has the room of the lower one, and no number
    of runs is above one that is no number. -/
def ofLimit : Value → RunLog Float
  | .int n => { limit := n }
  | .bool b => { limit := if b then 1 else 0 }
  | .real x => { limit :=
      if x.isFinite then ((Decimal.whole? x.floor).getD 0) else if x < 0.0 then -1 else 2 ^ 64 }
  | v => { unfitLimit := some v.typeName }

/-- The empty log that options ask for; they may only set the limit. -/
def ofOptions (options : Value.Fields) : Except Failure (RunLog Float) :=
  match options.find? fun f => f.1 != "max_records" with
  | some (name, _) => .error (.raised .typeError
      ("TraceStore.__init__() got an unexpected keyword argument " ++ Text.quoted name))
  | none => .ok (((Value.Fields.get? options "max_records").map ofLimit).getD {})

/-- The characters without the underscores that stand between two digits; nothing if others are left. -/
def withoutPartings? (last : Char) : List Char → Option (List Char)
  | [] => some []
  | '_' :: c :: rest =>
    if last.isDigit && c.isDigit then (withoutPartings? c rest).map (c :: ·) else none
  | '_' :: [] => none
  | c :: rest => (withoutPartings? c rest).map (c :: ·)

/-- The number that a text is, in the digits of any script. -/
def realOfText? (s : String) : Option Float :=
  (withoutPartings? ' ' ((Schema.trimNumber s.toList).map Text.plainDigit)).bind Schema.realOfPlain?

/-- The latency that a value stands for. -/
def latencyOf : Value → Except Misuse Float
  | .real x => .ok x
  | .bool b => .ok (if b then 1.0 else 0.0)
  | .int n => if (Schema.realOfInt n).isFinite then .ok (Schema.realOfInt n) else .error .measureTooLarge
  | .text s => match realOfText? s with
    | some x => .ok x
    | none => .error (.measureText s)
  | v => .error (.measure v.typeName)

/-- The number of tokens of a value, which has to be a text. -/
def tokensOf : Value → Except Misuse Nat
  | .text s => .ok (Text.tokenCount s)
  | v => .error (.tokens v.typeName)

variable {α : Type}

/-- Keeps a run. A question or an answer that is no text fails it, and only its number is used up. -/
def createOf (log : RunLog α) (question answer : Value) (traces : List Trace) (iterations : Int)
    (latency : α) : Except Failure (RunRecord α) × RunLog α :=
  match question, answer with
  | .text question, .text answer => log.create ⟨question, answer, traces, iterations, latency⟩
  | .text _, v => (.error (.misuse (.tokens v.typeName)), { log with created := log.created + 1 })
  | v, _ => (.error (.misuse (.tokens v.typeName)), { log with created := log.created + 1 })

/-- The run with an id; only what can be a name is looked for. -/
def getOf (log : RunLog α) : Value → Except Failure (RunRecord α)
  | .text id => log.get id
  | .list _ => .error (.arguments (.unusableName "list"))
  | .object _ => .error (.arguments (.unusableName "dict"))
  | v => .error (.unknownTrace v.shown)

/-- The last runs, as many as a value says. -/
def recentOf (log : RunLog α) (limit : Value) : Except Misuse (List (RunRecord α)) :=
  limit.fromEndOf log.runs

end CodeAtlas.RunLog
