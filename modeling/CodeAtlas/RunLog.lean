import CodeAtlas.Basic
import CodeAtlas.Failure
import CodeAtlas.Text.Token
import CodeAtlas.Tool.Basic

/-! The log of finished runs: the newest ones, up to a limit, with figures over all that are kept. -/

namespace CodeAtlas

/-- A finished run; how long it took is a measure of type `α`. -/
structure RunRecord (α : Type) where
  id : String
  question : String
  answer : String
  traces : List Trace
  iterations : Int
  inputTokens : Nat
  outputTokens : Nat
  latency : α

/-- The runs kept, oldest first, and how many there have been. A limit below zero leaves no room, not
    even for an empty log. -/
structure RunLog (α : Type) where
  limit : Int := 1000
  /-- The type of a limit that no number of runs can be compared with. -/
  unfitLimit : Option String := none
  runs : List (RunRecord α) := []
  created : Nat := 0

/-- What is told of a run to be kept. -/
structure RunReport (α : Type) where
  question : String
  answer : String
  traces : List Trace
  iterations : Int
  latency : α

namespace RunLog

variable {α : Type}

/-- The runs are numbered from 1 on. -/
def idOf (n : Nat) : String := "trace-" ++ toString n

def record (n : Nat) (r : RunReport α) : RunRecord α where
  id := idOf n
  question := r.question
  answer := r.answer
  traces := r.traces
  iterations := r.iterations
  inputTokens := Text.tokenCount r.question
  outputTokens := Text.tokenCount r.answer
  latency := r.latency

/-- The newest runs that the limit leaves room for. -/
def evict (limit : Int) (runs : List (RunRecord α)) : List (RunRecord α) :=
  runs.drop (runs.length - limit.toNat)

/-- Keeps a run, at the cost of the oldest ones. With a limit below zero the run is dropped again, and
    there is nothing left to make room with. A limit that is no number fails the run, which stays. -/
def create (log : RunLog α) (r : RunReport α) : Except Failure (RunRecord α) × RunLog α :=
  let n := log.created + 1
  match log.unfitLimit with
  | some type =>
    (.error (.misuse (.comparison type)), { log with runs := log.runs ++ [record n r], created := n })
  | none =>
    let kept := { log with runs := evict log.limit (log.runs ++ [record n r]), created := n }
    (if log.limit < 0 then .error .exhausted else .ok (record n r), kept)

def get (log : RunLog α) (id : String) : Except Failure (RunRecord α) :=
  match log.runs.find? fun r => r.id == id with
  | none => .error (.unknownTrace id)
  | some r => .ok r

/-- The last `limit` runs, oldest first; a limit of 0 stands for all of them, and one below zero leaves
    out that many of the oldest. -/
def recent (log : RunLog α) (limit : Int) : List (RunRecord α) := Text.fromEnd limit log.runs

/-! ### Figures -/

section Order

variable [LE α] [DecidableLE α]

/-- The one comparison that is made: `a` is below `b`. -/
def isBelow (a b : α) : Bool := a ≤ b && !(b ≤ a)

/-- The place for `x` between two places of a list, found by halving: behind everything that `x` is not
    below, as far as the halves show it. -/
def placeBetween (x : α) (xs : List α) : Nat → Nat → Nat → Nat
  | 0, low, _ => low
  | fuel + 1, low, high =>
    if low < high then
      let middle := (low + high) / 2
      if (xs[middle]?.map (isBelow x)).getD false then placeBetween x xs fuel low middle
      else placeBetween x xs fuel (middle + 1) high
    else low

/-- Puts `x` into its place in a list. -/
def place (xs : List α) (x : α) : List α :=
  let i := placeBetween x xs xs.length 0 xs.length
  xs.take i ++ x :: xs.drop i

/-- The stretch at the start of a list that does not fall, after `last`, and the rest. -/
def risingRun (last : α) : List α → List α × List α
  | [] => ([], [])
  | x :: xs =>
    if isBelow x last then ([], x :: xs)
    else
      let (run, rest) := risingRun x xs
      (x :: run, rest)

/-- The stretch at the start of a list that falls, after `last`, and the rest. -/
def fallingRun (last : α) : List α → List α × List α
  | [] => ([], [])
  | x :: xs =>
    if isBelow x last then
      let (run, rest) := fallingRun x xs
      (x :: run, rest)
    else ([], x :: xs)

/-- An order for values that need not be comparable: the run at the start, turned round if it falls,
    and into it one value after the other. -/
def placedInTurn : List α → List α
  | x :: y :: rest =>
    let (run, more) :=
      if isBelow y x then
        let (run, more) := fallingRun x (y :: rest)
        ((x :: run).reverse, more)
      else
        let (run, more) := risingRun x (y :: rest)
        (x :: run, more)
    more.foldl place run
  | xs => xs

/-- Values in rising order. Those that are not even comparable with themselves have no place in it, so
    that with one of them the outcome depends on the order in which they came. -/
def inOrder (xs : List α) : List α :=
  if xs.all fun x => x ≤ x then xs.mergeSort fun a b => a ≤ b else placedInTurn xs

end Order

/-- Figures over the runs kept. -/
structure Summary (α : Type) where
  totalRuns : Nat
  average : α
  percentile95 : α
  totalToolCalls : Nat
  totalInputTokens : Nat
  totalOutputTokens : Nat

/-- The latencies in rising order. -/
def latencies [LE α] [DecidableLE α] (log : RunLog α) : List α := inOrder (log.runs.map (·.latency))

/-- The place of the 95th percentile among `n` ordered values. -/
def percentileIndex (n : Nat) : Nat := n * 19 / 20 - 1

/-- The figures; `mean` makes the average of a list that is not empty. -/
def summary [LE α] [DecidableLE α] [Zero α] (mean : List α → α) (log : RunLog α) : Summary α :=
  let ordered := log.latencies
  { totalRuns := log.runs.length
    average := if log.runs.isEmpty then 0 else mean ordered
    percentile95 := ordered.getD (percentileIndex log.runs.length) 0
    totalToolCalls := (log.runs.map fun r => r.traces.length).sum
    totalInputTokens := (log.runs.map (·.inputTokens)).sum
    totalOutputTokens := (log.runs.map (·.outputTokens)).sum }

/-- The sum from left to right, divided by the count. -/
def floatMean (xs : List Float) : Float := xs.foldl (· + ·) 0.0 / xs.length.toFloat

end RunLog

end CodeAtlas
