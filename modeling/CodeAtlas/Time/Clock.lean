import CodeAtlas.Time.Timestamp

/-! A clock that moves on by the same step with every reading. -/

namespace CodeAtlas

/-- A clock: when it started, how many microseconds pass between readings, and how often it has been
    read. -/
structure Clock where
  start : Timestamp := { year := 2025, month := 1, day := 1 }
  step : Int := 1000000
  readings : Nat := 0

namespace Clock

def now? (c : Clock) : Option Timestamp := c.start.later? (c.readings * c.step)

/-- The clock shows a time within the years 1 to 9999. -/
def isInRange (c : Clock) : Bool := c.now?.isSome

/-- The time the clock shows; out of range it goes back to its start. -/
def now (c : Clock) : Timestamp := c.now?.getD c.start

def tick (c : Clock) : Clock := { c with readings := c.readings + 1 }

end Clock

end CodeAtlas
