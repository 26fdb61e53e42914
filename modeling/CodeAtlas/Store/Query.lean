import CodeAtlas.Schema.Coerce
import CodeAtlas.Store.Database
import CodeAtlas.Store.Memory
import CodeAtlas.Value.Printer

/-! Look-ups that come from outside: the term, the limit and the id may be values of any type. A store
    in memory uses them as they are; a database is handed them one by one, and takes numbers and texts. -/

namespace CodeAtlas

/-- A look-up by a term, for at most so many records. -/
structure Query where
  term : Value
  limit : Value

namespace Query

open Store

/-- The term and the limit of a look-up as it should be. -/
def plain? (q : Query) : Option (Option String × Int) :=
  match q.term, q.limit with
  | .text s, .int n => some (some s, n)
  | .null, .int n => some (none, n)
  | _, _ => none

/-- The records of a store in memory that match. The limit is looked at last. -/
def ofMemory (q : Query) (m : Memory) : Except Failure (List Record) :=
  match q.term with
  | .text s => ((m.find (some s) m.records.length).mapError fun _ => .absentText).bind fun found =>
      (q.limit.takeOf found).mapError .misuse
  | v => .error (.misuse (.operation v.typeName "lower"))

/-! ### Databases -/

/-- White space that a database leaves out around a number. -/
def isColumnSpace (c : Char) : Bool := c = ' ' || ('\t' ≤ c && c ≤ '\r')

/-- The whole number that a double is, if it lies strictly within a signed word of 64 bits. -/
def wholeOfReal? (x : Float) : Option Int :=
  (Decimal.whole? x).filter fun n => n.natAbs < 2 ^ 63

/-- The whole number that a text is for a database. -/
def wholeOfText? (s : String) : Option Int :=
  let cs := ((s.toList.dropWhile isColumnSpace).reverse.dropWhile isColumnSpace).reverse
  let unsigned := match cs with
    | '+' :: ds => ds
    | '-' :: ds => ds
    | ds => ds
  if unsigned.all Char.isDigit && !unsigned.isEmpty then
    let n : Int := Text.natOfDigits unsigned
    let n := if cs.head? = some '-' then -n else n
    if fitsWord n then some n else none
  else if unsigned.any Char.isAlpha && !unsigned.any Char.isDigit then none
  else (Schema.realOfPlain? cs).bind wholeOfReal?

/-- The whole number that a limit is for a database. -/
def wholeLimit? : Value → Option Int
  | .int n => some n
  | .bool b => some (if b then 1 else 0)
  | .real x => wholeOfReal? x
  | .text s => wholeOfText? s
  | _ => none

/-- Why a database is not handed the value at a place of a look-up of `what`. -/
def handingFault? (what : String) (shown : Value) (halves : Bool) (place : Nat) : Value → Option Failure
  | .int n => if fitsWord n then none else some .limitTooLarge
  | .text s => if halves then (Text.Surrogate.refusal? s.toList).map .unencodable else none
  | .list _ => some (.store (.lookingUp what shown.shown (.unsupported place "list")))
  | .object _ => some (.store (.lookingUp what shown.shown (.unsupported place "dict")))
  | _ => none

/-- A term that stands for nothing in a database. -/
def isNothing : Value → Bool
  | .null => true
  | .real x => x.isNaN
  | _ => false

/-- The records of a database that match. Only texts can be looked for, which shows with the first row. -/
def ofDatabase (q : Query) (c : Database.Connection) : Except Failure (List Record) :=
  let failed := fun (fault : DatabaseFault) => Failure.store (.lookingUp "term" q.term.shown fault)
  match c.readable with
  | .error fault => .error (failed fault)
  | .ok table =>
    match (handingFault? "term" q.term c.halves 1 q.term).or (handingFault? "term" q.term c.halves 3 q.limit) with
    | some failure => .error failure
    | none => match wholeLimit? q.limit with
      | none => .error (failed .mismatch)
      | some limit => match q.term with
        | .text s => Database.find (some table) (some s) limit
        | v => if isNothing v || limit = 0 || table.rows.isEmpty then .ok [] else .error (failed .functionFailed)

/-- The record of a store in memory with an id. Only what can be a name is looked for. -/
def idOfMemory (id : Value) (m : Memory) : Except Failure (Option Record) :=
  match id with
  | .text s => .ok (m.get? (some s))
  | .null => .ok (m.get? none)
  | .list _ => .error (.arguments (.unusableName "list"))
  | .object _ => .error (.arguments (.unusableName "dict"))
  | _ => .ok none

/-- The record of a database with an id, which is compared as the text that a column keeps of it. -/
def idOfDatabase (id : Value) (c : Database.Connection) : Except Failure (Option Record) :=
  match c.readable with
  | .error fault => .error (.store (.lookingUp "id" id.shown fault))
  | .ok table => match handingFault? "id" id c.halves 1 id with
    | some failure => .error failure
    | none => match cellText .id id with
      | .ok text => Database.get? (some table) text
      | .error _ => .ok none

end Query

end CodeAtlas
