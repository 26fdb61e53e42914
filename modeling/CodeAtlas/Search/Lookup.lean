import CodeAtlas.Store.Memory

/-! Putting the terms to a store, one after the other or all at once. -/

namespace CodeAtlas.Search

/-- A question to a store: the first `limit` records that match `term`. -/
structure Lookup where
  term : String
  limit : Nat
deriving DecidableEq, Repr

/-- What became of the lookups: those that were made, and all they found unless one failed. -/
structure Retrieval (ε : Type) where
  lookups : List Lookup
  found : Except ε (List Record)

/-- The first failure among the outcomes, or else everything found, in order. -/
def gather {ε : Type} : List (Except ε (List Record)) → Except ε (List Record)
  | [] => .ok []
  | .error e :: _ => .error e
  | .ok found :: rest => match gather rest with
    | .error e => .error e
    | .ok more => .ok (found ++ more)

/-- How many lookups are made when each one waits for the one before it to succeed. -/
def madeInTurn {ε : Type} : List (Except ε (List Record)) → Nat
  | [] => 0
  | .error _ :: _ => 1
  | .ok _ :: rest => madeInTurn rest + 1

/-- One lookup after the other, up to the first failure. -/
def inTurn {ε : Type} (lookups : List Lookup) (outcomes : List (Except ε (List Record))) : Retrieval ε where
  lookups := lookups.take (madeInTurn outcomes)
  found := gather outcomes

/-- Every lookup has a place of its own, which stays empty until its outcome arrives. The outcomes
    arrive in any `order` of the places. -/
def arrive {α : Type} (outcomes : List α) (order : List Nat) : List (Option α) :=
  order.foldl (fun places i => places.set i outcomes[i]?) (outcomes.map fun _ => none)

/-- All lookups are begun before any outcome is looked at, and all of them are waited for. -/
def atOnce {ε : Type} (lookups : List Lookup) (outcomes : List (Except ε (List Record)))
    (order : List Nat) : Retrieval ε where
  lookups := lookups
  found := gather ((arrive outcomes order).filterMap id)

end CodeAtlas.Search
