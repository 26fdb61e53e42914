import CodeAtlas.Failure
import CodeAtlas.Service.Address

/-! How a client makes the address of a request out of a text and, beside it, parameters. -/

namespace CodeAtlas.Service.Client

/-- The texts that a parameter is sent as; a list is sent item by item. -/
def parameterTexts (v : Value) : List String :=
  let single := fun (v : Value) => match v with
    | .null => ""
    | .bool b => if b then "true" else "false"
    | v => v.display
  match v with
  | .list items => items.map single
  | v => [single v]

/-- The parameters given beside the text, if there are any: they take the place of those in the text. -/
def given? (v : Value) : Except Failure (Option (List (String × String))) :=
  match v with
  | .null => .ok none
  | .object fields => .ok (some (fields.flatMap fun f => (parameterTexts f.2).map fun s => (f.1, s)))
  | .text s => .ok (some (parameters s.toList))
  | v => if v.isEmptyLike then .ok (some []) else .error (.misuse (.operation v.typeName "items"))

/-- Takes steps to the same or the upper directory out of a path. -/
def withoutDots (parts : List String) : List String :=
  parts.foldl (fun done part =>
    if part == "." then done
    else if part == ".." then (if done == [""] then done else done.dropLast)
    else done ++ [part]) []

/-- A service is only reached by these schemes. -/
def schemes : List String := ["http", "https", "ws", "wss"]

/-- The address that a client sends, whose percent signs it decodes a first time. -/
def address (text : String) (beside : Value) : Except Failure Address := do
  let u ← (Url.read text).mapError .url
  let given ← given? beside
  let scheme := String.ofList (Text.lowerChars u.scheme.toList)
  if u.isAbsolute && !schemes.contains scheme then throw (.unknownKey (some scheme))
  let path := if u.isAbsolute then u.path else "/" ++ String.ofList (u.path.toList.dropWhile (· == '/'))
  let path := "/".intercalate (withoutDots (path.splitOn "/"))
  pure {
    path := Text.percentDecode (Text.percentDecode path)
    parameters := given.getD (Service.parameters ((u.query.getD "").toList)) }

end CodeAtlas.Service.Client
