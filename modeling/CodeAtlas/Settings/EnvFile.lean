import CodeAtlas.Text.Blank

/-! Files of variables, one binding after the other: a name, an equals sign and a value, which may stand
    between quotes and then span lines. Comments begin with a number sign. A line that is no binding is
    passed over. -/

namespace CodeAtlas.EnvFile

/-- A variable; one that is only named has no value. -/
abbrev Binding := String × Option String

def isLineEnd (c : Char) : Bool := c == '\n' || c == '\r'

/-- Blank characters that do not end a line. -/
def isGap (c : Char) : Bool := Text.isBlank c && !isLineEnd c

def skipGap (cs : List Char) : List Char := cs.dropWhile isGap

/-- What follows a line end, of one or two characters. -/
def afterLineEnd? : List Char → Option (List Char)
  | [] => some []
  | '\r' :: '\n' :: cs => some cs
  | '\r' :: cs => some cs
  | '\n' :: cs => some cs
  | _ => none

/-- What follows the rest of a line. -/
def skipLine (cs : List Char) : List Char :=
  let rest := cs.dropWhile fun c => !isLineEnd c
  rest.tail

/-- Takes the word that marks a variable for other programs, when a gap follows it. -/
def skipExport (cs : List Char) : List Char :=
  if "export".toList.isPrefixOf cs then
    let rest := cs.drop 6
    if (rest.head?.map isGap).getD false then skipGap rest else cs
  else cs

/-! ### Quoted values -/

/-- The part of a quoted value up to its closing quote, in reverse order onto `read`, and what follows
    that quote. A backslash takes the character after it along, whatever it is. -/
def closed? (quote : Char) (read : List Char) : List Char → Option (List Char × List Char)
  | [] => none
  | '\\' :: c :: cs => closed? quote (c :: '\\' :: read) cs
  | c :: cs => if c = quote then some (read.reverse, cs) else closed? quote (c :: read) cs

/-- What a character after a backslash stands for between double quotes. -/
def doubleEscape? : Char → Option Char
  | '\\' => some '\\'
  | '\'' => some '\''
  | '"' => some '"'
  | 'a' => some '\x07'
  | 'b' => some '\x08'
  | 'f' => some '\x0c'
  | 'n' => some '\n'
  | 'r' => some '\r'
  | 't' => some '\t'
  | 'v' => some '\x0b'
  | _ => none

/-- What a character after a backslash stands for between single quotes. -/
def singleEscape? : Char → Option Char
  | '\\' => some '\\'
  | '\'' => some '\''
  | _ => none

def unescape (escape? : Char → Option Char) : List Char → List Char
  | '\\' :: c :: cs => match escape? c with
    | some x => x :: unescape escape? cs
    | none => '\\' :: unescape escape? (c :: cs)
  | c :: cs => c :: unescape escape? cs
  | [] => []

/-! ### Bindings -/

/-- The start of a line up to a number sign with a blank before it. -/
def beforeComment : List Char → List Char
  | [] => []
  | c :: cs =>
    if Text.isBlank c && (cs.dropWhile Text.isBlank).head? == some '#' then []
    else c :: beforeComment cs

def trimRight (cs : List Char) : List Char := (cs.reverse.dropWhile Text.isBlank).reverse

/-- A value that begins after an equals sign and a gap, and what follows it; nothing if a quote is not
    closed. The gap counts as the blank before a comment. -/
def value? (gap cs : List Char) : Option (List Char × List Char) :=
  match cs with
  | '\'' :: rest => (closed? '\'' [] rest).map fun r => (unescape singleEscape? r.1, r.2)
  | '"' :: rest => (closed? '"' [] rest).map fun r => (unescape doubleEscape? r.1, r.2)
  | _ =>
    let line := cs.takeWhile fun c => !isLineEnd c
    let shown := if (beforeComment (gap ++ line)).isEmpty then [] else beforeComment line
    some (trimRight shown, cs.dropWhile fun c => !isLineEnd c)

/-- A name, unless a comment begins, and what follows it; nothing on failure. -/
def name? (cs : List Char) : Option (Option (List Char) × List Char) :=
  match cs with
  | '#' :: _ => some (none, cs)
  | '\'' :: rest =>
    let name := rest.takeWhile (· ≠ '\'')
    match rest.dropWhile (· ≠ '\'') with
    | _ :: after => if name.isEmpty then none else some (some name, after)
    | [] => none
  | _ =>
    let inName := fun (c : Char) => c ≠ '=' && c ≠ '#' && !Text.isBlank c
    let name := cs.takeWhile inName
    if name.isEmpty then none else some (some name, cs.dropWhile inName)

/-- Takes a comment, if one begins after a gap. -/
def skipComment (cs : List Char) : List Char :=
  match skipGap cs with
  | '#' :: rest => rest.dropWhile fun c => !isLineEnd c
  | _ => cs

/-- How a binding goes: the binding, if there is one, and what follows it. A failure tells how far it
    came. -/
def binding (cs : List Char) : Except (List Char) (Option Binding × List Char) :=
  let start := skipExport cs
  match name? start with
  | none => .error start
  | some (name, afterName) =>
    let afterGap := skipGap afterName
    let valued : Except (List Char) (Option (List Char) × List Char) := match afterGap with
      | '=' :: rest =>
        match value? (rest.takeWhile isGap) (skipGap rest) with
        | none => .error (skipGap rest)
        | some (v, after) => .ok (some v, after)
      | _ => .ok (none, afterGap)
    match valued with
    | .error rest => .error rest
    | .ok (v, after) =>
      let rest := skipComment after
      match afterLineEnd? (skipGap rest) with
      | none => .error rest
      | some rest => .ok (name.map fun n => (String.ofList n, v.map String.ofList), rest)

/-- All bindings of a text. Each one takes at least a character. -/
def bindingsWithin : Nat → List Char → List Binding
  | 0, _ => []
  | fuel + 1, cs =>
    match cs.dropWhile Text.isBlank with
    | [] => []
    | rest => match binding rest with
      | .error rest => bindingsWithin fuel (skipLine rest)
      | .ok (found, rest) => found.toList ++ bindingsWithin fuel rest

/-- Marks the order of octets at the start of a file; it is no part of the text. -/
def mark : Char := '\uFEFF'

def bindings (s : String) : List Binding :=
  let cs := match s.toList with
    | c :: cs => if c = mark then cs else c :: cs
    | [] => []
  bindingsWithin (cs.length + 1) cs

/-! ### References -/

/-- What the last pair of a name binds it to. -/
def lookup {α : Type} (env : List (String × α)) (name : String) : Option α :=
  (env.reverse.find? fun v => v.1 == name).map (·.2)

/-- Binds a name in its old place, or in a new last one. -/
def bind (env : List Binding) (name : String) (v : Option String) : List Binding :=
  if env.any fun e => e.1 == name then env.map fun e => if e.1 == name then (name, v) else e
  else env ++ [(name, v)]

/-- The name and the replacement in a reference, and what follows it: after a dollar sign and an opening
    brace, a name, optionally a colon, a hyphen and a replacement, and a closing brace. -/
def reference? (cs : List Char) : Option (String × String × List Char) :=
  let name := cs.takeWhile fun c => c ≠ '\x7d' && c ≠ ':'
  match cs.dropWhile fun c => c ≠ '\x7d' && c ≠ ':' with
  | '\x7d' :: after => some (String.ofList name, "", after)
  | ':' :: '-' :: rest =>
    match rest.dropWhile (· ≠ '\x7d') with
    | _ :: after => some (String.ofList name, String.ofList (rest.takeWhile (· ≠ '\x7d')), after)
    | [] => none
  | _ => none

/-- Replaces references by the values of variables. A variable without a value counts as an empty text,
    one that nobody names as the replacement. -/
def expandWithin (env : List Binding) : Nat → List Char → List Char
  | 0, cs => cs
  | _ + 1, [] => []
  | fuel + 1, '$' :: '\x7b' :: cs =>
    match reference? cs with
    | some (name, replacement, after) =>
      (((lookup env name).getD (some replacement)).getD "").toList ++ expandWithin env fuel after
    | none => '$' :: expandWithin env fuel ('\x7b' :: cs)
  | fuel + 1, c :: cs => c :: expandWithin env fuel cs

def expand (env : List Binding) (s : String) : String :=
  String.ofList (expandWithin env (s.length + 1) s.toList)

/-- What a file binds each of its names to, in the given surroundings and in the order in which the names
    first appear. A reference sees the surroundings and the bindings before it; the last binding of a
    name counts. -/
def expanded (surroundings : List (String × String)) (s : String) : List Binding :=
  let around := surroundings.map fun v => (v.1, some v.2)
  (bindings s).foldl (fun done b => bind done b.1 (b.2.map (expand (around ++ done)))) []

end CodeAtlas.EnvFile
