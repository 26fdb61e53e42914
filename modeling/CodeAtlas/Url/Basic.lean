import CodeAtlas.Text.DigitTable
import CodeAtlas.Text.Quoted
import CodeAtlas.Url.Host
import CodeAtlas.Value.Reader

/-! Addresses on the web: a scheme, an authority of user, host and port, a path, and what stands after a
    question mark and a number sign. Each part but the path may be missing. -/

namespace CodeAtlas

structure Url where
  scheme : String
  userinfo : String
  host : String
  port : String
  path : String
  query : Option String
  fragment : Option String
deriving DecidableEq, Repr

namespace Url

/-- Why a text is no address. -/
inductive Fault where
  | tooLong
  | unprintable (c : Char) (position : Nat)
  | host (fault : HostFault) (text : String)
  | port (text : String)
  | startsWithSlashes
  | startsWithColon
deriving DecidableEq, Repr

def HostFault.noun : HostFault → String
  | .octets => "IPv4 address"
  | .groups => "IPv6 address"
  | .name => "IDNA hostname"

def Fault.message : Fault → String
  | .tooLong => "URL too long"
  | .unprintable c position => "Invalid non-printable ASCII character in URL, " ++
      Text.quoted (String.ofList [c]) ++ " at position " ++ toString position ++ "."
  | .host fault text => "Invalid " ++ fault.noun ++ ": " ++ Text.quoted text
  | .port text => "Invalid port: " ++ Text.quoted text
  | .startsWithSlashes => "Relative URLs cannot have a path starting with '//'"
  | .startsWithColon => "Relative URLs cannot have a path starting with ':'"

/-! ### The parts -/

def isLetter (c : Char) : Bool := ('a' ≤ c && c ≤ 'z') || ('A' ≤ c && c ≤ 'Z')

def isSchemeChar (c : Char) : Bool := isLetter c || c.isDigit || c == '+' || c == '.' || c == '-'

/-- A scheme, which a colon follows, and what stands after the colon. A colon alone is taken too. -/
def splitScheme (cs : List Char) : List Char × List Char :=
  let scheme := if (cs.head?.map isLetter).getD false then cs.takeWhile isSchemeChar else []
  match cs.drop scheme.length with
  | ':' :: rest => (scheme, rest)
  | _ => ([], cs)

/-- An authority, which two slashes precede, and what stands after it. -/
def splitAuthority (cs : List Char) : List Char × List Char :=
  let inside := fun (c : Char) => c ≠ '/' && c ≠ '?' && c ≠ '#'
  match cs with
  | '/' :: '/' :: rest => (rest.takeWhile inside, rest.dropWhile inside)
  | _ => ([], cs)

/-- The user before the last at sign, and what stands after it. -/
def splitUser (cs : List Char) : List Char × List Char :=
  if cs.contains '@' then
    let after := (cs.reverse.takeWhile (· ≠ '@')).reverse
    (cs.take (cs.length - after.length - 1), after)
  else ([], cs)

/-- A host, between brackets or up to a colon, and the port after it. -/
def splitHost (cs : List Char) : List Char × List Char :=
  let host := if cs.head? = some '[' && cs.contains ']' then
      cs.take (cs.length - (cs.reverse.takeWhile (· ≠ ']')).length)
    else cs.takeWhile (· ≠ ':')
  match cs.drop host.length with
  | ':' :: port => (host, port)
  | port => (host, port)

/-- What stands after the first `mark`, if there is one. -/
def after? (mark : Char) (cs : List Char) : Option String :=
  match cs.dropWhile (· ≠ mark) with
  | [] => none
  | _ :: rest => some (String.ofList rest)

/-- The parts of a text, whatever they hold. -/
def ofText (s : String) : Url :=
  let (scheme, rest) := splitScheme s.toList
  let (authority, rest) := splitAuthority rest
  let (userinfo, place) := splitUser authority
  let (host, port) := splitHost place
  let unmarked := rest.takeWhile (· ≠ '#')
  { scheme := String.ofList scheme, userinfo := String.ofList userinfo, host := String.ofList host
    port := String.ofList port, path := String.ofList (unmarked.takeWhile (· ≠ '?'))
    query := after? '?' unmarked, fragment := after? '#' rest }

/-- The address names a place of its own. -/
def isAbsolute (u : Url) : Bool := !u.scheme.isEmpty && !u.host.isEmpty

/-! ### Reading -/

/-- Addresses longer than this are refused. -/
def lengthLimit : Nat := 65536

def isControl (c : Char) : Bool := c.toNat < 0x20 || c.toNat == 0x7F

/-- Digits with single underscores between them. -/
def isPartedNumber (cs : List Char) : Bool :=
  (Text.splitWhere (· == '_') cs).all fun ds => !ds.isEmpty && ds.all Text.isDecimalDigit

/-- A number in the digits of any script, with blanks around it and a sign before it. -/
def isPort (s : String) : Bool :=
  let number := match Text.trimChars s.toList with
    | '+' :: cs => cs
    | '-' :: cs => cs
    | cs => cs
  isPartedNumber number && (number.filter (· ≠ '_')).length ≤ Value.Reader.digitLimit

/-- What is wrong with the parts, if anything is. A path alone must not look like something else. -/
def fault? (u : Url) : Option Fault :=
  match hostFault? u.host.toList with
  | some fault => some (.host fault u.host)
  | none =>
    if !u.port.isEmpty && !isPort u.port then some (.port u.port)
    else if u.scheme.isEmpty && u.userinfo.isEmpty && u.host.isEmpty && u.port.isEmpty then
      if u.path.startsWith "//" then some .startsWithSlashes
      else if u.path.startsWith ":" then some .startsWithColon
      else none
    else none

def read (s : String) : Except Fault Url :=
  if lengthLimit < s.length then .error .tooLong
  else match s.toList.find? isControl with
    | some c => .error (.unprintable c (s.toList.takeWhile (· ≠ c)).length)
    | none => match (ofText s).fault? with
      | some fault => .error fault
      | none => .ok (ofText s)

end Url

end CodeAtlas
