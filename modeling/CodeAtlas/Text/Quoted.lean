import CodeAtlas.Basic
import CodeAtlas.Text.PrintTable

/-! A text between quotes, as it stands in messages: single quotes, or double ones when the text holds
    a single quote and no double one. Everything that would not be shown as itself is escaped. -/

namespace CodeAtlas.Text

def isPrintable (c : Char) : Bool := !unprintableSet.contains c

/-- A code below 256 takes two digits, one below 65536 four, any other eight. -/
def escapeCode (n : Nat) : List Char :=
  if n < 0x100 then '\\' :: 'x' :: hexDigits 2 n
  else if n < 0x10000 then '\\' :: 'u' :: hexDigits 4 n
  else '\\' :: 'U' :: hexDigits 8 n

/-- How `c` is written between two `quote` characters. -/
def quoteChar (quote c : Char) : List Char :=
  if c = quote || c = '\\' then ['\\', c]
  else if c = '\t' then ['\\', 't']
  else if c = '\n' then ['\\', 'n']
  else if c = '\r' then ['\\', 'r']
  else if isPrintable c then [c]
  else escapeCode c.toNat

def quoteFor (cs : List Char) : Char :=
  if cs.contains '\'' && !cs.contains '"' then '"' else '\''

def quotedChars (cs : List Char) : List Char :=
  let quote := quoteFor cs
  quote :: cs.flatMap (quoteChar quote) ++ [quote]

def quoted (s : String) : String := String.ofList (quotedChars s.toList)

end CodeAtlas.Text
