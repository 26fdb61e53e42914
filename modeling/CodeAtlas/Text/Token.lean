import CodeAtlas.Text.Blank
import CodeAtlas.Text.WordTable

/-! Counting the tokens of a text: every longest run of word characters is one, and so is every
    character that is neither a word character nor blank. -/

namespace CodeAtlas.Text

def isWord (c : Char) : Bool := wordSet.contains c

/-- How far a count has come: the tokens seen, and whether the last character belongs to a word. -/
structure TokenCount where
  count : Nat := 0
  inWord : Bool := false
deriving DecidableEq, Repr

namespace TokenCount

/-- A word character begins a token unless it goes on with one; a blank ends a word without being a
    token. -/
def step (t : TokenCount) (c : Char) : TokenCount :=
  if isWord c then ⟨if t.inWord then t.count else t.count + 1, true⟩
  else if isBlank c then ⟨t.count, false⟩
  else ⟨t.count + 1, false⟩

end TokenCount

def tokenCount (s : String) : Nat := (s.toList.foldl TokenCount.step {}).count

end CodeAtlas.Text
