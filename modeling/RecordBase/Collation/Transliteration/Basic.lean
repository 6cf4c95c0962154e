/-!
# Runs of spellings

Characters that follow one another in the code table are listed as one run of
words, each of which is a spelling in ASCII. Two words have a meaning of their
own: `_` stands for a character that is passed over, and `*` for a place whose
character has no spelling.
-/

namespace RecordBase

namespace Transliteration

/-- The spellings of consecutive characters from a first one on. -/
structure Run where
  first : Nat
  spellings : List (Option String)

/-- The spelling that a word of a run stands for. -/
def spelling? (word : String) : Option String :=
  if word = "*" then none else if word = "_" then some "" else some word

/-- A run with its words in one text. -/
def run (first : Nat) (words : String) : Run :=
  ⟨first, (words.splitOn " ").map spelling?⟩

/-- The spelling of a code point in a run. -/
def Run.spelling? (run : Run) (code : Nat) : Option String :=
  if run.first ≤ code then (run.spellings[code - run.first]?).join else none

end Transliteration

end RecordBase
