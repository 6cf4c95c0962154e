import RecordBase.Collation.Transliteration.Alphabets
import RecordBase.Collation.Transliteration.Brahmic
import RecordBase.Collation.Transliteration.Han
import RecordBase.Collation.Transliteration.Latin
import RecordBase.Collation.Transliteration.Syllables

/-!
# Transliteration

The spelling in ASCII of a letter or number of any other script, in lower
case. Most characters are looked up in runs. Syllables of Hangul are spelled
from their parts, the letters and digits of mathematics repeat a few alphabets
in order, and Han characters are spelled by their readings.
-/

namespace RecordBase

namespace Transliteration

/-- Letters of mathematics that are not repeated. -/
def mathematicalRuns : List Run :=
  [ run 0x1D6A4 "i j", run 0x1D7CA "w w" ]

/-- All runs. -/
def runs : List Run :=
  latin ++ marks ++ symbols ++ numbers
    ++ greek ++ cyrillic ++ armenian ++ georgian ++ hebrew ++ arabic ++ syriac ++ thaana
    ++ ogham ++ runic ++ mongolian
    ++ indian ++ thai ++ lao ++ tibetan ++ burmese ++ khmer
    ++ kana ++ eastAsian ++ bopomofo ++ jamo ++ ethiopic ++ cherokee ++ canadian ++ yi ++ linearB
    ++ mathematicalRuns

/-! ## Hangul -/

/-- The consonants that open a syllable of Hangul. -/
def hangulInitials : Run :=
  run 0 "g gg n d dd r m b bb s ss _ j jj c k t p h"

/-- The vowels of a syllable of Hangul. -/
def hangulVowels : Run :=
  run 0 "a ae ya yae eo e yeo ye o wa wae oe yo u weo we wi yu eu yi i"

/-- The consonants that close a syllable of Hangul. -/
def hangulFinals : Run :=
  run 0 "_ g gg gs n nj nh d l lg lm lb ls lt lp lh m b bs s ss ng j c k t p h"

/-- The spelling of a syllable of Hangul, from its three parts. -/
def hangul? (code : Nat) : Option String := do
  if code < 0xAC00 ∨ 0xD7A3 < code then
    none
  let place := code - 0xAC00
  let initial ← hangulInitials.spelling? (place / 588)
  let vowel ← hangulVowels.spelling? (place % 588 / 28)
  let final ← hangulFinals.spelling? (place % 28)
  return initial ++ vowel ++ final

/-! ## Repeated alphabets -/

/-- An alphabet that is repeated in one style after another. -/
structure Cycle where
  /-- The first code point, and the one after the last. -/
  first : Nat
  limit : Nat
  letters : Run

/-- The spelling of a code point in a repeated alphabet. -/
def Cycle.spelling? (cycle : Cycle) (code : Nat) : Option String :=
  if cycle.first ≤ code ∧ code < cycle.limit then
    cycle.letters.spelling? ((code - cycle.first) % cycle.letters.spellings.length)
  else
    none

/-- The Latin letters, of which capitals and small letters are spelled
alike. -/
def latinLetters : Run :=
  run 0 "a b c d e f g h i j k l m n o p q r s t u v w x y z"

/-- Greek capitals and small letters with the signs between them, as the
styles of mathematics repeat them. -/
def greekLetters : Run :=
  run 0 (
    "a b g d e z e th i k l m n ks o p r th s t u ph kh ps o * " ++
    "a b g d e z e th i k l m n x o p r s s t u ph kh ps o * e th k ph r p")

/-- Letters and digits of mathematics, and letters in squares and circles. -/
def cycles : List Cycle :=
  [ ⟨0x1D400, 0x1D6A4, latinLetters⟩
  , ⟨0x1D6A8, 0x1D7CA, greekLetters⟩
  , ⟨0x1D7CE, 0x1D800, run 0 "0 1 2 3 4 5 6 7 8 9"⟩
  , ⟨0x1F130, 0x1F14A, latinLetters⟩
  , ⟨0x1F150, 0x1F16A, latinLetters⟩
  , ⟨0x1F170, 0x1F18A, latinLetters⟩ ]

end Transliteration

/-- The spelling of a letter or number beyond ASCII, if it has one. -/
def transliterate? (char : Char) : Option String :=
  let code := char.toNat
  Transliteration.runs.findSome? (·.spelling? code)
    <|> Transliteration.hangul? code
    <|> Transliteration.cycles.findSome? (·.spelling? code)
    <|> Transliteration.han? char

end RecordBase
