import RecordBase.Collation.Transliteration
import RecordBase.Text.Alphanumeric

/-!
# Collation

Sorted strings stand as a reader expects them: capitals among small letters
and letters with marks among letters without. Each string is folded into a
sequence of plain characters. Sequences compare character by character, where
punctuation comes before letters and digits. Strings that fold alike compare
by code point, so only equal strings tie.
-/

namespace RecordBase

namespace Collation

/-- Marks that join the letter in front of them. -/
def isCombining (char : Char) : Bool :=
  0x300 ≤ char.toNat && char.toNat ≤ 0x36F

/-- The characters that a character counts as. A letter or a number that has
no spelling stands for itself, and so does what is neither, unless it is a
mark. -/
def fold (char : Char) : List Char :=
  if char.toNat < 0x80 then
    [char.toLower]
  else if Text.isAlphanumeric char then
    match transliterate? char with
    | some spelling => spelling.toList
    | none => [char]
  else if isCombining char then
    []
  else
    [char]

/-- The order of two folded characters: letters and numbers come last. -/
def orderChars (left right : Char) : Ordering :=
  (compare (Text.isAlphanumeric left) (Text.isAlphanumeric right)).then (compare left right)

/-- The order of two strings by what they fold into. -/
def orderFolded (left right : String) : Ordering :=
  List.compareLex orderChars (left.toList.flatMap fold) (right.toList.flatMap fold)

/-- The order of two strings. -/
def order (left right : String) : Ordering :=
  (orderFolded left right).then (compare left right)

end Collation

end RecordBase
