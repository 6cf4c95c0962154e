/-!
# Blank names

A name is blank if it consists of white space alone. White space is the
property of that name in Unicode: twenty-five characters, among them the
no-break space but no space of zero width.
-/

namespace RecordBase

namespace Text

/-- The code points of white space. -/
def whiteSpace : List Nat :=
  [0x9, 0xA, 0xB, 0xC, 0xD, 0x20, 0x85, 0xA0, 0x1680, 0x2000, 0x2001, 0x2002, 0x2003, 0x2004,
    0x2005, 0x2006, 0x2007, 0x2008, 0x2009, 0x200A, 0x2028, 0x2029, 0x202F, 0x205F, 0x3000]

/-- Whether a character is white space. -/
def isWhiteSpace (char : Char) : Bool :=
  whiteSpace.contains char.toNat

/-- Whether a text has nothing but white space. -/
def isBlank (text : String) : Bool :=
  text.toList.all isWhiteSpace

@[simp]
theorem isBlank_empty : isBlank "" = true :=
  rfl

end Text

end RecordBase
