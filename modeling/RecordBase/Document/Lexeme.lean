import RecordBase.Number

/-!
# Lexemes of a document

The words, numbers and quoted strings of a JSON text, each read from its own
characters alone. A number can be written correctly and yet be too large for
every double, and a string can hold one half of a surrogate pair. Such a
lexeme is read, and stands for nothing: it does no harm where nobody looks.
-/

namespace RecordBase

namespace Document

/-- The number of a list of decimal digits. -/
def decimalValue (digits : List Char) : Nat :=
  digits.foldl (fun value digit => 10 * value + (digit.toNat - '0'.toNat)) 0

/-! ## Numbers -/

/-- The parts of a written number. -/
structure Numeral where
  negative : Bool
  whole : List Char
  /-- The digits after the point, where there is one. -/
  fraction : Option (List Char)
  /-- The power of ten, where one is written. -/
  exponent : Option Int

namespace Numeral

/-- A run of digits at the front, with what follows it. -/
def takeDigits (text : List Char) : Option (List Char × List Char) :=
  let digits := text.takeWhile Char.isDigit
  if digits = [] then none else some (digits, text.dropWhile Char.isDigit)

/-- The digits before the point: a zero alone or no zero in front. -/
def takeWhole (text : List Char) : Option (List Char × List Char) :=
  match text with
  | '0' :: rest => if (rest.takeWhile Char.isDigit) = [] then some (['0'], rest) else none
  | _ => takeDigits text

/-- A point with digits after it, or neither. -/
def takeFraction (text : List Char) : Option (Option (List Char) × List Char) :=
  match text with
  | '.' :: rest => (takeDigits rest).map fun (digits, after) => (some digits, after)
  | _ => some (none, text)

/-- The number of a text that holds nothing but digits. -/
def readSize (text : List Char) : Option Int :=
  match takeDigits text with
  | some (digits, []) => some (decimalValue digits)
  | _ => none

/-- An exponent that runs to the end, or the end itself. -/
def readExponent (text : List Char) : Option (Option Int) :=
  match text with
  | [] => some none
  | mark :: rest =>
      if mark = 'e' ∨ mark = 'E' then
        match rest with
        | '-' :: size => (readSize size).map fun size => some (-size)
        | '+' :: size => (readSize size).map some
        | size => (readSize size).map some
      else
        none

/-- The parts of a number without its sign. -/
def readUnsigned (negative : Bool) (text : List Char) : Option Numeral := do
  let (whole, afterWhole) ← takeWhole text
  let (fraction, afterFraction) ← takeFraction afterWhole
  let exponent ← readExponent afterFraction
  return ⟨negative, whole, fraction, exponent⟩

/-- The parts of a number, if its text is well formed. A minus may stand in
front, a plus may not. -/
def read? (text : List Char) : Option Numeral :=
  match text with
  | '-' :: unsigned => readUnsigned true unsigned
  | unsigned => readUnsigned false unsigned

/-- Takes digits into a significand as long as it fits sixty-four bits. What
does not go in is left over. -/
def gather (significand : Nat) : List Char → Nat × List Char
  | [] => (significand, [])
  | digit :: rest =>
      let longer := 10 * significand + (digit.toNat - '0'.toNat)
      if longer < 2 ^ 64 then gather longer rest else (significand, digit :: rest)

/-- The double of a numeral. A digit before the point that does not go into
the significand counts as one more power of ten, and one after the point does
not count. -/
def toDouble (numeral : Numeral) : Double :=
  let fraction := numeral.fraction.getD []
  let (front, wholeRest) := gather 0 numeral.whole
  let (significand, fractionRest) := gather front fraction
  let gathered : Int := fraction.length - fractionRest.length
  Double.ofDecimal numeral.negative significand
    (numeral.exponent.getD 0 + wholeRest.length - gathered)

/-- The integer of a numeral without point and exponent. Negative zero is no
integer. -/
def toInt? (numeral : Numeral) : Option Int :=
  match numeral.fraction, numeral.exponent with
  | none, none =>
      let size : Int := decimalValue numeral.whole
      if !numeral.negative then some size
      else if size = 0 then none
      else some (-size)
  | _, _ => none

/-- The number that a numeral stands for: an integer if it is written as one
and fits, and otherwise its double, unless that is infinite. -/
def toNumber? (numeral : Numeral) : Option Number :=
  match numeral.toInt?.bind Number.ofInt? with
  | some integer => some integer
  | none => Number.ofDouble? numeral.toDouble

end Numeral

/-! ## Strings -/

/-- A piece of a quoted string: a character, or the sixteen bits of a `\u`
escape. -/
inductive Unit16 where
  | character (char : Char)
  | code (bits : Nat)

/-- Whether a code opens a surrogate pair. -/
def isLeading (code : Nat) : Bool :=
  0xD800 ≤ code && code < 0xDC00

/-- Whether a code closes a surrogate pair. -/
def isTrailing (code : Nat) : Bool :=
  0xDC00 ≤ code && code < 0xE000

/-- The characters of a quoted string. Two codes that form a surrogate pair
give one character, and half a pair gives none. -/
def decodeUnits : List Unit16 → Option (List Char)
  | [] => some []
  | .character char :: rest => (decodeUnits rest).map (char :: ·)
  | .code first :: rest =>
      if isTrailing first then
        none
      else if isLeading first then
        match rest with
        | .code second :: rest =>
            if isTrailing second then
              let point := 0x10000 + (first - 0xD800) * 0x400 + (second - 0xDC00)
              (decodeUnits rest).map (Char.ofNat point :: ·)
            else
              none
        | _ => none
      else
        (decodeUnits rest).map (Char.ofNat first :: ·)

/-- The character that a letter after a backslash stands for. -/
def escaped? : Char → Option Char
  | '"' => some '"'
  | '\\' => some '\\'
  | '/' => some '/'
  | 'b' => some '\x08'
  | 'f' => some '\x0c'
  | 'n' => some '\n'
  | 'r' => some '\r'
  | 't' => some '\t'
  | _ => none

/-- The value of a hexadecimal digit, in either case. -/
def hexValue? (digit : Char) : Option Nat :=
  if digit.isDigit then some (digit.toNat - '0'.toNat)
  else if 'a' ≤ digit ∧ digit ≤ 'f' then some (digit.toNat - 'a'.toNat + 10)
  else if 'A' ≤ digit ∧ digit ≤ 'F' then some (digit.toNat - 'A'.toNat + 10)
  else none

end Document

end RecordBase
