import RecordBase.Key.Basic
import RecordBase.Value.Basic

/-!
# Keys of values

Numbers, strings and arrays of those have keys; nothing else has. A number is
kept as a code of sixty-four bits whose order as an unsigned integer is the
order of the doubles: a double without sign has its bits moved up by half the
range, and one with a sign has all its bits turned over. Negative zero is
zero, and what is no number is no key.
-/

namespace RecordBase

namespace Key

/-! ## Numbers -/

/-- The code of a double: codes ascend as the doubles do. -/
def encode (x : Double) : UInt64 :=
  if x.magnitude = 0 then
    UInt64.ofNat (2 ^ 63)
  else if x.isNegative then
    UInt64.ofNat (2 ^ 64 - 1 - x.bits.toNat)
  else
    UInt64.ofNat (x.bits.toNat + 2 ^ 63)

/-- The double of a code. -/
def decode (code : UInt64) : Double :=
  if 2 ^ 63 ≤ code.toNat then
    ⟨UInt64.ofNat (code.toNat - 2 ^ 63)⟩
  else
    ⟨UInt64.ofNat (2 ^ 64 - 1 - code.toNat)⟩

/-- The key of a double that is a number, infinities included. -/
def ofDouble? (x : Double) : Option Key :=
  if x.isNaN then none else some (number (encode x))

/-- The key of an integer, through the nearest double. -/
def ofInt (n : Int) : Key :=
  number (encode (Double.ofInt n))

/-- The double of a number key. -/
def toDouble? : Key → Option Double
  | number code => some (decode code)
  | _ => none

/-! ## Values -/

mutual

/-- The key of a value, if it can be one. -/
def ofValue? : Value → Option Key
  | .number content => ofDouble? content.toDouble
  | .string text => some (string text)
  | .array items => (ofValues? items).map tuple
  | _ => none
termination_by structural value => value

/-- The keys of several values, if all of them can be keys. -/
def ofValues? : List Value → Option (List Key)
  | [] => some []
  | value :: rest =>
      match ofValue? value, ofValues? rest with
      | some key, some keys => some (key :: keys)
      | _, _ => none
termination_by structural values => values

end

/-- Integers are handed back up to here, where doubles stop telling
neighbouring integers apart. -/
def integerLimit : Int :=
  2 ^ 53

/-- A number key as a value: an integer where it is a small one, and otherwise
a double. An infinite key has no value but `null`. -/
def numberValue (x : Double) : Value :=
  match x.toInt? with
  | some n => if -integerLimit < n ∧ n < integerLimit then .ofInt n else .ofDouble x
  | none => .ofDouble x

mutual

/-- The value of a key. -/
def toValue : Key → Value
  | number code => numberValue (decode code)
  | string text => .string text
  | tuple parts => .array (partValues parts)
termination_by structural key => key

/-- The values of the parts of a list. -/
def partValues : List Key → List Value
  | [] => []
  | part :: rest => part.toValue :: partValues rest
termination_by structural parts => parts

end

end Key

end RecordBase
