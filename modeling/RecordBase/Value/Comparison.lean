import RecordBase.Key.Encoding

/-!
# Equality and order of values

Predicates compare values without coercion: only values of one kind can be
equal or ordered. Numbers compare by their doubles, so `5` equals `5.0`.
Strings compare by code point and arrays as the keys that they are, which is
how an index orders them. Nulls, objects and arrays that are no keys have no
order.
-/

namespace RecordBase

namespace Value

mutual

/-- Whether two values are equal: numbers as doubles, arrays item by item,
objects name by name. -/
def equal : Value → Value → Bool
  | .null, .null => true
  | .bool left, .bool right => left == right
  | .number left, .number right => left.toDouble.same right.toDouble
  | .string left, .string right => left == right
  | .array left, .array right => equalItems left right
  | .object left, .object right => equalMembers left right
  | _, _ => false
termination_by structural left => left

/-- Whether two lists of items are equal. -/
def equalItems : List Value → List Value → Bool
  | [], [] => true
  | left :: lefts, right :: rights => left.equal right && equalItems lefts rights
  | _, _ => false
termination_by structural left => left

/-- Whether two lists of members, each in the order of names, are equal. -/
def equalMembers : List (String × Value) → List (String × Value) → Bool
  | [], [] => true
  | (leftName, left) :: lefts, (rightName, right) :: rights =>
      leftName == rightName && left.equal right && equalMembers lefts rights
  | _, _ => false
termination_by structural left => left

end

/-- The order of two values, where they have one. -/
def order? : Value → Value → Option Ordering
  | .number left, .number right => left.toDouble.order? right.toDouble
  | .string left, .string right => some (compare left right)
  | .bool left, .bool right => some (compare left right)
  | .array left, .array right =>
      match Key.ofValues? left, Key.ofValues? right with
      | some left, some right => some (Key.orderParts left right)
      | _, _ => none
  | _, _ => none

end Value

end RecordBase
