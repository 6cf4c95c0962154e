import RecordBase.Key.Basic
import RecordBase.SortedMap.Basic

/-!
# Key ranges

A range is an interval of keys, each end open, closed or absent. A walk that
stands at a key goes on in `KeyRange.after`, which puts the walked-off end of
the range just past that key. `seek` is the step of such a walk over the
bindings of a sorted map.
-/

namespace RecordBase

/-- The order in which keys are visited. -/
inductive Direction where
  | forward
  | reverse
deriving DecidableEq

/-- The word for a direction. -/
def Direction.name : Direction → String
  | forward => "forward"
  | reverse => "reverse"

/-- One end of a key range. -/
inductive Bound where
  | unbounded
  | included (key : Key)
  | excluded (key : Key)
deriving DecidableEq

/-- A bound at a key. -/
def Bound.at (key : Key) (inclusive : Bool) : Bound :=
  if inclusive then included key else excluded key

/-- Whether a key is not below a bound. -/
def Bound.admitsAbove (bound : Bound) (key : Key) : Bool :=
  match bound with
  | unbounded => true
  | included limit => limit ≤ key
  | excluded limit => limit < key

/-- Whether a key is not above a bound. -/
def Bound.admitsBelow (bound : Bound) (key : Key) : Bool :=
  match bound with
  | unbounded => true
  | included limit => key ≤ limit
  | excluded limit => key < limit

/-- An interval of keys. -/
structure KeyRange where
  lower : Bound
  upper : Bound
deriving DecidableEq

namespace KeyRange

/-- Every key. -/
def unbounded : KeyRange :=
  ⟨.unbounded, .unbounded⟩

/-- Exactly one key. -/
def only (key : Key) : KeyRange :=
  ⟨.included key, .included key⟩

/-- The key, if the range is written as exactly one. -/
def asPoint? (range : KeyRange) : Option Key :=
  match range.lower, range.upper with
  | .included lower, .included upper => if lower = upper then some lower else none
  | _, _ => none

/-- Whether the bounds exclude each other, so that no key is in the range. -/
def isEmpty (range : KeyRange) : Bool :=
  match range.lower, range.upper with
  | .included lower, .included upper => upper < lower
  | .included lower, .excluded upper => upper ≤ lower
  | .excluded lower, .included upper => upper ≤ lower
  | .excluded lower, .excluded upper => upper ≤ lower
  | _, _ => false

/-- Whether a key is in the range. -/
def contains (range : KeyRange) (key : Key) : Bool :=
  range.lower.admitsAbove key && range.upper.admitsBelow key

/-- The range with the end behind a walk put just past the key it stands at. -/
def after (range : KeyRange) (key : Key) : Direction → KeyRange
  | .forward => { range with lower := .excluded key }
  | .reverse => { range with upper := .excluded key }

end KeyRange

namespace SortedMap

variable {β : Type}

/-- The first binding, in a direction, whose key is in a range. -/
def firstIn? (map : SortedMap Key β) (range : KeyRange) : Direction → Option (Key × β)
  | .forward => map.entries.find? fun entry => range.contains entry.1
  | .reverse => map.entries.reverse.find? fun entry => range.contains entry.1

/-- The next binding of a walk over a range that stands at `position`, or its
first one. -/
def seek (map : SortedMap Key β) (range : KeyRange) (position : Option Key)
    (direction : Direction) : Option (Key × β) :=
  match position with
  | some key => map.firstIn? (range.after key direction) direction
  | none => map.firstIn? range direction

end SortedMap

end RecordBase
