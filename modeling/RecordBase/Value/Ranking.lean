import RecordBase.Collation.Order
import RecordBase.Value.Basic

/-!
# Ranking

Results are sorted by fields. Every two values have a place in the ranking,
also values of different kinds: null, boolean, number, string, array, object,
in this order. Two objects tie. A record without the field comes after all
that have it, whichever way the field is sorted.
-/

namespace RecordBase

namespace Value

mutual

/-- The ranking of two values: by kind, then by content. -/
def rank : Value → Value → Ordering
  | .bool left, .bool right => compare left right
  | .number left, .number right => compare left.toDouble.ordinal right.toDouble.ordinal
  | .string left, .string right => Collation.order left right
  | .array left, .array right => rankItems left right
  | left, right => compare left.kind.rank right.kind.rank
termination_by structural left => left

/-- The ranking of two arrays: by the first difference, then by length. -/
def rankItems : List Value → List Value → Ordering
  | [], [] => .eq
  | [], _ :: _ => .lt
  | _ :: _, [] => .gt
  | left :: lefts, right :: rights => (left.rank right).then (rankItems lefts rights)
termination_by structural left => left

end

end Value

/-- Whether a field sorts upwards or downwards. -/
inductive SortDirection where
  | ascending
  | descending
deriving DecidableEq

/-- A field to sort by. -/
structure SortKey where
  field : String
  direction : SortDirection := .ascending
deriving DecidableEq

namespace SortKey

/-- An ordering seen from a direction. -/
def directed : SortDirection → Ordering → Ordering
  | .ascending, ordering => ordering
  | .descending, ordering => ordering.swap

/-- The order of two records by one field. -/
def order (key : SortKey) (left right : Record) : Ordering :=
  match left.get? key.field, right.get? key.field with
  | some left, some right => directed key.direction (left.rank right)
  | some _, none => .lt
  | none, some _ => .gt
  | none, none => .eq

end SortKey

namespace Record

/-- The order of two records by several fields: the first that tells them
apart decides. -/
def order : List SortKey → Record → Record → Ordering
  | [], _, _ => .eq
  | key :: keys, left, right => (key.order left right).then (order keys left right)

/-- Sorts items that carry a record. Items that tie keep their order. -/
def sortBy {α : Type} (record : α → Record) (keys : List SortKey) (items : List α) : List α :=
  items.mergeSort fun left right => (order keys (record left) (record right)).isLE

end Record

/-- The items from `skip` on, `limit` of them at most. -/
def page {α : Type} (skip : Nat) (limit : Option Nat) (items : List α) : List α :=
  match limit with
  | some limit => (items.drop skip).take limit
  | none => items.drop skip

end RecordBase
