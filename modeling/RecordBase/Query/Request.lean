import RecordBase.Query.Predicate
import RecordBase.Value.Ranking

/-!
# Requests

What a caller asks of a store: which records, in which order, and which part
of the ordered list.
-/

namespace RecordBase

/-- Which records are asked for, and in which order. -/
structure Request where
  clause : WhereClause := .empty
  /-- Fields to sort by; later ones decide ties of earlier ones. -/
  order : List SortKey := []
  /-- How many records at the front are passed over. -/
  skip : Option Nat := none
  /-- How many records are given at most. -/
  limit : Option Nat := none

/-- Whether a request asks for no record. -/
def Request.isZeroLimit (request : Request) : Bool :=
  request.limit == some 0

end RecordBase
