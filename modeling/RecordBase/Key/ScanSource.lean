import RecordBase.Key.Range

/-!
# Scan sources

A scan walks a whole store, a range of its primary keys, or a range of one of
its indexes. The first two visit records in primary-key order.
-/

namespace RecordBase

/-- What a scan walks. -/
inductive ScanSource where
  /-- The whole store, in primary-key order. -/
  | full
  | primary (range : KeyRange)
  | index (name : String) (range : KeyRange)
deriving DecidableEq

namespace ScanSource

/-- Whether records come in primary-key order. -/
def isPrimaryOrder : ScanSource → Bool
  | index _ _ => false
  | _ => true

/-- The index walked, if one is. -/
def indexName? : ScanSource → Option String
  | index name _ => some name
  | _ => none

/-- The range walked, if it is not the whole store. -/
def range? : ScanSource → Option KeyRange
  | full => none
  | primary range => some range
  | index _ range => some range

/-- The word for the kind of scan: a lookup where the range is one key. -/
def kindName : ScanSource → String
  | full => "FULL_SCAN"
  | primary range => if range.asPoint?.isSome then "PK_LOOKUP" else "PK_RANGE"
  | index _ range => if range.asPoint?.isSome then "INDEX_EQ" else "INDEX_RANGE"

/-- The kind of scan, with the name of the index in brackets. -/
def text (source : ScanSource) : String :=
  match source.indexName? with
  | some name => source.kindName ++ "(" ++ name ++ ")"
  | none => source.kindName

end ScanSource

end RecordBase
