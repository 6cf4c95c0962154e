import RecordBase.Key.ScanSource
import RecordBase.Query.Predicate
import RecordBase.Schema.RecordType

/-!
# Selection of a source

A query walks the part of the store in which its matches must lie. The first
candidate that the where clause narrows is taken: the primary key, then the
unique indexes, then the others, each as declared. Every record met on the
walk is checked against the whole clause, so the choice never changes what is
found.
-/

namespace RecordBase

/-- The source chosen for a query. -/
inductive Selection where
  | primaryKey (field : String)
  | index (index : IndexDescriptor)
  | fullScan

/-- The range that a where clause leaves of the primary key or of an index on
one field. -/
def WhereClause.fieldRange? (clause : WhereClause) (field : String) : Option KeyRange :=
  (clause.get? field).bind Predicate.keyRange?

/-- The range that a where clause leaves of an index. An index on several
fields is looked up by one key or not at all. -/
def WhereClause.pathRange? (clause : WhereClause) : KeyPath → Option KeyRange
  | .single field => clause.fieldRange? field
  | .composite fields => (clause.compositeKey? fields).map .only

namespace Selection

/-- The indexes in the order in which they are tried. -/
def candidates (type : RecordType) : List IndexDescriptor :=
  type.indexes.filter (·.unique) ++ type.indexes.filter (!·.unique)

/-- Chooses the source for a where clause. -/
def choose (type : RecordType) (clause : WhereClause) : Selection :=
  if clause.isEmpty then
    fullScan
  else if (clause.fieldRange? type.primaryField).isSome then
    primaryKey type.primaryField
  else
    match (candidates type).find? fun index => (clause.pathRange? index.keyPath).isSome with
    | some found => index found
    | none => fullScan

/-- The scan of a chosen source: the range that the clause leaves of it. -/
def source (selection : Selection) (clause : WhereClause) : ScanSource :=
  match selection with
  | primaryKey field =>
      match clause.fieldRange? field with
      | some range => .primary range
      | none => .full
  | index found =>
      match clause.pathRange? found.keyPath with
      | some range => .index found.name range
      | none => .full
  | fullScan => .full

/-- A chosen source in words. -/
def text : Selection → String
  | primaryKey field => "primary key '" ++ field ++ "'"
  | index found => "index '" ++ found.name ++ "'"
  | fullScan => "full scan"

end Selection

end RecordBase
