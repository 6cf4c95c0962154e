import RecordBase.Key.Range
import RecordBase.Query.Comparison

/-!
# Predicates

A predicate is what one field of a record has to satisfy: a value that it
must equal, or a comparison. A where clause holds a predicate for each of
some fields, and a record matches it if all of them hold. A field that is
absent satisfies no predicate.

The key range of a predicate is the part of an index on its field in which
every match lies. A predicate about values that are no keys has none.
-/

namespace RecordBase

/-- What a field has to satisfy. -/
inductive Predicate where
  | literal (value : Value)
  | compare (comparison : Comparison)

namespace Predicate

/-- What a pair of comparisons asks for: the two combined. -/
def ofPair (first second : Comparison) : Predicate :=
  compare (first.and second)

/-- The one value asked for. -/
def exactValue? : Predicate → Option Value
  | literal value => some value
  | compare comparison => comparison.exactValue?

/-- The limit from below. -/
def lower? : Predicate → Option Limit
  | literal _ => none
  | compare comparison => comparison.lower?

/-- The limit from above. -/
def upper? : Predicate → Option Limit
  | literal _ => none
  | compare comparison => comparison.upper?

/-- A predicate as it is written after the name of its field. -/
def text : Predicate → String
  | literal value => "= " ++ value.text
  | compare comparison => comparison.text

/-- Whether a value satisfies a predicate. -/
def accepts : Predicate → Value → Bool
  | literal expected, value => value.equal expected
  | compare comparison, value => comparison.accepts value

/-- The key of the one value asked for. -/
def exactKey? (predicate : Predicate) : Option Key :=
  predicate.exactValue?.bind Key.ofValue?

end Predicate

/-- The key bound of a limit, if its value is a key. -/
def Limit.bound? (limit : Limit) : Option Bound :=
  (Key.ofValue? limit.value).map (Bound.at · limit.inclusive)

/-- The key bound of a limit that may be absent. -/
def Bound.ofLimit? : Option Limit → Option Bound
  | some limit => limit.bound?
  | none => some .unbounded

/-- The range of the keys of the values that a predicate asks for, if all its
values are keys. -/
def Predicate.keyRange? (predicate : Predicate) : Option KeyRange :=
  match predicate.exactValue? with
  | some value => (Key.ofValue? value).map .only
  | none =>
      match Bound.ofLimit? predicate.lower?, Bound.ofLimit? predicate.upper? with
      | some lower, some upper => some ⟨lower, upper⟩
      | _, _ => none

/-- The predicates on the fields of a record. -/
abbrev WhereClause := SortedMap String Predicate

namespace WhereClause

/-- Whether a field of a record satisfies a predicate. -/
def fieldMatches (record : Record) (field : String) (predicate : Predicate) : Bool :=
  match record.get? field with
  | some value => predicate.accepts value
  | none => false

/-- Whether a record satisfies every predicate. -/
def accepts (clause : WhereClause) (record : Record) : Bool :=
  clause.toList.all fun (field, predicate) => fieldMatches record field predicate

/-- The list key of several fields, if each is asked for one value that is a
key. -/
def compositeKey? (clause : WhereClause) (fields : List String) : Option Key :=
  (fields.mapM fun field => (clause.get? field).bind Predicate.exactKey?).map .tuple

end WhereClause

end RecordBase
