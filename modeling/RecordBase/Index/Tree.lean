import RecordBase.Key.Range

/-!
# Index trees

An index holds, under each index key, the set of primary keys of the records
that carry it; a key that no record carries is not held. Its entries, pairs of
an index key and a primary key, are visited in the order of index keys and,
under one index key, of primary keys.
-/

namespace RecordBase

/-- A set of keys in ascending order. -/
abbrev KeySet := SortedMap Key Unit

/-- The entries of a secondary index. -/
structure IndexTree where
  /-- The primary keys under each index key. -/
  primaries : SortedMap Key KeySet

namespace IndexTree

/-- The index of no record. -/
def empty : IndexTree :=
  ⟨.empty⟩

/-- Adds a primary key under an index key. -/
def insert (tree : IndexTree) (key primary : Key) : IndexTree :=
  let held := (tree.primaries.get? key).getD .empty
  ⟨tree.primaries.insert key (held.insert primary ())⟩

/-- Removes a primary key from under an index key, and the index key with its
last primary key. -/
def remove (tree : IndexTree) (key primary : Key) : IndexTree :=
  match tree.primaries.get? key with
  | none => tree
  | some held =>
      let rest := held.erase primary
      if rest.isEmpty then ⟨tree.primaries.erase key⟩ else ⟨tree.primaries.insert key rest⟩

/-- Whether an index key is held by a record other than `primary`. -/
def isTakenByOther (tree : IndexTree) (key primary : Key) : Bool :=
  match tree.primaries.get? key with
  | none => false
  | some held => held.keys.any (· != primary)

/-- The entries in ascending order. -/
def entries (tree : IndexTree) : List (Key × Key) :=
  tree.primaries.entries.flatMap fun held =>
    held.2.keys.map fun primary => (held.1, primary)

/-- The next primary key under the index key of a position, where the range
has that index key. -/
def nextPrimary? (tree : IndexTree) (range : KeyRange) (position : Key × Key)
    (direction : Direction) : Option Key :=
  if range.contains position.1 then
    (tree.primaries.get? position.1).bind fun held =>
      (held.seek .unbounded (some position.2) direction).map Prod.fst
  else
    none

/-- The entry of a range that a walk standing at `position` comes to next. What
is left under the current index key comes before the next index key. -/
def nextEntry (tree : IndexTree) (range : KeyRange) (position : Option (Key × Key))
    (direction : Direction) : Option (Key × Key) :=
  match position.bind fun at' => (tree.nextPrimary? range at' direction).map (at'.1, ·) with
  | some entry => some entry
  | none =>
      match tree.primaries.seek range (position.map Prod.fst) direction with
      | some (key, held) =>
          (held.firstIn? .unbounded direction).map fun primary => (key, primary.1)
      | none => none

/-- The next `steps` entries of a walk that stands at `position`. -/
def walkFrom (tree : IndexTree) (range : KeyRange) (direction : Direction) :
    Nat → Option (Key × Key) → List (Key × Key)
  | 0, _ => []
  | steps + 1, position =>
      match tree.nextEntry range position direction with
      | some entry => entry :: walkFrom tree range direction steps (some entry)
      | none => []

/-- A whole walk over a range. It ends after at most as many steps as there
are entries. -/
def walk (tree : IndexTree) (range : KeyRange) (direction : Direction) : List (Key × Key) :=
  tree.walkFrom range direction tree.entries.length none

end IndexTree

end RecordBase
