/-!
# Sorted maps

A sorted map is a list of bindings in strictly ascending key order. The order
is a proof field, so two maps with the same bindings are the same map, the
smallest binding is the first one, and no operation needs a well-formedness
hypothesis.

The functions `lookupEntry`, `insertEntry` and `eraseEntry` on lists do the
work; the map operations package them with the proofs that the order is kept.
-/

namespace RecordBase

universe u v w

namespace SortedMap

variable {α : Type u} {β : Type v} [Ord α]

/-- Strictly ascending keys: every binding comes before every later one. -/
def Ascending (entries : List (α × β)) : Prop :=
  entries.Pairwise fun earlier later => compare earlier.1 later.1 = .lt

/-- Puts a binding at its place, over an old binding of the same key. -/
def insertEntry (key : α) (value : β) : List (α × β) → List (α × β)
  | [] => [(key, value)]
  | entry :: rest =>
      match compare key entry.1 with
      | .lt => (key, value) :: entry :: rest
      | .eq => (key, value) :: rest
      | .gt => entry :: insertEntry key value rest

/-- The value that a key is bound to. -/
def lookupEntry (key : α) (entries : List (α × β)) : Option β :=
  (entries.find? fun entry => compare entry.1 key == .eq).map Prod.snd

/-- Drops the binding of a key, if there is one. -/
def eraseEntry (key : α) (entries : List (α × β)) : List (α × β) :=
  entries.filter fun entry => compare entry.1 key != .eq

@[simp]
theorem insertEntry_nil (key : α) (value : β) :
    insertEntry key value [] = [(key, value)] :=
  rfl

/-- An inserted list holds the new binding and bindings it held before. -/
theorem mem_of_mem_insertEntry {key : α} {value : β} {entries : List (α × β)}
    {entry : α × β} (member : entry ∈ insertEntry key value entries) :
    entry = (key, value) ∨ entry ∈ entries := by
  induction entries with
  | nil => simpa using member
  | cons head rest inductionHypothesis =>
      rw [insertEntry] at member
      split at member
      · simpa using member
      · rcases List.mem_cons.mp member with new | old
        · exact .inl new
        · exact .inr (List.mem_cons_of_mem _ old)
      · rcases List.mem_cons.mp member with first | later
        · exact .inr (first ▸ List.mem_cons_self)
        · rcases inductionHypothesis later with new | old
          · exact .inl new
          · exact .inr (List.mem_cons_of_mem _ old)

theorem ascending_insertEntry [Std.TransOrd α] {key : α} {value : β}
    {entries : List (α × β)} (ascending : Ascending entries) :
    Ascending (insertEntry key value entries) := by
  induction entries with
  | nil => simp [Ascending]
  | cons head rest inductionHypothesis =>
      have later : ∀ entry ∈ rest, compare head.1 entry.1 = .lt :=
        (List.pairwise_cons.mp ascending).1
      rw [insertEntry]
      split
      · rename_i before
        refine List.pairwise_cons.mpr ⟨?_, ascending⟩
        intro entry member
        rcases List.mem_cons.mp member with first | rest
        · exact first ▸ before
        · exact Std.TransCmp.lt_trans before (later entry rest)
      · rename_i same
        refine List.pairwise_cons.mpr ⟨?_, ascending.of_cons⟩
        intro entry member
        exact Std.TransCmp.lt_of_eq_of_lt same (later entry member)
      · rename_i after
        refine List.pairwise_cons.mpr ⟨?_, inductionHypothesis ascending.of_cons⟩
        intro entry member
        rcases mem_of_mem_insertEntry member with new | old
        · exact new ▸ Std.OrientedCmp.gt_iff_lt.mp after
        · exact later entry old

theorem ascending_eraseEntry {key : α} {entries : List (α × β)}
    (ascending : Ascending entries) : Ascending (eraseEntry key entries) :=
  List.Pairwise.sublist List.filter_sublist ascending

end SortedMap

/-- A finite map whose bindings stand in strictly ascending key order. -/
structure SortedMap (α : Type u) (β : Type v) [Ord α] where
  /-- The bindings, smallest key first. -/
  entries : List (α × β)
  /-- No key occurs twice and the keys ascend. -/
  ascending : SortedMap.Ascending entries

namespace SortedMap

variable {α : Type u} {β : Type v} {γ : Type w} [Ord α]

/-- Maps with the same bindings are equal. -/
@[ext]
theorem ext {left right : SortedMap α β} (entries : left.entries = right.entries) :
    left = right := by
  cases left
  cases right
  simpa using entries

instance [DecidableEq α] [DecidableEq β] : DecidableEq (SortedMap α β) :=
  fun left right =>
    decidable_of_iff (left.entries = right.entries)
      ⟨ext, fun equal => congrArg entries equal⟩

/-- The map with no binding. -/
def empty : SortedMap α β :=
  ⟨[], List.Pairwise.nil⟩

/-- The value bound to a key. -/
def get? (map : SortedMap α β) (key : α) : Option β :=
  lookupEntry key map.entries

/-- Whether a key is bound. -/
def contains (map : SortedMap α β) (key : α) : Bool :=
  (map.get? key).isSome

/-- Binds a key, replacing its old value. -/
def insert [Std.TransOrd α] (map : SortedMap α β) (key : α) (value : β) :
    SortedMap α β :=
  ⟨insertEntry key value map.entries, ascending_insertEntry map.ascending⟩

/-- Unbinds a key. -/
def erase (map : SortedMap α β) (key : α) : SortedMap α β :=
  ⟨eraseEntry key map.entries, ascending_eraseEntry map.ascending⟩

/-- The map of a list of bindings, where the last binding of a key counts. -/
def ofList [Std.TransOrd α] (bindings : List (α × β)) : SortedMap α β :=
  bindings.foldl (fun map binding => map.insert binding.1 binding.2) empty

/-- The bindings in ascending key order. -/
def toList (map : SortedMap α β) : List (α × β) :=
  map.entries

/-- The keys in ascending order. -/
def keys (map : SortedMap α β) : List α :=
  map.entries.map Prod.fst

/-- The values in the order of their keys. -/
def values (map : SortedMap α β) : List β :=
  map.entries.map Prod.snd

/-- The number of bindings. -/
def size (map : SortedMap α β) : Nat :=
  map.entries.length

/-- Whether nothing is bound. -/
def isEmpty (map : SortedMap α β) : Bool :=
  map.entries.isEmpty

/-- The same keys with transformed values. -/
def mapValues (transform : α → β → γ) (map : SortedMap α β) : SortedMap α γ :=
  ⟨map.entries.map fun entry => (entry.1, transform entry.1 entry.2), by
    simpa [Ascending, List.pairwise_map] using map.ascending⟩

end SortedMap

end RecordBase
