import RecordBase.Proofs.Query.PrimaryOrder

/-!
# Results without ties

Items of which no two tie are sorted into one order, in which they ascend strictly. So
where a result is sorted and no two matches tie, it does not depend on the walk that
met them, and not on the indexes that the walk was chosen from.
-/

namespace RecordBase

/-! ## Sorting without ties -/

namespace Record

variable {α : Type} {record : α → Record} {keys : List SortKey} {items others : List α}

/-- What is sorted ascends strictly where different items do not tie. -/
theorem pairwise_sortBy_lt (distinct : items.Nodup)
    (apart : ∀ first ∈ items, ∀ second ∈ items,
      order keys (record first) (record second) = .eq → first = second) :
    (sortBy record keys items).Pairwise fun first second =>
      order keys (record first) (record second) = .lt := by
  have permutation : (sortBy record keys items).Perm items := List.mergeSort_perm items _
  have different : (sortBy record keys items).Pairwise (· ≠ ·) := permutation.nodup_iff.mpr distinct
  apply ((pairwise_sortBy record keys items).and different).imp_of_mem
  rintro first second firstMember secondMember ⟨before, unequal⟩
  rcases Ordering.isLE_iff_eq_lt_or_eq_eq.mp before with less | tie
  · exact less
  · exact absurd (apart first (permutation.mem_iff.mp firstMember) second
      (permutation.mem_iff.mp secondMember) tie) unequal

/-- Items that do not tie are sorted into one order, however they stood before. -/
theorem sortBy_eq_of_perm (same : items.Perm others)
    (apart : ∀ first ∈ items, ∀ second ∈ items,
      order keys (record first) (record second) = .eq → first = second) :
    sortBy record keys items = sortBy record keys others := by
  have permutation : (sortBy record keys items).Perm items := List.mergeSort_perm items _
  apply ((permutation.trans same).trans (List.mergeSort_perm others _).symm).eq_of_pairwise _
    (pairwise_sortBy record keys items) (pairwise_sortBy record keys others)
  intro first second firstMember secondMember before after
  exact apart first (permutation.mem_iff.mp firstMember) second
    (same.mem_iff.mpr ((List.mergeSort_perm others _).mem_iff.mp secondMember))
    (Std.OrientedCmp.isLE_antisymm before after)

end Record

/-! ## Matches without ties -/

/-- No two of the stored records that satisfy a clause tie in a sort. -/
def Store.Untied (store : Store) (clause : WhereClause) (keys : List SortKey) : Prop :=
  ∀ first ∈ store.accepted clause, ∀ second ∈ store.accepted clause,
    Record.order keys first.2 second.2 = .eq → first.1 = second.1

instance (store : Store) (clause : WhereClause) (keys : List SortKey) :
    Decidable (store.Untied clause keys) :=
  inferInstanceAs (Decidable (∀ first ∈ _, ∀ second ∈ _, _ → _))

section Untied

variable {type : RecordType} {store : Store} {clause : WhereClause} {keys : List SortKey}

theorem Store.Untied.eq_of_tie (untied : store.Untied clause keys) {first second : Key × Record}
    (firstMember : first ∈ store.accepted clause) (secondMember : second ∈ store.accepted clause)
    (tie : Record.order keys first.2 second.2 = .eq) : first = second :=
  (store.ascending_accepted clause).eq_of_keys_eq firstMember secondMember
    (untied first firstMember second secondMember tie)

/-- Where no matches tie, they ascend strictly in the sort. -/
theorem Store.Untied.pairwise_lt (untied : store.Untied clause keys) :
    ((Record.sortBy Prod.snd keys (store.accepted clause)).map Prod.snd).Pairwise
      fun first second => Record.order keys first second = .lt := by
  apply List.pairwise_map.mpr
  apply Record.pairwise_sortBy_lt ((Traversal.nodup_toList _).filter _)
  intro first firstMember second secondMember
  exact untied.eq_of_tie firstMember secondMember

/-- Sorted matches of which no two tie stand in one order, whichever walk has met them. -/
theorem Store.Untied.chosen_eq (untied : store.Untied clause keys) (agrees : type.Agrees store)
    (consistent : store.Consistent)
    (sorts : (Plan.ofRequest type { clause, order := keys }).isStreaming = false) :
    (Traversal.ofRequest type { clause, order := keys } .find false).chosen store =
      Record.sortBy Prod.snd keys (store.accepted clause) := by
  have candidates := @Traversal.matching_rows_perm type store { clause, order := keys } .find false
    agrees consistent (Plan.ofRequest type { clause, order := keys }).direction
  rw [Traversal.chosen_whole, Traversal.inOrder_of_not_isStreaming sorts]
  apply Record.sortBy_eq_of_perm candidates
  intro first firstMember second secondMember
  exact untied.eq_of_tie (candidates.mem_iff.mp firstMember) (candidates.mem_iff.mp secondMember)

end Untied

end RecordBase
