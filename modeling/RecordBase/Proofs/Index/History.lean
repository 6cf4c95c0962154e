import Mathlib.Data.List.Induction
import RecordBase.Proofs.Index.Entries

/-!
# Histories of an index

An index comes about by inserting and removing entries. It holds exactly those
that were inserted and not removed since, and it keeps no index key without one
of them.
-/

namespace RecordBase

namespace IndexTree

/-- A change of an index. -/
inductive Change where
  | insert (key primary : Key)
  | remove (key primary : Key)

/-- The index after a change. -/
def after (tree : IndexTree) : Change → IndexTree
  | .insert key primary => tree.insert key primary
  | .remove key primary => tree.remove key primary

/-- The index that a list of changes makes of the empty one. -/
def ofHistory (history : List Change) : IndexTree :=
  history.foldl after empty

theorem ofHistory_concat (history : List Change) (change : Change) :
    ofHistory (history ++ [change]) = (ofHistory history).after change := by
  rw [ofHistory, List.foldl_append]
  rfl

theorem Tight.after {tree : IndexTree} (tight : tree.Tight) (change : Change) :
    (tree.after change).Tight := by
  cases change with
  | insert key primary => exact tight.insert key primary
  | remove key primary => exact tight.remove key primary

theorem tight_ofHistory (history : List Change) : (ofHistory history).Tight := by
  induction history using List.reverseRecOn with
  | nil => exact tight_empty
  | append_singleton history change inductionHypothesis =>
      rw [ofHistory_concat]
      exact inductionHypothesis.after change

/-! ## Entries that stand -/

/-- An entry that was inserted and not removed since. -/
def Standing (history : List Change) (entry : Key × Key) : Prop :=
  ∃ before after, history = before ++ .insert entry.1 entry.2 :: after ∧
    .remove entry.1 entry.2 ∉ after

theorem not_standing_nil (entry : Key × Key) : ¬ Standing [] entry := by
  rintro ⟨before, after, split, _⟩
  simp at split

/-- An entry stands after a change that inserts it, or if it stood before one that
does not remove it. -/
theorem standing_concat {history : List Change} {change : Change} {entry : Key × Key} :
    Standing (history ++ [change]) entry ↔
      change = .insert entry.1 entry.2 ∨
        Standing history entry ∧ change ≠ .remove entry.1 entry.2 := by
  constructor
  · rintro ⟨before, after, split, kept⟩
    rcases List.eq_nil_or_concat after with rfl | ⟨later, last, rfl⟩
    · obtain ⟨_, same⟩ := List.append_inj' split rfl
      exact .inl (List.head_eq_of_cons_eq same)
    · rw [List.concat_eq_append] at split kept
      rw [← List.cons_append, ← List.append_assoc] at split
      obtain ⟨rfl, same⟩ := List.append_inj' split rfl
      rw [List.mem_append, not_or] at kept
      refine .inr ⟨⟨before, later, rfl, kept.1⟩, ?_⟩
      rintro rfl
      exact kept.2 (same ▸ List.mem_singleton_self _)
  · rintro (rfl | ⟨⟨before, after, rfl, kept⟩, other⟩)
    · exact ⟨history, [], rfl, List.not_mem_nil⟩
    · refine ⟨before, after ++ [change], by simp, ?_⟩
      simp [kept, Ne.symm other]

/-- What a change does to the entries. -/
theorem mem_entries_after {tree : IndexTree} {change : Change} {entry : Key × Key} :
    entry ∈ (tree.after change).entries ↔
      change = .insert entry.1 entry.2 ∨
        entry ∈ tree.entries ∧ change ≠ .remove entry.1 entry.2 := by
  obtain ⟨key, primary⟩ := entry
  cases change with
  | insert changed other => simp [after, mem_entries_insert, eq_comm]
  | remove changed other => simp [after, mem_entries_remove, eq_comm]

/-- The entries of an index are those that were inserted and not removed since. -/
theorem mem_entries_ofHistory {history : List Change} {entry : Key × Key} :
    entry ∈ (ofHistory history).entries ↔ Standing history entry := by
  induction history using List.reverseRecOn with
  | nil => simp [ofHistory, not_standing_nil]
  | append_singleton history change inductionHypothesis =>
      rw [ofHistory_concat, mem_entries_after, standing_concat, inductionHypothesis]

end IndexTree

end RecordBase
