import RecordBase.Proofs.Query.Transparency

/-!
# Results in their order

Whether a plan hands out its matches during the walk or sorts them first, it acts on a
page of one list: its matches in the order of the result. Skip and limit cut the page,
and a traversal for a single record takes the first of the page.
-/

namespace RecordBase

/-! ## Slices -/

/-- A page is the part of a list between two places, or from a place to the end. -/
theorem page_eq_extract {α : Type} (skip : Nat) (limit : Option Nat) (items : List α) :
    page skip limit items = items.extract skip (limit.elim items.length (skip + ·)) := by
  rw [List.extract_eq_take_drop]
  cases limit with
  | none => rw [page, Option.elim_none, ← List.length_drop, List.take_length]
  | some limit => rw [page, Option.elim_some, Nat.add_sub_cancel_left]

/-- The first item of a page is the one that a page of one item holds. -/
theorem page_single {α : Type} {limit : Option Nat} (nonzero : limit ≠ some 0) (skip : Nat)
    (items : List α) : page skip (some 1) items = (page skip limit items).take 1 := by
  cases limit with
  | none => rfl
  | some limit =>
      have positive : 1 ≤ limit := by
        apply Nat.one_le_iff_ne_zero.mpr
        rintro rfl
        exact nonzero rfl
      rw [page, page, List.take_take, Nat.min_eq_left positive]

/-- A page of some items and what comes behind it are all items from its place on. -/
theorem page_append {α : Type} (skip limit : Nat) (items : List α) :
    page skip (some limit) items ++ items.drop (skip + limit) = items.drop skip := by
  rw [page, ← List.drop_drop, List.take_append_drop]

/-! ## The matches of a plan -/

namespace Traversal

/-- All matches of a traversal, in the order of the result. -/
def inOrder (traversal : Traversal) (store : Store) : List (Key × Record) :=
  let candidates :=
    traversal.matching (traversal.plan.source.rows store traversal.plan.direction)
  if traversal.plan.isStreaming then candidates
  else Record.sortBy Prod.snd traversal.plan.order candidates

variable {traversal : Traversal} {type : RecordType} {store : Store} {request : Request}

theorem inOrder_of_isStreaming (streams : traversal.plan.isStreaming = true) :
    traversal.inOrder store =
      traversal.matching (traversal.plan.source.rows store traversal.plan.direction) :=
  if_pos streams

theorem inOrder_of_not_isStreaming (materializes : traversal.plan.isStreaming = false) :
    traversal.inOrder store = Record.sortBy Prod.snd traversal.plan.order
      (traversal.matching (traversal.plan.source.rows store traversal.plan.direction)) :=
  if_neg (Bool.eq_false_iff.mp materializes)

/-- A traversal acts on a page of its matches, unless it can find nothing. -/
theorem chosen_eq_page (limited : traversal.plan.limit ≠ some 0) :
    traversal.chosen store =
      page traversal.plan.skip traversal.limit (traversal.inOrder store) := by
  have nonzero : ¬ traversal.plan.isZeroLimit = true := fun zero => limited (eq_of_beq zero)
  simp only [chosen, inOrder, if_neg nonzero]
  split <;> rfl

/-- A traversal for all records acts on the page that its plan asks for. -/
theorem chosen_of_not_single (all : traversal.single = false) :
    traversal.chosen store =
      page traversal.plan.skip traversal.plan.limit (traversal.inOrder store) := by
  by_cases limited : traversal.plan.limit = some 0
  · simp [chosen, Plan.isZeroLimit, limited, page]
  · rw [chosen_eq_page limited, limit, all]
    rfl

/-- A traversal for a single record acts on the first of those that a find of the same
request gives. -/
theorem chosen_single (type : RecordType) (store : Store) (request : Request)
    (operation : Operation) :
    (ofRequest type request operation true).chosen store =
      ((ofRequest type request .find false).chosen store).take 1 := by
  by_cases limited : request.limit = some 0
  · have nothing : ∀ operation single,
        (ofRequest type request operation single).chosen store = [] := by
      intro operation single
      have zero : (Plan.ofRequest type request).isZeroLimit = true := beq_iff_eq.mpr limited
      simp only [chosen]
      exact if_pos zero
    rw [nothing, nothing]
    rfl
  · have every : (ofRequest type request .find false).chosen store =
        page (Plan.ofRequest type request).skip (Plan.ofRequest type request).limit
          ((ofRequest type request .find false).inOrder store) := chosen_of_not_single rfl
    rw [every]
    exact (chosen_eq_page limited).trans (page_single limited _ _)

/-- The matches do not depend on the part that is asked for. -/
theorem inOrder_ofRequest (type : RecordType) (store : Store) (request : Request) :
    (ofRequest type request .find false).inOrder store =
      (ofRequest type { clause := request.clause, order := request.order } .find false).inOrder
        store :=
  rfl

/-- Without skip and limit a find gives all matches. -/
theorem chosen_whole (type : RecordType) (store : Store) (clause : WhereClause)
    (order : List SortKey) :
    (ofRequest type { clause, order } .find false).chosen store =
      (ofRequest type { clause, order } .find false).inOrder store :=
  chosen_of_not_single rfl

/-- A find gives a page of what it gives without skip and limit. -/
theorem chosen_find (type : RecordType) (store : Store) (request : Request) :
    (ofRequest type request .find false).chosen store =
      page (request.skip.getD 0) request.limit
        ((ofRequest type { clause := request.clause, order := request.order } .find
          false).chosen store) := by
  rw [chosen_of_not_single rfl, chosen_whole, inOrder_ofRequest]
  rfl

end Traversal

end RecordBase
