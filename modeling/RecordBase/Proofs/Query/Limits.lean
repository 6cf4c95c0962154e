import RecordBase.Query.Predicate

/-!
# Limits put on a comparison

A comparison that asks for no one value is known by its two limits, and a value satisfies it
if it is beyond both. A limit that is put on a comparison replaces the one on its own side and
leaves the other. So of limits that are put one after the other, on whatever comparison, the
last one on each side counts, and limits on opposite sides can be put in either order.
-/

namespace RecordBase

namespace Comparison

variable {comparison other : Comparison} {limit : Limit}

/-! ## Comparisons and their limits -/

/-- Comparisons that ask for no one value are the same if their limits are. -/
theorem eq_of_limits (inexact : comparison.exactValue? = none)
    (otherInexact : other.exactValue? = none) (lower : comparison.lower? = other.lower?)
    (upper : comparison.upper? = other.upper?) :
    comparison = other := by
  cases comparison <;> cases other <;> simp_all [exactValue?, lower?, upper?]

/-- A value satisfies a comparison that asks for no one value if it is beyond each limit. -/
theorem accepts_iff_limits (inexact : comparison.exactValue? = none) (value : Value) :
    comparison.accepts value = true ↔
      (∀ lower, comparison.lower? = some lower → (above lower).accepts value = true) ∧
        ∀ upper, comparison.upper? = some upper → (below upper).accepts value = true := by
  cases comparison with
  | equal expected => contradiction
  | below upper => simp [lower?, upper?]
  | above lower => simp [lower?, upper?]
  | between lower upper => simp [lower?, upper?, accepts]

@[simp]
theorem exactValue?_withLower : (comparison.withLower limit).exactValue? = none := by
  cases comparison <;> rfl

@[simp]
theorem lower?_withLower : (comparison.withLower limit).lower? = some limit := by
  cases comparison <;> rfl

@[simp]
theorem upper?_withLower : (comparison.withLower limit).upper? = comparison.upper? := by
  cases comparison <;> rfl

@[simp]
theorem exactValue?_withUpper : (comparison.withUpper limit).exactValue? = none := by
  cases comparison <;> rfl

@[simp]
theorem lower?_withUpper : (comparison.withUpper limit).lower? = comparison.lower? := by
  cases comparison <;> rfl

@[simp]
theorem upper?_withUpper : (comparison.withUpper limit).upper? = some limit := by
  cases comparison <;> rfl

end Comparison

/-! ## Limits put one after the other -/

namespace Restriction

/-- The limit that is put from below. -/
def lower? : Restriction → Option Limit
  | gt value => some ⟨value, false⟩
  | gte value => some ⟨value, true⟩
  | lt _ | lte _ => none

/-- The limit that is put from above. -/
def upper? : Restriction → Option Limit
  | gt _ | gte _ => none
  | lt value => some ⟨value, false⟩
  | lte value => some ⟨value, true⟩

/-- One limit is put from below and the other from above. -/
def Opposite (first second : Restriction) : Prop :=
  first.lower?.isSome ≠ second.lower?.isSome

end Restriction

namespace Comparison

variable {comparison : Comparison} {restrictions : List Restriction}

theorem exactValue?_restrict (restriction : Restriction) :
    (comparison.restrict restriction).exactValue? = none := by
  cases restriction <;> simp [restrict]

theorem lower?_restrict (comparison : Comparison) (restriction : Restriction) :
    (comparison.restrict restriction).lower? = restriction.lower?.or comparison.lower? := by
  cases restriction <;> simp [restrict, Restriction.lower?]

theorem upper?_restrict (comparison : Comparison) (restriction : Restriction) :
    (comparison.restrict restriction).upper? = restriction.upper?.or comparison.upper? := by
  cases restriction <;> simp [restrict, Restriction.upper?]

/-- Limits on opposite sides can be put in either order. -/
theorem restrict_comm {first second : Restriction} (opposite : first.Opposite second) :
    (comparison.restrict first).restrict second = (comparison.restrict second).restrict first := by
  apply eq_of_limits (exactValue?_restrict _) (exactValue?_restrict _)
  · rw [lower?_restrict, lower?_restrict, lower?_restrict, lower?_restrict]
    cases first <;> cases second <;> first | rfl | exact absurd rfl opposite
  · rw [upper?_restrict, upper?_restrict, upper?_restrict, upper?_restrict]
    cases first <;> cases second <;> first | rfl | exact absurd rfl opposite

/-- Puts limits one after the other. -/
def restrictAll (comparison : Comparison) (restrictions : List Restriction) : Comparison :=
  restrictions.foldl restrict comparison

theorem exactValue?_restrictAll (nonempty : restrictions ≠ []) :
    (comparison.restrictAll restrictions).exactValue? = none := by
  rcases List.eq_nil_or_concat restrictions with rfl | ⟨front, last, rfl⟩
  · contradiction
  · rw [restrictAll, List.concat_eq_append, List.foldl_append]
    exact exactValue?_restrict last

/-- A part of a comparison that a limit replaces, if it is put there, is the last that was put
there, or else what it was at the start. -/
theorem restrictAll_last {part : Comparison → Option Limit} {put : Restriction → Option Limit}
    (replaces : ∀ comparison restriction,
      part (comparison.restrict restriction) = (put restriction).or (part comparison))
    (comparison : Comparison) (restrictions : List Restriction) :
    part (comparison.restrictAll restrictions) =
      (restrictions.reverse.findSome? put).or (part comparison) := by
  induction restrictions generalizing comparison with
  | nil => rfl
  | cons first rest inductionHypothesis =>
      have step := inductionHypothesis (comparison.restrict first)
      rw [replaces, ← Option.or_assoc] at step
      rw [List.reverse_cons, List.findSome?_append, List.findSome?_singleton]
      exact step

/-- Of limits put on a comparison one after the other the last on each side counts, and limits on
opposite sides may be put in either order. -/
theorem last_limits_count (comparison : Comparison) (nonempty : restrictions ≠ []) :
    let result := comparison.restrictAll restrictions
    (result.exactValue? = none ∧
      result.lower? =
        (restrictions.reverse.findSome? Restriction.lower?).or comparison.lower? ∧
      result.upper? =
        (restrictions.reverse.findSome? Restriction.upper?).or comparison.upper? ∧
      (∀ value, result.accepts value = true ↔
        (∀ lower, result.lower? = some lower → (above lower).accepts value = true) ∧
          ∀ upper, result.upper? = some upper → (below upper).accepts value = true) ∧
      ∀ front first second back, restrictions = front ++ first :: second :: back →
        first.Opposite second →
          comparison.restrictAll (front ++ second :: first :: back) = result) ∧
    ∀ lower upper : Limit,
      (above lower).and (below upper) = (below upper).and (above lower) ∧
      Predicate.ofPair (above lower) (below upper) =
        .compare ((above lower).and (below upper)) ∧
      Predicate.ofPair (below upper) (above lower) =
        .compare ((above lower).and (below upper)) ∧
      ∀ value, (Predicate.ofPair (above lower) (below upper)).accepts value = true ↔
        (above lower).accepts value = true ∧ (below upper).accepts value = true := by
  intro result
  have inexact : result.exactValue? = none := exactValue?_restrictAll nonempty
  refine ⟨⟨inexact, restrictAll_last lower?_restrict comparison restrictions,
    restrictAll_last upper?_restrict comparison restrictions, accepts_iff_limits inexact, ?_⟩, ?_⟩
  · intro front first second back split opposite
    simp only [result, split, restrictAll, List.foldl_append, List.foldl_cons,
      restrict_comm opposite]
  · intro lower upper
    refine ⟨rfl, rfl, rfl, ?_⟩
    intro value
    exact Bool.and_eq_true_iff

/-- A comparison for `"a"` that is bounded by `> "b"`, `< "y"` and `>= "c"` asks for what is from
`"c"` on and below `"y"`. -/
theorem last_limits_count_from_equal :
    let gtB := Restriction.gt (.string "b")
    let ltY := Restriction.lt (.string "y")
    let gteC := Restriction.gte (.string "c")
    let result := (equal (.string "a")).restrictAll [gtB, ltY, gteC]
    [gtB, ltY, gteC] ≠ [] ∧ gtB.Opposite ltY ∧
      result.exactValue? = none ∧
      result.lower? = some ⟨.string "c", true⟩ ∧
      result.upper? = some ⟨.string "y", false⟩ ∧
      (equal (.string "a")).restrictAll [ltY, gtB, gteC] = result := by
  intro gtB ltY gteC result
  have nonempty : [gtB, ltY, gteC] ≠ [] := List.cons_ne_nil _ _
  have opposite : gtB.Opposite ltY := Bool.noConfusion
  obtain ⟨⟨inexact, lower, upper, -, exchange⟩, -⟩ :=
    last_limits_count (equal (.string "a")) nonempty
  exact ⟨nonempty, opposite, inexact, lower, upper, exchange [] gtB ltY [gteC] rfl opposite⟩

end Comparison

end RecordBase
