import RecordBase.Value.Comparison
import RecordBase.Value.Text

/-!
# Comparisons

A comparison asks for one value, or for all values beyond a limit on one side
or on both. A limit can be put on a comparison that has one already: on the
open side it adds to the other one, and on its own side it replaces it. A
comparison for one value has no open side, so a limit replaces it as a whole.
-/

namespace RecordBase

/-- A value that bounds others, and whether it is among them. -/
structure Limit where
  value : Value
  inclusive : Bool

/-- What a field is compared with. -/
inductive Comparison where
  | equal (value : Value)
  /-- Values below a limit. -/
  | below (upper : Limit)
  /-- Values above a limit. -/
  | above (lower : Limit)
  | between (lower upper : Limit)

/-- A limit that can be put on a comparison: greater than a value, at least the value,
less than it, or at most the value. -/
inductive Restriction where
  | gt (value : Value)
  | gte (value : Value)
  | lt (value : Value)
  | lte (value : Value)

namespace Comparison

/-- The limit from below. -/
def lower? : Comparison → Option Limit
  | above lower => some lower
  | between lower _ => some lower
  | _ => none

/-- The limit from above. -/
def upper? : Comparison → Option Limit
  | below upper => some upper
  | between _ upper => some upper
  | _ => none

/-- The one value asked for. -/
def exactValue? : Comparison → Option Value
  | equal value => some value
  | _ => none

/-- Puts a limit from below. -/
def withLower (comparison : Comparison) (lower : Limit) : Comparison :=
  match comparison with
  | below upper => between lower upper
  | between _ upper => between lower upper
  | above _ => above lower
  | equal _ => above lower

/-- Puts a limit from above. -/
def withUpper (comparison : Comparison) (upper : Limit) : Comparison :=
  match comparison with
  | above lower => between lower upper
  | between lower _ => between lower upper
  | below _ => below upper
  | equal _ => below upper

/-- Puts a limit on one side. -/
def restrict (comparison : Comparison) : Restriction → Comparison
  | .gt value => comparison.withLower ⟨value, false⟩
  | .gte value => comparison.withLower ⟨value, true⟩
  | .lt value => comparison.withUpper ⟨value, false⟩
  | .lte value => comparison.withUpper ⟨value, true⟩

/-- Puts the limits that a comparison has, if it has them. -/
def withLimits (comparison : Comparison) (lower upper : Option Limit) : Comparison :=
  let bounded := match lower with
    | some lower => comparison.withLower lower
    | none => comparison
  match upper with
  | some upper => bounded.withUpper upper
  | none => bounded

/-- Puts the limits of a second comparison on a first. Where one of them asks
for one value it stands alone, the second before the first. -/
def and (first second : Comparison) : Comparison :=
  match first, second with
  | _, equal value => equal value
  | equal value, _ => equal value
  | first, second => first.withLimits second.lower? second.upper?

/-- The name of a comparison. -/
def name : Comparison → String
  | equal _ => "eq"
  | below upper => if upper.inclusive then "lte" else "lt"
  | above lower => if lower.inclusive then "gte" else "gt"
  | between _ _ => "between"

/-- A comparison as it is written after the name of its field. -/
def text : Comparison → String
  | equal value => "= " ++ value.text
  | below upper => (if upper.inclusive then "<= " else "< ") ++ upper.value.text
  | above lower => (if lower.inclusive then ">= " else "> ") ++ lower.value.text
  | between lower upper =>
      "in " ++ (if lower.inclusive then "[" else "(") ++ lower.value.text ++ ", "
        ++ upper.value.text ++ (if upper.inclusive then "]" else ")")

end Comparison

namespace Limit

/-- Whether a value is beyond a limit from below. -/
def admitsAbove (lower : Limit) (value : Value) : Bool :=
  match value.order? lower.value with
  | some .gt => true
  | some .eq => lower.inclusive
  | _ => false

/-- Whether a value is beyond a limit from above. -/
def admitsBelow (upper : Limit) (value : Value) : Bool :=
  match value.order? upper.value with
  | some .lt => true
  | some .eq => upper.inclusive
  | _ => false

end Limit

/-- Whether a value is one that a comparison asks for. A value that cannot be
ordered with a limit is not beyond it. -/
def Comparison.accepts (comparison : Comparison) (value : Value) : Bool :=
  match comparison with
  | equal expected => value.equal expected
  | below upper => upper.admitsBelow value
  | above lower => lower.admitsAbove value
  | between lower upper => lower.admitsAbove value && upper.admitsBelow value

end RecordBase
