import RecordBase.Query.Plan

/-!
# Explanations

A plan laid out for people: one line for each thing that it decides, and one
for each predicate.
-/

namespace RecordBase

/-- What a plan does, in words. -/
structure Explanation where
  store : String
  scanType : String
  index : Option String
  direction : String
  strategy : String
  predicates : List String
  order : List String
  skip : Nat
  limit : Option Nat

namespace Explanation

/-- The explanation of a plan. -/
def ofPlan (plan : Plan) : Explanation :=
  { store := plan.storeName
    scanType := plan.source.kindName
    index := plan.source.indexName?
    direction := plan.direction.name
    strategy := plan.strategy.name
    predicates := plan.clause.toList.map fun (field, predicate) => field ++ " " ++ predicate.text
    order := plan.order.map fun key => key.field ++ " " ++ key.direction.name
    skip := plan.skip
    limit := plan.limit }

/-- The lines of an explanation. What is absent has no line. -/
def lines (explanation : Explanation) : List String :=
  let index := match explanation.index with
    | some index => ["Index: " ++ index]
    | none => []
  let predicates :=
    if explanation.predicates = [] then []
    else "Predicates:" :: explanation.predicates.map ("  - " ++ ·)
  let order :=
    if explanation.order = [] then []
    else ["Order: " ++ String.intercalate ", " explanation.order]
  let skip :=
    if 0 < explanation.skip then ["Skip: " ++ Number.integerText explanation.skip] else []
  let limit := match explanation.limit with
    | some limit => ["Limit: " ++ Number.integerText limit]
    | none => []
  [ "=== EXPLAIN PLAN ==="
  , "Store: " ++ explanation.store
  , "Scan Type: " ++ explanation.scanType ]
    ++ index
    ++ ["Direction: " ++ explanation.direction, "Strategy: " ++ explanation.strategy]
    ++ predicates ++ order ++ skip ++ limit

/-- The text of an explanation, every line ended. -/
def text (explanation : Explanation) : String :=
  String.join (explanation.lines.map (· ++ "\n"))

end Explanation

end RecordBase
