import RecordBase.Query.Request
import RecordBase.Query.Selection

/-!
# Plans

A plan says what is walked, in which direction, and how the result is
finished. Where the walk already goes in the order asked for, records are
passed on as they are met, and the walk ends at the last one needed. Any
other order has all matches collected and sorted first.
-/

namespace RecordBase

/-- How the result of a walk is finished. -/
inductive Strategy where
  /-- Matches are passed over and handed out during the walk. -/
  | stream
  /-- All matches are collected, sorted and cut. -/
  | materialize
deriving DecidableEq

/-- The word for a strategy. -/
def Strategy.name : Strategy → String
  | stream => "STREAM"
  | materialize => "MATERIALIZE"

/-- The word for a sort direction. -/
def SortDirection.name : SortDirection → String
  | ascending => "ASC"
  | descending => "DESC"

/-- The direction of a walk that meets primary keys in a sort direction. -/
def SortDirection.walk : SortDirection → Direction
  | ascending => .forward
  | descending => .reverse

/-- How a request is answered. -/
structure Plan where
  storeName : String
  source : ScanSource
  direction : Direction
  strategy : Strategy
  /-- What every record met on the walk is checked against. -/
  clause : WhereClause
  order : List SortKey
  skip : Nat
  limit : Option Nat

namespace Plan

/-- The strategy and the direction for an order over a source. A walk in
primary-key order can be taken either way; any other goes forward. -/
def strategyFor (type : RecordType) (source : ScanSource) :
    List SortKey → Strategy × Direction
  | [] => (.stream, .forward)
  | [only] =>
      if only.field = type.primaryField ∧ source.isPrimaryOrder then
        (.stream, only.direction.walk)
      else
        (.materialize, .forward)
  | _ => (.materialize, .forward)

/-- The plan of a request. -/
def ofRequest (type : RecordType) (request : Request) : Plan :=
  let source := (Selection.choose type request.clause).source request.clause
  let (strategy, direction) := strategyFor type source request.order
  { storeName := type.storeName
    source
    direction
    strategy
    clause := request.clause
    order := request.order
    skip := request.skip.getD 0
    limit := request.limit }

/-- Whether a plan can find nothing. -/
def isZeroLimit (plan : Plan) : Bool :=
  plan.limit == some 0

/-- Whether records are handed out during the walk. -/
def isStreaming (plan : Plan) : Bool :=
  plan.strategy = .stream

/-- A plan in one line. -/
def text (plan : Plan) : String :=
  let skip := if 0 < plan.skip then " skip=" ++ Number.integerText plan.skip else ""
  let limit := match plan.limit with
    | some limit => " limit=" ++ Number.integerText limit
    | none => ""
  plan.storeName ++ " " ++ plan.source.text ++ " " ++ plan.direction.name ++ " "
    ++ plan.strategy.name ++ skip ++ limit

end Plan

end RecordBase
