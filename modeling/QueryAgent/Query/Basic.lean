import QueryAgent.Query.Operator
import QueryAgent.Query.Param

namespace QueryAgent

/-!
# Queries

What is selected from which table, under which conditions.
-/

/-- A predicate on one column. -/
structure Condition where
  column : String
  operator : Operator
  value : Option Param
deriving Repr

/-- A selection from one table. -/
structure Query where
  table : String
  schema : Option String
  projection : Option String
  conditions : List Condition
  groupBy : List String
  having : List Condition
  limit : Option Int64
deriving Repr

/-- The limit, which only counts when it is positive. -/
def Query.effectiveLimit
    (query : Query) : Option Int64 :=
  query.limit.filter (fun limit => 0 < limit)

end QueryAgent
