import QueryAgent.Data.ResultSet
import QueryAgent.Mock.Pattern
import QueryAgent.Query.Basic

namespace QueryAgent.Mock

/-!
# Comparing cells with parameters

An absent value compares with nothing, and neither do values of different
kinds, integers and doubles apart.
-/

/-- How a cell stands to a parameter, none when the two do not compare. -/
def compare?
    (cell : Value)
    (param : Param) : Option Ordering :=
  match cell, param with
  | .integer left, .integer right =>
      some (Ord.compare left.toInt right.toInt)
  | .integer left, .float right =>
      (Number.Binary64.ofInt left.toInt).compare? right
  | .float left, .float right =>
      left.compare? right
  | .float left, .integer right =>
      left.compare? (Number.Binary64.ofInt right.toInt)
  | .text left, .text right =>
      some (Ord.compare left right)
  | .date left, .text right =>
      some (Ord.compare left right)
  | .dateTime left, .text right =>
      some (Ord.compare left right)
  | .boolean left, .boolean right =>
      some (Ord.compare left right)
  | _, _ =>
      none

/-- Whether an ordering is what an operator asks for. -/
def acceptsOrdering
    (operator : Operator)
    (ordering : Option Ordering) : Bool :=
  match operator, ordering with
  | .equal, some .eq => true
  | .notEqual, some .lt => true
  | .notEqual, some .gt => true
  | .greaterThan, some .gt => true
  | .greaterOrEqual, some .gt => true
  | .greaterOrEqual, some .eq => true
  | .lessThan, some .lt => true
  | .lessOrEqual, some .lt => true
  | .lessOrEqual, some .eq => true
  | _, _ => false

/-- Whether a cell is absent. -/
def isAbsent : Value → Bool
  | .null => true
  | _ => false

/-- Whether a row satisfies a condition; a column it does not have is absent. -/
def satisfies
    (row : Row)
    (condition : Condition) : Bool :=
  let cell := (row.cell? condition.column).getD .null
  match condition.operator, condition.value with
  | .isNull, _ =>
      isAbsent cell
  | .isNotNull, _ =>
      !isAbsent cell
  | .isIn, some (.list items) =>
      items.any (fun item => compare? cell item == some .eq)
  | .like, some (.text pattern) =>
      match cell with
      | .text content =>
          like content pattern
      | _ =>
          false
  | operator, some param =>
      acceptsOrdering operator (compare? cell param)
  | _, none =>
      false

end QueryAgent.Mock
