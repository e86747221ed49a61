namespace QueryAgent

/-!
# Condition operators

The comparisons that a condition can make, by the names that descriptions give
them.  A name that is not known is kept, and refused when it is compiled.
-/

/-- A comparison of a column with a value. -/
inductive Operator where
  | equal
  | notEqual
  | greaterThan
  | greaterOrEqual
  | lessThan
  | lessOrEqual
  | like
  | isIn
  | isNull
  | isNotNull
  | unsupported (name : String)
deriving Repr, DecidableEq

namespace Operator

/-- The operator of a name. -/
def ofName
    (name : String) : Operator :=
  match name with
  | "equal" => .equal
  | "not_equal" => .notEqual
  | "greater_than" => .greaterThan
  | "greater_or_equal" => .greaterOrEqual
  | "greater_than_or_equal" => .greaterOrEqual
  | "less_than" => .lessThan
  | "less_or_equal" => .lessOrEqual
  | "less_than_or_equal" => .lessOrEqual
  | "like" => .like
  | "in" => .isIn
  | "is_null" => .isNull
  | "is_not_null" => .isNotNull
  | other => .unsupported other

/-- The name of an operator. -/
def name : Operator → String
  | .equal => "equal"
  | .notEqual => "not_equal"
  | .greaterThan => "greater_than"
  | .greaterOrEqual => "greater_or_equal"
  | .lessThan => "less_than"
  | .lessOrEqual => "less_or_equal"
  | .like => "like"
  | .isIn => "in"
  | .isNull => "is_null"
  | .isNotNull => "is_not_null"
  | .unsupported name => name

/-- Whether the operator compares with a value. -/
def takesValue : Operator → Bool
  | .isNull => false
  | .isNotNull => false
  | .unsupported _ => false
  | _ => true

/-- Whether the operator's name is not known. -/
def isUnsupported : Operator → Bool
  | .unsupported _ => true
  | _ => false

end Operator

end QueryAgent
