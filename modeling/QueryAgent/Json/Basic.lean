import QueryAgent.Dictionary
import QueryAgent.Number.Binary64

namespace QueryAgent

/-!
# JSON values

Numbers are integers when they were written as such and doubles otherwise.
The members of an object are kept in the order of their names.
-/

/-- A JSON value. -/
inductive Json where
  | null
  | boolean (value : Bool)
  | integer (value : Int)
  | float (value : Number.Binary64)
  | text (value : String)
  | list (items : List Json)
  | object (members : List (String × Json))
deriving Repr, Inhabited

namespace Json

/-- An object of the given members; of members with one name the last one stays. -/
def ofMembers
    (members : List (String × Json)) : Json :=
  .object (sortEntries members)

end Json

end QueryAgent
