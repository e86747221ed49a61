import QueryAgent.Json.Decode
import QueryAgent.Sql.Dialect
import QueryAgent.Text.LowerCase

namespace QueryAgent

/-!
# Backends

The databases that queries can be run on.
-/

/-- A kind of database. -/
inductive Backend where
  | mock
  | postgres
  | mysql
deriving Repr, DecidableEq

namespace Backend

/-- The name of a backend. -/
def name : Backend → String
  | .mock => "mock"
  | .postgres => "postgres"
  | .mysql => "mysql"

/-- The name of a backend in a configuration document. -/
def documentName : Backend → String
  | .mock => "mock"
  | .postgres => "postgresql"
  | .mysql => "mysql"

/-- The backend of a name in any case, or the words that refuse the name. -/
def ofName
    (name : String) : Except String Backend :=
  match Text.lowerCase name with
  | "mock" => .ok .mock
  | "postgres" => .ok .postgres
  | "postgresql" => .ok .postgres
  | "mysql" => .ok .mysql
  | other =>
      .error ("unknown backend '" ++ other ++ "', expected postgres, mysql or mock")

/-- Decodes the name of a backend in a document. -/
def decode : Json.Decoder Backend :=
  Json.decodeVariant
    [(documentName .mock, .mock),
      (documentName .postgres, .postgres),
      (documentName .mysql, .mysql)]

/-- The dialect a backend speaks; the mock backend speaks PostgreSQL's. -/
def dialect : Backend → Sql.Dialect
  | .mysql => .mysql
  | .postgres => .postgres
  | .mock => .postgres

end Backend

end QueryAgent
