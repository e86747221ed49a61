namespace QueryAgent

/-!
# Jobs

What the controller hands out and what it gets back for it.
-/

/-- What a job asks for. -/
inductive JobKind where
  | ping
  | fetchColumns
  | query
  | schemaRefresh
  | unknown (name : String)
deriving Repr, DecidableEq

namespace JobKind

/-- The kind of a name. -/
def ofName
    (name : String) : JobKind :=
  match name with
  | "ping" => .ping
  | "fetch_columns" => .fetchColumns
  | "dsl_query" => .query
  | "schema_refresh" => .schemaRefresh
  | other => .unknown other

/-- The name of a kind. -/
def name : JobKind → String
  | .ping => "ping"
  | .fetchColumns => "fetch_columns"
  | .query => "dsl_query"
  | .schemaRefresh => "schema_refresh"
  | .unknown name => name

/-- The kinds that the agent tells the controller it supports. -/
def supported : List JobKind :=
  [.ping, .fetchColumns, .query, .schemaRefresh]

/-- Whether the kind's name is not known. -/
def isUnknown : JobKind → Bool
  | .unknown _ => true
  | _ => false

end JobKind

/-- A unit of work, with the payload as it arrived. -/
structure Job where
  id : String
  kind : JobKind
  payload : String
deriving Repr, DecidableEq

/-- What is reported for a job. -/
structure JobOutcome where
  succeeded : Bool
  resultPayload : String
  errorMessage : String
deriving Repr, DecidableEq

namespace JobOutcome

/-- The payload of an outcome without a result: an empty object. -/
def emptyResult : String := "\x7b\x7d"

/-- The outcome of a job that was done. -/
def success
    (resultPayload : String) : JobOutcome where
  succeeded := true
  resultPayload := resultPayload
  errorMessage := ""

/-- The outcome of a job that failed. -/
def failure
    (errorMessage : String) : JobOutcome where
  succeeded := false
  resultPayload := emptyResult
  errorMessage := errorMessage

end JobOutcome

end QueryAgent
