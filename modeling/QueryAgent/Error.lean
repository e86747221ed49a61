import QueryAgent.Text.Digits

namespace QueryAgent

/-!
# Errors of the agent

Every error belongs to the layer that raised it.  Its full message names the
layer; the message reported for a job does not.
-/

/-- Why a query description cannot become a statement. -/
inductive QueryError where
  | malformedPayload (reason : String)
  | invalidQuery (reason : String)
  | unsupportedOperator (name : String)
deriving Repr, DecidableEq

/-- Why a backend did not do what it was asked. -/
inductive ConnectorError where
  | connectionFailed (reason : String)
  | executionFailed (reason : String)
  | timeout (reason : String)
  | unsupportedOperation (reason : String)
deriving Repr, DecidableEq

/-- Why a job was not handled. -/
inductive DispatchError where
  | unknownKind (kind : String)
  | notImplemented (kind : String)
  | serialization (reason : String)
deriving Repr, DecidableEq

/-- Why a call to the controller failed. -/
inductive TransportError where
  | requestFailed (reason : String)
  | unexpectedStatus (status : Nat) (body : String)
  | invalidResponse (reason : String)
deriving Repr, DecidableEq

/-- An error of any layer. -/
inductive AgentError where
  | query (cause : QueryError)
  | connector (cause : ConnectorError)
  | dispatch (cause : DispatchError)
  | transport (cause : TransportError)
  | configuration (reason : String)
  | internal (reason : String)
deriving Repr, DecidableEq

/-- The words of a query error. -/
def QueryError.message : QueryError → String
  | .malformedPayload reason => "malformed payload: " ++ reason
  | .invalidQuery reason => "invalid query: " ++ reason
  | .unsupportedOperator name => "unsupported condition type: " ++ name

/-- The words of a connector error. -/
def ConnectorError.message : ConnectorError → String
  | .connectionFailed reason => "Connection to backend failed: " ++ reason
  | .executionFailed reason => "Query execution failed: " ++ reason
  | .timeout reason => "Timeout occurred: " ++ reason
  | .unsupportedOperation reason => "Unsupported operation: " ++ reason

/-- The words of a dispatch error. -/
def DispatchError.message : DispatchError → String
  | .unknownKind kind => "unhandled job kind: " ++ kind
  | .notImplemented kind => "job kind not implemented: " ++ kind
  | .serialization reason => "failed to serialize result: " ++ reason

/-- The words of a transport error. -/
def TransportError.message : TransportError → String
  | .requestFailed reason =>
      "request failed: " ++ reason
  | .unexpectedStatus status body =>
      "controller responded with status " ++ Text.decimal status ++ ": " ++ body
  | .invalidResponse reason =>
      "invalid response: " ++ reason

/-- The message reported for a job, without the layer. -/
def AgentError.jobMessage : AgentError → String
  | .query cause => cause.message
  | .connector cause => cause.message
  | .dispatch cause => cause.message
  | .transport cause => cause.message
  | .configuration reason => reason
  | .internal reason => reason

/-- The layer that raised an error. -/
def AgentError.layer : AgentError → String
  | .query _ => "Query"
  | .connector _ => "Connector"
  | .dispatch _ => "Dispatcher"
  | .transport _ => "Transport"
  | .configuration _ => "Configuration"
  | .internal _ => "Internal"

/-- The full message: the layer, then what went wrong. -/
def AgentError.message
    (error : AgentError) : String :=
  error.layer ++ " error: " ++ error.jobMessage

/-- A result of the agent's work. -/
abbrev Result (α : Type) :=
  Except AgentError α

end QueryAgent
