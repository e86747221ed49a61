import QueryAgent.Config.Basic
import QueryAgent.Url.Parser

namespace QueryAgent.Controller

/-!
# Where the controller answers

The base address and the endpoints below it.  The base always ends with a
slash, so that endpoints are joined to its whole path.
-/

/-- The base address of a controller. -/
structure Address where
  base : Url
deriving Repr, DecidableEq

namespace Address

/-- The address that a text is, blanks around it left out. -/
def ofText
    (content : String) : Result Address :=
  match Url.parse (Text.trim content) with
  | .ok url =>
      .ok ⟨url.opened⟩
  | .error fault =>
      .error (.configuration ("Invalid controller url: " ++ fault.message))

/-- The endpoint at a path relative to the base. -/
def endpoint
    (address : Address)
    (path : String) : Result Url :=
  match address.base.join path with
  | .ok url =>
      .ok url
  | .error fault =>
      .error (.internal ("Invalid endpoint '" ++ path ++ "': " ++ fault.message))

/-- The path at which heartbeats are taken. -/
def heartbeatPath : String := "v1/agents/heartbeat"

/-- The path at which jobs are handed out. -/
def pollPath : String := "v1/jobs/poll"

/-- The path below which each job has its own endpoint. -/
def jobsPath : String := "v1/jobs/"

/-- The endpoint of one job. -/
def jobEndpoint
    (address : Address)
    (jobId : String) : Result Url := do
  let jobs ← address.endpoint jobsPath
  match jobs.push? jobId.toList with
  | some url =>
      .ok url
  | none =>
      .error (.internal "controller url cannot be a base")

end Address

end QueryAgent.Controller
