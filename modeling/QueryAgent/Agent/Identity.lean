import QueryAgent.Text.Uuid

namespace QueryAgent.Agent

/-!
# The names of agents

An agent is named for its machine and for its start: the name of the host, a
dot, and an identifier that is new each time.
-/

/-- The name of a machine that does not say its own. -/
def unknownHost : String := "unknown-host"

/-- The name of an agent, by the host's name and sixteen random bytes. -/
def identity
    (host : Option String)
    (random : List UInt8) : String :=
  (host.filter (fun name => !name.isEmpty)).getD unknownHost
    ++ "." ++ Text.randomUuid random

/-- Whether a name is a host's, a dot and an identifier that random bytes give. -/
def isIdentity
    (name : String) : Bool :=
  match Text.splitLast? '.' name.toList with
  | some (host, identifier) =>
      !host.isEmpty && Text.isRandomUuid identifier
  | none =>
      false

end QueryAgent.Agent
