import QueryAgent.Agent.Identity
import QueryAgent.Cli.Program

namespace QueryAgent.Main

/-!
# The command line

Collects what surrounds the program, writes what it comes to, and keeps a
started agent going until the process is stopped.  Backends and controllers on
a network are out of reach from here.
-/

/-- The variables of the environment that the program looks at. -/
def environment : IO Cli.Environment := do
  let found ← Cli.environmentNames.filterMapM fun name => do
    let value ← IO.getEnv name
    return value.map (fun value => (name, value))
  return found

/-- The words for why a file cannot be read. -/
def fileFault : IO.Error → String
  | .noFileOrDirectory _ code _ => s!"No such file or directory (os error {code})"
  | .permissionDenied _ code _ => s!"Permission denied (os error {code})"
  | .inappropriateType _ code _ => s!"Is a directory (os error {code})"
  | error => error.toString

/-- The bytes of a file, or the words for why it cannot be read. -/
def readBytes (path : String) : IO (Except String (List UInt8)) := do
  try
    let bytes ← IO.FS.readBinFile path
    return .ok bytes.toList
  catch error =>
    return .error (fileFault error)

/-- The files that the program reads, all of them read beforehand. -/
def filesFor (environment : Cli.Environment) (words : List String) : IO Cli.FileReader := do
  match Cli.payloadPath? environment words with
  | some path =>
      let content ← readBytes path
      return fun _ => content
  | none =>
      return fun _ => .error "No such file or directory (os error 2)"

/-- The name of this machine, if it says one. -/
def hostName : IO (Option String) := do
  try
    let name ← IO.FS.readFile "/proc/sys/kernel/hostname"
    return some (Text.trim name)
  catch _ =>
    return none

/-- Waits for a period. -/
def waitFor (period : Agent.Period) : IO Unit :=
  IO.sleep (min period.milliseconds (Nat.pow 2 32 - 1)).toUInt32

/-- Notes a failure. -/
def note (what : String) : Result α → IO Unit
  | .ok _ => pure ()
  | .error error => IO.eprintln s!"ERROR {what}: {error.message}"

/-- Sends a heartbeat right away and once per period. -/
partial def sendHeartbeats (agent : Agent.Ready) : IO Unit := do
  let call := (agent.controller.controller Controller.Peer.unreachable).heartbeat ()
  note "heartbeat failed" call.result
  waitFor agent.heartbeatPeriod
  sendHeartbeats agent

/-- Polls for a job once per period. -/
partial def handleJobs (agent : Agent.Ready) (session : Backend.Session) : IO Unit := do
  waitFor agent.pollPeriod
  let cycle :=
    Agent.pollOnce (agent.controller.controller Controller.Peer.unreachable)
      (Backend.Session.connector .unreachable) 0 () session
  note "job cycle failed" cycle.result
  handleJobs agent cycle.backendState

/-- Runs both loops of an agent. -/
def serve (agent : Agent.Ready) : IO Unit := do
  let heartbeats ← IO.asTask (sendHeartbeats agent)
  handleJobs agent agent.dispatcher
  let _ ← IO.wait heartbeats

end QueryAgent.Main

open QueryAgent QueryAgent.Main in
/-- Runs the program. -/
def main (words : List String) : IO UInt32 := do
  let environment ← environment
  let files ← filesFor environment words
  let host ← hostName
  let random ← IO.getRandomBytes 16
  let output ← IO.getStdout
  let isTerminal ← output.isTty
  let surroundings : Cli.Surroundings :=
    { environment := environment
      files := files
      network := .unreachable
      colored := Cli.usesColor environment isTerminal
      agentId := Agent.identity host random.toList }
  match Cli.outcome surroundings words with
  | .ended report =>
      IO.print report.output
      IO.eprint report.errors
      return report.code.toUInt32
  | .serving agent =>
      serve agent
      return 0
