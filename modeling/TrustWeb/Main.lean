import Std.Time.DateTime.Timestamp
import TrustWeb.Server

/-!
# The tool server on standard input and output

Reads requests from standard input, one per line, and writes each answer on a line of standard
output, until the input ends or a request cannot be dealt with.
-/

namespace TrustWeb.Server

/-- The variables that configure a server. -/
def variableNames : List String :=
  ["WOT_NETWORK_FILE", "WOT_TRUST_ROOTS", "WOT_TRUST_AMOUNT", "WOT_CERTIFICATION_NETWORK"]

/-- The values of the variables that are set. -/
def readEnvironment : BaseIO Environment := do
  let values ← variableNames.mapM fun name => do
    let value ← IO.getEnv name
    return value.map fun text => (name, text)
  return values.filterMap id

/-- What a file holds. -/
def readContent (name : String) : IO FileContent := do
  try
    return .ok (← IO.FS.readFile name)
  catch
    | .noFileOrDirectory .. => return .error .missing
    | .inappropriateType .. => return .error .directory
    | .permissionDenied .. => return .error .denied
    | other => return .error (.other (toString other))

/-- The present moment. -/
def readClock : IO Moment := do
  let now ← Std.Time.Timestamp.now
  return ⟨now.toNanosecondsSinceUnixEpoch.val / 1000, some 0⟩

/-- What the server may look at now; a network file that is no longer needed is not read. -/
def lookAround (s : Server) : IO Surroundings := do
  let content ←
    match s.description, s.configuration.networkFile with
    | none, some name => readContent name
    | _, _ => pure (.error .missing)
  return ⟨content, ← readClock⟩

/-- Answers lines until there are none, or one cannot be dealt with. -/
partial def serve (s : Server) : IO UInt32 := do
  let line ← (← IO.getStdin).getLine
  if line.isEmpty then
    return 0
  let r := s.run [⟨← lookAround s, line⟩]
  for written in r.written do
    IO.println written
    (← IO.getStdout).flush
  match r.fault with
  | some fault =>
    IO.eprintln fault.message
    return 1
  | none => serve r.server

end TrustWeb.Server

/-- Serves with the configuration that the environment gives. -/
def main : IO UInt32 := do
  match TrustWeb.Server.Configuration.make {} (← TrustWeb.Server.readEnvironment) with
  | .error fault =>
    IO.eprintln fault.message
    return 1
  | .ok configuration => TrustWeb.Server.serve { configuration }
