import LineLint.Simulation.Service

/-!
# The program

The command line over the standard streams. Other programs cannot be started from here: to a task or
a checker the machine looks like one without any files.

* `surroundings` — printing, reading and serving.
* `main` — the entry point.
-/

namespace LineLint.Main

open Simulation (Service)

/-- A machine on which nothing can be started. -/
def bareMachine : Host.Machine := ⟨⟨[]⟩, [], [], []⟩

/-- Reads a stream to its end. -/
partial def readAll (input : IO.FS.Stream) (before : ByteArray) : IO ByteArray := do
  let chunk ← input.read 65536
  if chunk.isEmpty then return before else readAll input (before ++ chunk)

/-- Writes what a service has to say. -/
def flushService (output : IO.FS.Stream) (service : Service) : IO Service := do
  for message in service.written do
    output.write (ByteArray.mk (Protocol.Wire.frame message).toArray)
  output.flush
  return { service with written := [] }

/-- Serves until the input ends or the service stops. -/
partial def serveLoop (input output : IO.FS.Stream) (service : Service) : IO Service := do
  let service ← flushService output service
  if service.stopped then return service
  else
    let chunk ← input.read 65536
    if chunk.isEmpty then return service
    else serveLoop input output (service.feed chunk.toList).runChecks

/-- The error of a failed step, as far as it is known. -/
def systemError (e : IO.Error) : SystemError :=
  match e with
  | .noFileOrDirectory _ _ _ => .noSuchFile
  | .permissionDenied _ _ _ => .accessDenied
  | .alreadyExists _ _ _ => .fileExists
  | _ => .notDirectory

/-- The bytes of a variable of the environment. -/
def variableBytes (name : String) : IO (Option Bytes) := do
  return (← IO.getEnv name).map textBytes

/-- Serves an editor over the standard streams, with its log in the data directory. -/
def serve (options : Options) : IO (Except CommandError Unit) := do
  let dataHome ← variableBytes "XDG_DATA_HOME"
  let home ← variableBytes "HOME"
  let pathText (path : Bytes) : String := String.ofList (Text.decodeLossy path)
  try
    IO.FS.createDirAll (pathText (dataDir dataHome home))
  catch e =>
    IO.eprint (Simulation.logComplaint (systemError e))
    return .error (.log (systemError e))
  let started := Service.start bareMachine (Simulation.checkerOf options) (logPath dataHome home)
  let service ← serveLoop (← IO.getStdin) (← IO.getStdout) started
  let service ← flushService (← IO.getStdout) service.close
  let filter := Filter.ofEnvironment (← IO.getEnv "RUST_LOG")
  let lines := (service.log.filter filter.allows).map fun e => e.toJson.compact ++ "\n"
  let log ← IO.FS.Handle.mk (pathText (logPath dataHome home)) .append
  log.putStr (String.join lines)
  return .ok ()

/-- All that the program needs, over the standard streams. -/
def surroundings : Surroundings IO where
  print := IO.print
  note := IO.eprint
  readInput := do return (← readAll (← IO.getStdin) ByteArray.empty).toList
  currentDirectory := do
    try return .ok (textBytes (toString (← IO.currentDir)))
    catch e => return .error (systemError e)
  start _ := return .refused (.system .notImplemented)
  serve

end LineLint.Main

/-- Carries out what the arguments ask for. -/
def main (args : List String) : IO UInt32 := do
  return UInt32.ofNat (← LineLint.Main.surroundings.program (args.map LineLint.textBytes))
