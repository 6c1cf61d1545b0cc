import LineLint.Host.Desk
import LineLint.Log.Filter
import LineLint.Protocol.Wire
import LineLint.Simulation.Session

/-!
# The server on a stream of bytes

Serves an editor that sends bytes, with a checker that runs on a model machine. Checks end once all
that has been sent together is taken. Requests to the editor are numbered from zero, and wait for
the answer with their number.

* `Service` — the server between the two streams.
* `Service.feed`, `Service.runChecks`, `Service.close` — bytes come, checks end, the stream ends.
* `Exchange`, `converse` — bytes sent and messages expected, step by step.
* `serve` — serves all of standard input.
-/

namespace LineLint.Simulation

open Host (Desk Machine)
open Protocol (Lifecycle)
open Rpc (Response)

/-- What the editor has been asked. -/
inductive Asked where
  | registration
  | settings (run : Nat)
  deriving DecidableEq

/-- The server between the two streams. What it has written is kept in order. -/
structure Service where
  session : Session
  decoder : Protocol.Wire.Decoder
  machine : Machine
  checker : Checker
  asked : List (Nat × Asked)
  nextId : Nat
  written : List Json
  log : List Event
  stopped : Bool

namespace Service

/-- A server that has just been started. -/
def start (machine : Machine) (checker : Checker) (logPath : Bytes) : Service where
  session := { Session.initial with holdingReplies := true, holdingChecks := true }
  decoder := Protocol.Wire.Decoder.initial
  machine
  checker
  asked := []
  nextId := 0
  written := []
  log := [.starting logPath]
  stopped := false

/-- Writes a message. -/
def write (s : Service) (v : Json) : Service := { s with written := s.written ++ [v] }

/-- Asks the editor. -/
def ask (s : Service) (method : String) (params : Json) (asked : Asked) : Service :=
  { s.write (Rpc.requestJson method params s.nextId) with
    asked := s.asked ++ [(s.nextId, asked)]
    nextId := s.nextId + 1 }

/-- The runs that wait for settings and are not known to have asked. -/
def newFetches (s : Service) : List (Uri × Nat) :=
  s.session.heldFetches.filter fun held => !s.asked.any fun a => a.2 == .settings held.2

/-- Writes what the session has seen since it was last looked at. -/
def publish (s : Service) : Service :=
  let seen := s.session.seen
  let s := { s with session := { s.session with seen := Seen.nothing }, log := s.log ++ seen.log }
  let s := seen.messages.foldl (fun s m =>
    s.write (Rpc.notificationJson Protocol.messageMethod (Protocol.messageParams m.1 m.2))) s
  let s := seen.published.foldl (fun s p =>
    s.write (Rpc.notificationJson Protocol.publishMethod (Protocol.publishParams p.1 p.2))) s
  let s := (List.range seen.registrations).foldl (fun s _ =>
    s.ask Protocol.registerMethod Protocol.registerParams .registration) s
  s.newFetches.foldl (fun s held =>
    s.ask Protocol.configurationMethod (Protocol.configurationParams held.1) (.settings held.2)) s

/-- Lets the session go on and writes what comes of it. -/
def settle (s : Service) : Service := { s with session := s.session.drain }.publish

/-- Takes a call. After the conversation has ended, it ends the service. -/
def request (s : Service) (r : Rpc.Request) : Service :=
  match s.session.giveRequest r with
  | (_, .exited) => { s with stopped := true }
  | (session, given) =>
    let s := match given with
      | .response (some response) => s.write response.toJson
      | _ => s
    { s with session }.settle

/-- Takes an answer of the editor to what it has been asked; any other answer does not count. -/
def response (s : Service) (r : Response) : Service :=
  if s.session.endpoint.lifecycle = .exited then { s with stopped := true }
  else
    match s.asked.find? fun a => (Json.nat a.1).compact == r.id.compact with
    | none => s
    | some (id, asked) =>
      let s := { s with asked := s.asked.filter fun a => a.1 != id }
      match asked with
      | .registration =>
        let session := { s.session with registerReply := r.result }.heedRegistration
        { s with session := { session with registerReply := s.session.registerReply } }.publish
      | .settings run =>
        let heldFetches := s.session.heldFetches.filter fun held => held.2 != run
        { s with session := { s.session with heldFetches }.deliver run r.result }.settle

/-- Answers what cannot be taken, and stops. -/
def refuse (s : Service) (fault : Protocol.Wire.Fault) : Service :=
  { s.write (Response.toJson ⟨.null, .error fault.error⟩) with stopped := true }

/-- Takes what has come off the stream, at most so many pieces. -/
def takeFor : Nat → Service → Service
  | 0, s => s
  | pieces + 1, s =>
    if s.stopped then s
    else
      match s.decoder.next with
      | .wait => s
      | .skip decoder => takeFor pieces { s with decoder }
      | .fault fault => s.refuse fault
      | .message (.request r) decoder => takeFor pieces ({ s with decoder }.request r)
      | .message (.response r) decoder => takeFor pieces ({ s with decoder }.response r)

/-- Takes bytes that have come. -/
def feed (s : Service) (bytes : Bytes) : Service :=
  let s := { s with decoder := s.decoder.add bytes }
  takeFor (2 * s.decoder.pending.length + 2) s

/-- Lets the checker run to its end for the runs that wait for it, at most so many. -/
def checkFor : Nat → Service → Service
  | 0, s => s
  | checks + 1, s =>
    match s.session.heldChecks with
    | [] => s
    | (path, run) :: _ =>
      match (s.session.endpoint.server.runs[run]?).map Run.phase with
      | some (.checking settings) =>
        let (machine, started) := s.machine.check s.checker settings.maxLength path
        let (session, _) :=
          s.session.instruct (.release path 0 (some (s.checker.conclude started)))
        let log := s.log ++ s.checker.events settings.maxLength path started
        checkFor checks { s with machine, session, log }.settle
      | _ => s

/-- Lets all checks end, unless the service has stopped. -/
def runChecks (s : Service) : Service :=
  if s.stopped then s else checkFor (s.session.endpoint.server.runs.length + 1) s

/-- The stream ends. What is left of a message cannot be taken. -/
def close (s : Service) : Service :=
  let s := if s.stopped || s.decoder.pending.isEmpty then s else s.refuse .unreadable
  { s with stopped := true, log := s.log ++ [.stopped] }

end Service

/-! ## Starting up -/

/-- The value of a variable of a machine. -/
def variableOf (m : Machine) (name : String) : Option Bytes :=
  (m.environment.find? fun v => v.1 == name).map Prod.snd

/-- The checker that options ask for. -/
def checkerOf (o : Options) : Checker := ⟨o.checker, o.checkerArgs, ⟨o.timeoutSecs, 0⟩⟩

/-- Starts the server on a machine, once its log can be kept there. -/
def startService (m : Machine) (o : Options) : Except SystemError Service := do
  let dataHome := variableOf m "XDG_DATA_HOME"
  let home := variableOf m "HOME"
  let names := (pathPieces (dataDir dataHome home)).filter fun name => !name.isEmpty
  let files ← m.files.makeDirectory names
  return Service.start { m with files } (checkerOf o) (logPath dataHome home)

/-- What is said when the log cannot be kept. -/
def logComplaint (e : SystemError) : String :=
  "Failed to create data directory: " ++ e.text ++ "\n"

/-- Serves all of standard input. -/
def serve (o : Options) : StateM Desk (Except CommandError Unit) := do
  let desk ← get
  match startService desk.machine o with
  | .error e =>
    set { desk with stderr := desk.stderr ++ textBytes (logComplaint e) }
    return .error (.log e)
  | .ok service =>
    let service := (service.feed desk.machine.input).runChecks.close
    let stdout := desk.stdout ++ service.written.flatMap Protocol.Wire.frame
    set { desk with machine := { service.machine with input := [] }, stdout }
    return .ok ()

/-- Runs the whole program on a machine: its exit code, and the machine with what was printed. -/
def runProgram (m : Machine) (args : List Bytes) : Nat × Desk :=
  ((Desk.surroundings serve).program args).run ⟨m, [], []⟩

/-! ## Conversations -/

/-- What is sent together, and how many messages are expected then. -/
structure Exchange where
  sent : List Bytes
  expected : Nat

/-- A message that was expected. -/
inductive Heard where
  | message (v : Json)
  /-- The server has closed its output. -/
  | endOfOutput
  /-- Nothing has come. -/
  | nothing

/-- A conversation from its start to its end. -/
structure Conversation where
  heard : List (List Heard)
  code : Nat
  stderr : Bytes
  log : List Event

/-- Listens for messages. -/
def listen (stopped : Bool) (written : List Json) (expected : Nat) : List Heard :=
  (written.take expected).map .message ++
    List.replicate (expected - written.length) (if stopped then .endOfOutput else .nothing)

/-- Makes exchanges one after the other. -/
def exchangeAll : Service → List Exchange → Service × List (List Heard)
  | s, [] => (s, [])
  | s, e :: more =>
    let s := (e.sent.foldl Service.feed s).runChecks
    let heard := listen s.stopped s.written e.expected
    let (s, rest) := exchangeAll { s with written := s.written.drop e.expected } more
    (s, heard :: rest)

/-- Converses with the program on a machine. Only a server listens. -/
def converse (m : Machine) (args : List Bytes) (exchanges : List Exchange) : Conversation :=
  let unheard := exchanges.map fun e => listen true [] e.expected
  match Options.parse args with
  | .ok ⟨checker, checkerArgs, timeoutSecs, stdio, .serve⟩ =>
    match startService m ⟨checker, checkerArgs, timeoutSecs, stdio, .serve⟩ with
    | .ok service =>
      let (service, heard) := exchangeAll service exchanges
      let filter := Filter.ofEnvironment
        (((variableOf m "RUST_LOG").bind Text.decode?).map String.ofList)
      ⟨heard, 0, [], service.close.log.filter filter.allows⟩
    | .error _ =>
      let (code, desk) := runProgram m args
      ⟨unheard, code, desk.stderr, []⟩
  | _ =>
    let (code, desk) := runProgram m args
    ⟨unheard, code, desk.stderr, []⟩

end LineLint.Simulation
