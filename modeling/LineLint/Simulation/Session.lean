import LineLint.Protocol.Endpoint
import LineLint.Simulation.Script

/-!
# A session with a scripted editor and a scripted checker

Drives the whole server by hand. The editor answers requests, and the checker ends its runs, from
scripts, at once or when told to. After each instruction everything that can go on does: runs take
turns in the order in which they were started or woken, and each goes on until it has to wait.

* `Session` — the server, the scripts, and what is held back.
* `Seen` — what the editor and the checker see during an instruction.
* `Session.drain` — lets everything go on.
* `Instruction`, `Session.perform` — what can be done.
-/

namespace LineLint.Simulation

open Protocol (Endpoint Lifecycle)
open Rpc (Request Response)

/-- How a run of the checker ends. -/
abbrev CheckResult := Except CheckerError String

/-- What the editor and the checker see, in order. -/
structure Seen where
  published : List (Uri × List Diagnostic)
  messages : List (MessageKind × String)
  fetches : List Uri
  registrations : Nat
  checks : List (Bytes × UInt32)
  log : List Event

/-- Nothing has been seen. -/
def Seen.nothing : Seen := ⟨[], [], [], 0, [], []⟩

/-- Something that can go on: a run, or the editor's answer to a run. -/
inductive Work where
  | poll (run : Nat)
  | answer (run : Nat) (uri : Uri)

/-- A server between a scripted editor and a scripted checker. Requests and checks that are held
back are kept in order. -/
structure Session where
  endpoint : Endpoint
  replies : Script String Reply
  registerReply : Reply
  holdingReplies : Bool
  heldFetches : List (Uri × Nat)
  outcomes : Script Bytes CheckResult
  holdingChecks : Bool
  heldChecks : List (Bytes × Nat)
  work : List Work
  seen : Seen

namespace Session

/-- Before anything has been said. -/
def initial : Session :=
  { endpoint := Endpoint.initial
    replies := Script.empty
    registerReply := .ok .null
    holdingReplies := false
    heldFetches := []
    outcomes := Script.empty
    holdingChecks := false
    heldChecks := []
    work := []
    seen := Seen.nothing }

/-- Adds an event to the log. -/
def note (s : Session) (event : Event) : Session :=
  { s with seen := { s.seen with log := s.seen.log ++ [event] } }

/-- Sets the state of the server. -/
def setServer (s : Session) (server : Server) : Session :=
  { s with endpoint := { s.endpoint with server } }

/-- A run's request when nothing may be sent any more: it fails at once. -/
def refuseFetch (s : Session) (run : Nat) : Session :=
  match s.endpoint.server.answered run (.error (.request .notInitialized)) with
  | some (server, effects) =>
    effects.foldl
      (fun s effect =>
        match effect with
        | .log event => s.note event
        | _ => s)
      (s.setServer server)
  | none => s

/-- What comes of the editor's reply to a registration. -/
def heedRegistration (s : Session) : Session :=
  match s.registerReply with
  | .ok .null => s
  | .ok v =>
    s.note (.registrationFailed ⟨-32700, (Json.Mismatch.type v.found "unit").message, none⟩)
  | .error e => s.note (.registrationFailed e)

/-- The editor is asked to report configuration changes, and answers at once. -/
def register (s : Session) : Session :=
  { s with seen := { s.seen with registrations := s.seen.registrations + 1 } }.heedRegistration

/-- Carries an effect of the server outside. What may not be sent is dropped. -/
def carry (s : Session) (effect : Effect) : Session :=
  match effect with
  | .publish uri found =>
    if s.endpoint.lifecycle.maySend then
      { s with seen := { s.seen with published := s.seen.published ++ [(uri, found)] } }
    else s
  | .message kind text =>
    if s.endpoint.lifecycle = .exited then s
    else { s with seen := { s.seen with messages := s.seen.messages ++ [(kind, text)] } }
  | .fetch run uri =>
    if s.endpoint.lifecycle.maySend then
      let s := { s with seen := { s.seen with fetches := s.seen.fetches ++ [uri] } }
      if s.holdingReplies then { s with heldFetches := s.heldFetches ++ [(uri, run)] }
      else { s with work := s.work ++ [.answer run uri] }
    else s.refuseFetch run
  | .check run path maxLength =>
    let s := { s with seen := { s.seen with checks := s.seen.checks ++ [(path, maxLength)] } }
    if s.holdingChecks then { s with heldChecks := s.heldChecks ++ [(path, run)] } else s
  | .register => s.register
  | .log event => s.note event

/-- Takes over a step of the server with its effects. -/
def apply (s : Session) (r : Server.Result) : Session :=
  r.2.foldl carry (s.setServer r.1)

/-- The scripted end of a run of the checker on a path. -/
def outcomeFor (s : Session) (path : Bytes) : CheckResult :=
  (s.outcomes.get? path).getD (.ok "")

/-- The next step of a run, unless it has to wait. -/
def nextStep (s : Session) (run : Nat) : Option Server.Result :=
  let server := s.endpoint.server
  match server.runs[run]? with
  | none => none
  | some r =>
    match r.phase with
    | .spawned => server.start run
    | .claimed _ => server.ask run
    | .inLine _ => server.proceed run
    | .settled _ => server.check run
    | .checking _ =>
      if s.heldChecks.any fun held => held.2 == run then none
      else server.returned run (s.outcomeFor r.ticket.path)
    | .checked _ _ => server.finish run
    | .fetching _ => none
    | .finished => none

/-- Lets a run go on until it has to wait. A run takes at most as many steps as it has phases. -/
def pollFor : Nat → Session → Nat → Session
  | 0, s, _ => s
  | steps + 1, s, run =>
    match s.nextStep run with
    | some r => pollFor steps (s.apply r) run
    | none => s

/-- Lets a run go on until it has to wait. -/
def poll (s : Session) (run : Nat) : Session := pollFor 8 s run

/-- The runs that stand in line at a cell, in order. -/
def inLineAt (s : Session) (cell : Nat) : List Nat :=
  (List.range s.endpoint.server.runs.length).filter fun i =>
    match (s.endpoint.server.runs[i]?).map Run.phase with
    | some (.inLine c) => c == cell
    | _ => false

/-- Hands the editor's answer to a run, which goes on, and wakes those in line behind it. -/
def deliver (s : Session) (run : Nat) (reply : Reply) : Session :=
  match s.endpoint.server.runs[run]? with
  | some ⟨_, .fetching cell⟩ =>
    match s.endpoint.server.answered run (Settings.answered reply) with
    | some r =>
      let s := (s.apply r).poll run
      { s with work := s.work ++ (s.inLineAt cell).map .poll }
    | none => s
  | _ => s

/-- The scripted answer of the editor about a document. -/
def replyFor (s : Session) (uri : Uri) : Reply :=
  (s.replies.get? uri.text).getD (.ok (.arr [.null]))

/-- Does the next piece of work. -/
def workOnce (s : Session) : Session :=
  match s.work with
  | [] => s
  | .poll run :: more => { s with work := more }.poll run
  | .answer run uri :: more => { s with work := more }.deliver run (s.replyFor uri)

/-- Does work until there is none, at most so many pieces. -/
def workFor : Nat → Session → Session
  | 0, s => s
  | pieces + 1, s => if s.work.isEmpty then s else workFor pieces s.workOnce

/-- Lets everything go on. Each run is polled once for every answer at its cell, so the square of
the number of runs bounds the work. -/
def drain (s : Session) : Session :=
  let n := s.endpoint.server.runs.length + s.work.length + 2
  workFor (4 * n * n) s

/-- What handing over a message gives. -/
inductive Given where
  | response (r : Option Response)
  | exited
  | invalid

/-- Hands a call to the server; the runs that it starts are put in line. -/
def giveRequest (s : Session) (request : Request) : Session × Given :=
  match s.endpoint.receive request with
  | none => (s, .exited)
  | some handled =>
    let before := s.endpoint.server.runs.length
    let s := handled.effects.foldl carry { s with endpoint := handled.endpoint }
    let started := s.endpoint.server.runs.length - before
    ({ s with work := s.work ++ (List.range started).map fun i => .poll (before + i) },
      .response handled.response)

/-- Hands a message to the server. -/
def give (s : Session) (message : Json) : Session × Given :=
  match Request.ofJson? message.canonical with
  | none => (s, .invalid)
  | some request => s.giveRequest request

/-- Hands over messages one after the other. -/
def giveAll : Session → List Json → Session × List Given
  | s, [] => (s, [])
  | s, message :: more =>
    let (s, given) := s.give message
    let (s, rest) := giveAll s more
    (s, given :: rest)

/-- Takes the first entry with a key out of a list. -/
def takeFirst {κ α : Type} [BEq κ] (key : κ) : List (κ × α) → Option (α × List (κ × α))
  | [] => none
  | entry :: more =>
    if entry.1 == key then some (entry.2, more)
    else (takeFirst key more).map fun (found, rest) => (found, entry :: rest)

/-- Takes the entry with a key out of a list that has so many others with that key before it. -/
def takeNth {κ α : Type} [BEq κ] (key : κ) : Nat → List (κ × α) → Option (α × List (κ × α))
  | _, [] => none
  | n, entry :: more =>
    if entry.1 == key then
      match n with
      | 0 => some (entry.2, more)
      | n + 1 => (takeNth key n more).map fun (found, rest) => (found, entry :: rest)
    else (takeNth key n more).map fun (found, rest) => (found, entry :: rest)

end Session

/-- What can be done in a session. -/
inductive SessionInstruction where
  /-- Hands over a message. -/
  | send (message : Json)
  /-- Hands over several messages before anything goes on. -/
  | batch (messages : List Json)
  /-- Scripts the checker on a path, or on all others. -/
  | output (path : Option Bytes) (outcome : CheckResult)
  /-- Holds checks back, or not. -/
  | holdChecker (enabled : Bool)
  /-- Ends a check that is held back. -/
  | release (path : Bytes) (index : Nat) (outcome : Option CheckResult)
  /-- Scripts the editor's settings of a document, or of all others. -/
  | config (uri : Option String) (reply : Reply)
  /-- Holds the editor's answers back, or not. -/
  | holdConfig (enabled : Bool)
  /-- Gives an answer that is held back. -/
  | answer (uri : String) (reply : Reply)
  /-- Scripts the answer to a registration. -/
  | registerReply (reply : Reply)

/-- What an instruction answers. -/
inductive SessionAnswer where
  | nothing
  | given (g : Session.Given)
  | allGiven (gs : List Session.Given)
  | found (b : Bool)

namespace Session

/-- Carries out an instruction, without letting anything else go on. -/
def instruct (s : Session) : SessionInstruction → Session × SessionAnswer
  | .send message =>
    let (s, given) := s.give message
    (s, .given given)
  | .batch messages =>
    let (s, given) := s.giveAll messages
    (s, .allGiven given)
  | .output path outcome => ({ s with outcomes := s.outcomes.set path outcome }, .nothing)
  | .holdChecker enabled => ({ s with holdingChecks := enabled }, .nothing)
  | .release path index outcome =>
    match takeNth path index s.heldChecks with
    | none => (s, .found false)
    | some (run, rest) =>
      let result := outcome.getD (s.outcomeFor path)
      let s := { s with heldChecks := rest }
      match s.endpoint.server.returned run result with
      | some r =>
        let s := s.apply r
        ({ s with work := s.work ++ [.poll run] }, .found true)
      | none => (s, .found true)
  | .config uri reply => ({ s with replies := s.replies.set uri reply }, .nothing)
  | .holdConfig enabled => ({ s with holdingReplies := enabled }, .nothing)
  | .answer uri reply =>
    match takeFirst uri (s.heldFetches.map fun held => (held.1.text, held)) with
    | none => (s, .found false)
    | some ((_, run), rest) =>
      let s := { s with heldFetches := rest.map Prod.snd }
      if s.endpoint.lifecycle.maySend then (s.deliver run reply, .found true) else (s, .found true)
  | .registerReply reply => ({ s with registerReply := reply }, .nothing)

/-- Carries out an instruction and lets everything go on; what is seen starts afresh. -/
def perform (s : Session) (i : SessionInstruction) : Session × SessionAnswer :=
  let (s, answer) := { s with seen := Seen.nothing }.instruct i
  (s.drain, answer)

end Session

end LineLint.Simulation
