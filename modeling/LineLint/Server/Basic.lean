import LineLint.Diagnostics
import LineLint.Log
import LineLint.Settings.Cache
import LineLint.Settings.Section

/-!
# The server

What the server does is cut into steps between which anything else may happen: handlers of the
editor's notifications, and the steps of validation runs. A step changes the state and has effects
outside.

The handlers are those of `textDocument/didOpen`, `textDocument/didSave`, `textDocument/didClose`
and `workspace/didChangeConfiguration`. A run is what `spawn_validation` starts, and its steps are
the parts of `validate` between the points at which it waits: `start` and `ask` for `lookup` and
the beginning of `resolve`, `proceed` and `answered` for the rest of `resolve`, `check` and
`returned` around the checker, `finish` for what is said in the end.

* `Run`, `Phase` — a validation run and how far it has come.
* `Server` — documents, settings, runs and handlers under way.
* `Effect` — what a step does outside.
* `didOpen`, `didSave`, `didClose` and the three steps of a configuration change.
* `start`, `ask`, `proceed`, `answered`, `check`, `returned`, `finish` — the steps of a run.
* `Action`, `Server.step` — all steps as one function.
-/

namespace LineLint

/-- How far a validation run has come. -/
inductive Phase where
  /-- It has not begun. -/
  | spawned
  /-- It knows where its settings come from. -/
  | claimed (lookup : Lookup)
  /-- It stands in line at a cell. -/
  | inLine (cell : Nat)
  /-- It has asked the editor. -/
  | fetching (cell : Nat)
  /-- It has its settings. -/
  | settled (settings : Settings)
  /-- The checker is running. -/
  | checking (settings : Settings)
  /-- The checker has returned. -/
  | checked (settings : Settings) (result : Except CheckerError String)
  /-- It is over. -/
  | finished

/-- A validation run. -/
structure Run where
  ticket : Ticket
  phase : Phase

/-- How far the handler of a configuration change has come. -/
inductive ChangePhase where
  /-- The cache is cleared. -/
  | cleared
  /-- The pushed configuration is taken over where it counts. -/
  | applied
  /-- All open documents have new runs. -/
  | done
  deriving DecidableEq, Repr

/-- A configuration change being handled. -/
structure Change where
  configuration : Json
  phase : ChangePhase

/-- The state of the server: the `ServerState`, with the runs and changes under way. Runs and
changes are named by their places. -/
structure Server where
  documents : Documents
  cache : Cache
  runs : List Run
  changes : List Change
  registerConfiguration : Bool

/-- The kinds of messages that an editor shows or logs. -/
inductive MessageKind where
  | error
  | warning
  | info
  | log
  deriving DecidableEq, Repr

/-- The number of a message kind in the editor protocol. -/
def MessageKind.code : MessageKind → Nat
  | error => 1
  | warning => 2
  | info => 3
  | log => 4

/-- What a step does outside. -/
inductive Effect where
  /-- The diagnostics of a document are replaced. -/
  | publish (uri : Uri) (diagnostics : List Diagnostic)
  /-- A message goes to the editor's log. -/
  | message (kind : MessageKind) (text : String)
  /-- A run asks the editor for the settings of a document. -/
  | fetch (run : Nat) (uri : Uri)
  /-- A run starts the checker on a file. -/
  | check (run : Nat) (path : Bytes) (maxLength : UInt32)
  /-- The editor is asked to report configuration changes. -/
  | register
  /-- An event is logged. -/
  | log (event : Event)

namespace Server

/-- A server that has just been started. -/
def initial : Server := ⟨Documents.empty, Cache.empty, [], [], false⟩

/-- The new state of a step and its effects, in order. -/
abbrev Result := Server × List Effect

/-- The editor has introduced itself by `initialize`: the server knows how settings are to be had,
and whether it has to ask for reports of configuration changes. -/
def introduced (s : Server) (perResource registerConfiguration : Bool) : Server :=
  { s with cache := s.cache.setPerResource perResource, registerConfiguration }

/-- Adds a run for a ticket: `spawn_validation`. -/
def spawn (s : Server) (ticket : Ticket) : Server :=
  { s with runs := s.runs ++ [⟨ticket, .spawned⟩] }

/-- Sets the phase of a run. -/
def setPhase (s : Server) (run : Nat) (phase : Phase) : Server :=
  { s with runs := s.runs.modify run fun r => { r with phase } }

/-! ## Handlers -/

/-- The editor has opened a document: `textDocument/didOpen`. -/
def didOpen (s : Server) (uri : Uri) : Result :=
  let (documents, ticket) := s.documents.openDocument uri
  let s := { s with documents }
  let note := if uri.localPath.isNone then [Effect.log (.noLocalPath uri)] else []
  (ticket.elim s s.spawn, .message .log ("Document opened: " ++ uri.text) :: note)

/-- The editor has saved a document: `textDocument/didSave`. -/
def didSave (s : Server) (uri : Uri) : Result :=
  let (documents, ticket) := s.documents.request uri
  let s := { s with documents }
  (ticket.elim s s.spawn, [.message .log ("Document saved: " ++ uri.text)])

/-- The editor has closed a document, by `textDocument/didClose`: its settings are forgotten, and
its diagnostics withdrawn. -/
def didClose (s : Server) (uri : Uri) : Result :=
  let (documents, wasOpen) := s.documents.close uri
  let (cache, removed) := s.cache.invalidate uri
  ({ s with documents, cache },
    [.message .log ("Document closed: " ++ uri.text)] ++
      (if removed then [.log (.entryInvalidated uri)] else []) ++
      (if wasOpen then [.publish uri []] else []))

/-- The configuration has changed, by `workspace/didChangeConfiguration`: first all cached settings
are forgotten. -/
def changeBegins (s : Server) (configuration : Json) : Result :=
  let (cache, count) := s.cache.invalidateAll
  ({ s with cache, changes := s.changes ++ [⟨configuration, .cleared⟩] },
    [.message .log "Configuration changed", .log (.cacheCleared count)])

/-- Sets the phase of a configuration change. -/
def setChange (s : Server) (change : Nat) (phase : ChangePhase) : Server :=
  { s with changes := s.changes.modify change fun c => { c with phase } }

/-- Then, in global mode, the pushed section is taken over: `global_settings`, and then
`set_global`. -/
def changeApplies (s : Server) (change : Nat) : Option Result :=
  match s.changes[change]? with
  | some ⟨configuration, .cleared⟩ =>
    let s := s.setChange change .applied
    if s.cache.perResource then some (s, [])
    else
      let (settings, fault) := Settings.pushed configuration
      some ({ s with cache := s.cache.setGlobal settings },
        (fault.map fun e => Effect.log (.badGlobal e)).toList)
  | _ => none

/-- Last, every open document gets a new run: `request_all`. -/
def changeRevalidates (s : Server) (change : Nat) : Option Result :=
  match s.changes[change]? with
  | some ⟨_, .applied⟩ =>
    let (documents, tickets) := s.documents.requestAll
    let s := { s.setChange change .done with documents }
    some (tickets.foldl spawn s, [.log (.revalidating tickets.length)])
  | _ => none

/-! ## Runs -/

/-- Begins a run: it claims the source of its settings, unless its document has been closed. -/
def start (s : Server) (run : Nat) : Option Result :=
  match s.runs[run]? with
  | some ⟨ticket, .spawned⟩ =>
    if s.documents.isOpen ticket.uri then
      let (cache, lookup) := s.cache.lookup ticket.uri
      some ({ s with cache }.setPhase run (.claimed lookup), [])
    else some (s.setPhase run .finished, [.log (.closedBeforeStart ticket.uri)])
  | _ => none

/-- Takes the global value, or stands in line at a cell: the beginning of `resolve`. -/
def ask (s : Server) (run : Nat) : Option Result :=
  match s.runs[run]? with
  | some ⟨_, .claimed lookup⟩ =>
    match lookup.cell with
    | none => some (s.setPhase run (.settled s.cache.global), [])
    | some cell =>
      some ({ s with cache := s.cache.join cell run }.setPhase run (.inLine cell), [])
  | _ => none

/-- Takes the value of a filled cell, or asks the editor if it is this run's turn. -/
def proceed (s : Server) (run : Nat) : Option Result :=
  match s.runs[run]? with
  | some ⟨ticket, .inLine cell⟩ =>
    match s.cache.turn cell run with
    | .ready settings => some (s.setPhase run (.settled settings), [])
    | .ask =>
      some (s.setPhase run (.fetching cell), [.log (.requesting ticket.uri), .fetch run ticket.uri])
    | .wait => none
  | _ => none

/-- Takes the answer to a request of `workspace/configuration`; without usable settings the defaults
apply. -/
def answered (s : Server) (run : Nat) (answer : Except SettingsError Settings) : Option Result :=
  match s.runs[run]? with
  | some ⟨ticket, .fetching cell⟩ =>
    match s.cache.settle cell answer with
    | (cache, .ok settings) => some ({ s with cache }.setPhase run (.settled settings), [])
    | (cache, .error e) =>
      some ({ s with cache }.setPhase run (.settled Settings.standard),
        [.log (.fetchFailed ticket.uri e)])
  | _ => none

/-- Starts the checker. -/
def check (s : Server) (run : Nat) : Option Result :=
  match s.runs[run]? with
  | some ⟨ticket, .settled settings⟩ =>
    some (s.setPhase run (.checking settings), [.check run ticket.path settings.maxLength])
  | _ => none

/-- Takes what the checker has returned. -/
def returned (s : Server) (run : Nat) (result : Except CheckerError String) : Option Result :=
  match s.runs[run]? with
  | some ⟨ticket, .checking settings⟩ =>
    let note := match result with
      | .ok _ => []
      | .error e => [Effect.log (.checkerFailed ticket.uri e)]
    some (s.setPhase run (.checked settings result), note)
  | _ => none

/-- The diagnostics of a report under settings. -/
def diagnosticsOf (settings : Settings) (report : String) : List Diagnostic :=
  diagnostics (problems report.toList settings.maxProblems.toNat) settings.maxLength

/-- Ends a run. If its ticket is accepted, its diagnostics are published by
`textDocument/publishDiagnostics`, or its failure is reported by `window/logMessage`; otherwise
nothing is said. -/
def finish (s : Server) (run : Nat) : Option Result :=
  match s.runs[run]? with
  | some ⟨ticket, .checked settings result⟩ =>
    let (documents, accepted) := s.documents.finish ticket
    let s := { s with documents }.setPhase run .finished
    if accepted then
      match result with
      | .ok report =>
        let found := diagnosticsOf settings report
        some (s, [.log (.publishing ticket.uri found.length), .publish ticket.uri found])
      | .error e =>
        some (s, [.message .error ("lll failed for " ++ ticket.uri.text ++ ": " ++ e.message)])
    else some (s, [.log (.discarded ticket.uri ticket.token (documents.state ticket.uri))])
  | _ => none

/-! ## All steps -/

/-- A step of the server. -/
inductive Action where
  | didOpen (uri : Uri)
  | didSave (uri : Uri)
  | didClose (uri : Uri)
  | changeBegins (configuration : Json)
  | changeApplies (change : Nat)
  | changeRevalidates (change : Nat)
  | start (run : Nat)
  | ask (run : Nat)
  | proceed (run : Nat)
  | answered (run : Nat) (answer : Except SettingsError Settings)
  | check (run : Nat)
  | returned (run : Nat) (result : Except CheckerError String)
  | finish (run : Nat)

/-- Takes a step, if it is possible in this state. -/
def step (s : Server) : Action → Option Result
  | .didOpen uri => some (s.didOpen uri)
  | .didSave uri => some (s.didSave uri)
  | .didClose uri => some (s.didClose uri)
  | .changeBegins configuration => some (s.changeBegins configuration)
  | .changeApplies change => s.changeApplies change
  | .changeRevalidates change => s.changeRevalidates change
  | .start run => s.start run
  | .ask run => s.ask run
  | .proceed run => s.proceed run
  | .answered run answer => s.answered run answer
  | .check run => s.check run
  | .returned run result => s.returned run result
  | .finish run => s.finish run

end Server

end LineLint
