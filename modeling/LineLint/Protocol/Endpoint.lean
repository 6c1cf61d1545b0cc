import LineLint.Options.Help
import LineLint.Protocol.Params
import LineLint.Rpc.Message
import LineLint.Server.Basic

/-!
# The conversation with an editor

An editor makes a first call, then sends notifications, makes a last call and ends the conversation.
What a message does depends on how far the conversation has come.

* `Lifecycle` — how far it has come.
* `Endpoint` — the server with its conversation.
* `Endpoint.receive` — takes one message.
-/

namespace LineLint.Protocol

open Rpc (Request Response)

/-- How far the conversation has come. -/
inductive Lifecycle where
  /-- Before the first call has been answered. -/
  | fresh
  /-- Between the first and the last call. -/
  | running
  /-- After the last call. -/
  | stopping
  /-- It is over. -/
  | exited
  deriving DecidableEq, Repr

/-- Whether diagnostics and requests may be sent. -/
def Lifecycle.maySend : Lifecycle → Bool
  | running => true
  | stopping => true
  | _ => false

/-- The server with its conversation. -/
structure Endpoint where
  lifecycle : Lifecycle
  server : Server

/-- Before anything has been said. -/
def Endpoint.initial : Endpoint := ⟨.fresh, Server.initial⟩

/-- What a message leads to: possibly an answer, and effects. -/
structure Handled where
  endpoint : Endpoint
  response : Option Response
  effects : List Effect

/-- What the server can do. -/
def serverCapabilities : Json :=
  .obj [("textDocumentSync", .obj [
    ("openClose", .bool true),
    ("change", .nat 0),
    ("save", .obj [("includeText", .bool false)])])]

/-- The answer to the first call. -/
def handshakeResult : Json :=
  .obj [("capabilities", serverCapabilities),
    ("serverInfo", .obj [("name", .str serverName), ("version", .str version)])]

/-! ## What the server sends of its own accord -/

/-- The method that replaces the diagnostics of a document. -/
def publishMethod : String := "textDocument/publishDiagnostics"

/-- The parameters that replace the diagnostics of a document. -/
def publishParams (uri : Uri) (found : List Diagnostic) : Json :=
  .obj [("uri", .str uri.text), ("diagnostics", .arr (found.map Diagnostic.toJson))]

/-- The method that adds to the editor's log. -/
def messageMethod : String := "window/logMessage"

/-- The parameters that add to the editor's log. -/
def messageParams (kind : MessageKind) (text : String) : Json :=
  .obj [("type", .nat kind.code), ("message", .str text)]

/-- The method that asks for settings. -/
def configurationMethod : String := "workspace/configuration"

/-- The parameters that ask for the settings of a document. -/
def configurationParams (uri : Uri) : Json :=
  .obj [("items", .arr [.obj [("scopeUri", .str uri.text), ("section", .str sectionName)]])]

/-- The method that asks the editor to report something. -/
def registerMethod : String := "client/registerCapability"

/-- The parameters that ask the editor to report configuration changes. -/
def registerParams : Json :=
  let change := "workspace/didChangeConfiguration"
  .obj [("registrations", .arr [.obj [("id", .str change), ("method", .str change)]])]

/-! ## What the editor says -/

/-- A boolean some way down in a value, `false` if it is not there. -/
def flagAt (v : Json) : List String → Bool
  | [] =>
    match v with
    | .bool b => b
    | _ => false
  | key :: more =>
    match v.get? key with
    | some inner => flagAt inner more
    | none => false

/-- Reads the parameters of a call. They have to be there. -/
def readParams (shape : Shape) : Option Json → Except Rpc.Error Json
  | none => .error (.invalidParams "Missing params field")
  | some v =>
    match shape.read v.canonical with
    | .ok v => .ok v
    | .error e => .error (.invalidParams e.message)

/-- The URI of the document that parameters name. -/
def documentUri? (params : Json) : Option Uri :=
  match (params.get? "textDocument").bind (Json.get? "uri") with
  | some (.str s) => (Uri.parse s).toOption
  | _ => none

namespace Endpoint

/-- Nothing happens. -/
def nothing (e : Endpoint) : Handled := ⟨e, none, []⟩

/-- An answer to a call that has an identity. -/
def reply (e : Endpoint) (id : Option Json) (result : Except Rpc.Error Json)
    (effects : List Effect) : Handled :=
  ⟨e, id.map fun id => ⟨id, result⟩, effects⟩

/-- Refuses a call at the wrong time. -/
def refuse (e : Endpoint) (id : Option Json) : Handled :=
  e.reply id (.error (if e.lifecycle = .fresh then .notInitialized else .invalidRequest)) []

/-- The state and effects of a server step. -/
def after (e : Endpoint) (r : Server.Result) : Handled := ⟨{ e with server := r.1 }, none, r.2⟩

/-- The editor introduces itself: from now on the server knows how settings are to be had. -/
def handshake (e : Endpoint) (request : Request) (id : Json) : Handled :=
  match readParams handshakeShape request.params with
  | .error fault => e.reply (some id) (.error fault) []
  | .ok params =>
    let perResource := flagAt params ["capabilities", "workspace", "configuration"]
    let dynamic :=
      flagAt params ["capabilities", "workspace", "didChangeConfiguration", "dynamicRegistration"]
    let server := e.server.introduced perResource dynamic
    (Endpoint.mk .running server).reply (some id) (.ok handshakeResult)
      [.message .info "LSP server initializing", .log (.capabilities perResource dynamic)]

/-- The editor is ready. If it wants to be asked to report configuration changes, it is asked. -/
def ready (e : Endpoint) : Handled :=
  ⟨e, none, .message .info "LSP server initialized" ::
    if e.server.registerConfiguration then [.register] else []⟩

/-- The last call: from now on nothing new begins. It has no parameters. -/
def shutdown (e : Endpoint) (request : Request) : Handled :=
  let e := { e with lifecycle := .stopping }
  match request.id, request.params with
  | none, _ => e.nothing
  | some id, some params =>
    e.reply (some id)
      (.error (.invalidParams ("Unexpected params: " ++ params.canonical.compact))) []
  | some id, none => e.reply (some id) (.ok .null) [.message .info "LSP server shutting down"]

/-- The three steps of a configuration change, one after the other. -/
def configurationChanged (e : Endpoint) (configuration : Json) : Handled :=
  let change := e.server.changes.length
  let (server, first) := e.server.changeBegins configuration
  let (server, second) := (server.changeApplies change).getD (server, [])
  let (server, third) := (server.changeRevalidates change).getD (server, [])
  e.after (server, first ++ second ++ third)

/-- Takes a notification with parameters; one that does not fit is dropped. -/
def notified (e : Endpoint) (method : Method) (params : Option Json) : Handled :=
  let withDocument (shape : Shape) (step : Server → Uri → Server.Result) : Handled :=
    match (readParams shape params).toOption.bind documentUri? with
    | some uri => e.after (step e.server uri)
    | none => e.nothing
  match method with
  | .ready =>
    match readParams readyShape params with
    | .ok _ => e.ready
    | .error _ => e.nothing
  | .didOpen => withDocument openShape Server.didOpen
  | .didSave => withDocument saveShape Server.didSave
  | .didClose => withDocument closeShape Server.didClose
  | .didChangeConfiguration =>
    match (readParams configurationShape params).toOption.bind (Json.get? "settings") with
    | some configuration => e.configurationChanged configuration
    | none => e.nothing
  | _ => e.nothing

/-- Takes a message of a known method other than the ends of the conversation. -/
def normal (e : Endpoint) (method : Method) (request : Request) : Handled :=
  if e.lifecycle ≠ .running then e.refuse request.id
  else
    match method, request.id with
    | .unanswered shape, some id =>
      match readParams shape request.params with
      | .error fault => e.reply (some id) (.error fault) []
      | .ok _ => e.reply (some id) (.error .noMethod) []
    | .unanswered _, none => e.nothing
    | _, some id => e.reply (some id) (.error .invalidRequest) []
    | method, none => e.notified method request.params

/-- Takes one message. Nothing at all is answered once the conversation is over. -/
def receive (e : Endpoint) (request : Request) : Option Handled :=
  if e.lifecycle = .exited then none
  else
    match Method.ofName? request.method with
    | none =>
      if request.method = "$/cancelRequest" then
        match request.id with
        | some id => some (e.reply (some id) (.error .invalidRequest) [])
        | none => some e.nothing
      else if request.method.toList.take 2 = ['$', '/'] then some e.nothing
      else some (e.reply request.id (.error (.unknownMethod request.method)) [])
    | some .handshake =>
      match e.lifecycle, request.id with
      | .fresh, some id => some (e.handshake request id)
      | .fresh, none => some e.nothing
      | _, id => some (e.reply id (.error .invalidRequest) [])
    | some .shutdown =>
      if e.lifecycle = .running then some (e.shutdown request) else some (e.refuse request.id)
    | some .exit => some { e.nothing with endpoint := { e with lifecycle := .exited } }
    | some method => some (e.normal method request)

end Endpoint

end LineLint.Protocol
