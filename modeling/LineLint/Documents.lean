import LineLint.Uri.Basic

/-!
# Open documents

The documents that the editor has open, and which validation run of each may still report. Every
request for a run gets a ticket with a fresh token; only the latest ticket of an open document is
accepted, once.

The operations belong to the notifications of the editor: `open` to `textDocument/didOpen`,
`request` to `textDocument/didSave`, `close` to `textDocument/didClose` and `request_all` to
`workspace/didChangeConfiguration`. `finish` is called at the end of `validate`.

* `Ticket` — permission to report on a document.
* `Documents` — the open documents in the order in which they were opened, and the last token.
* `request`, `openDocument`, `requestAll`, `close`, `finish` — the operations.
* `state`, `isOpen` — what can be seen of a document.
-/

namespace LineLint

/-- Permission to report the result of a run on a document: a `ValidationTicket`. -/
structure Ticket where
  uri : Uri
  path : Bytes
  token : Nat
  deriving DecidableEq, Repr

/-- An open document (`OpenDocument`): the local file, if it has one, and the token of the run it
waits for. -/
structure Document where
  path : Option Bytes
  pending : Option Nat
  deriving DecidableEq, Repr

/-- What can be seen of a document. -/
inductive DocumentState where
  | closed
  | idle
  | validating
  deriving DecidableEq, Repr

/-- The name of a state. -/
def DocumentState.name : DocumentState → String
  | closed => "Closed"
  | idle => "Idle"
  | validating => "Validating"

/-- The open documents, in the order in which they were opened, and the last token given out. -/
structure Documents where
  entries : List (Uri × Document)
  lastToken : Nat
  deriving DecidableEq, Repr

namespace Documents

/-- No document is open. -/
def empty : Documents := ⟨[], 0⟩

/-- The open document of a URI. -/
def get? (d : Documents) (uri : Uri) : Option Document :=
  (d.entries.find? fun entry => entry.1 == uri).map Prod.snd

/-- Puts a document into a list of entries: in its old place if its URI is there, else at the end.
-/
def put (uri : Uri) (doc : Document) : List (Uri × Document) → List (Uri × Document)
  | [] => [(uri, doc)]
  | entry :: more =>
    if entry.1 = uri then (uri, doc) :: more else entry :: put uri doc more

/-- Sets the document of a URI. -/
def set (d : Documents) (uri : Uri) (doc : Document) : Documents :=
  { d with entries := put uri doc d.entries }

/-- Asks for a run on an open document: `request`. A document that is not open, or has no local
file, gets no ticket and leaves everything as it is. -/
def request (d : Documents) (uri : Uri) : Documents × Option Ticket :=
  match d.get? uri with
  | none => (d, none)
  | some doc =>
    match doc.path with
    | none => (d, none)
    | some path =>
      let token := d.lastToken + 1
      ({ d.set uri ⟨some path, some token⟩ with lastToken := token }, some ⟨uri, path, token⟩)

/-- Opens a document, or opens it anew, and asks for a run on it: `open`. The local file is what
`to_file_path` answers for the URI. -/
def openDocument (d : Documents) (uri : Uri) : Documents × Option Ticket :=
  (d.set uri ⟨uri.localPath, none⟩).request uri

/-- Asks for a run on each of some URIs, in order: the loop of `request_all`. -/
def requestEach : Documents → List Uri → Documents × List Ticket
  | d, [] => (d, [])
  | d, uri :: more =>
    let (d, ticket) := d.request uri
    let (d, tickets) := requestEach d more
    (d, ticket.toList ++ tickets)

/-- Asks for a run on every open document, in the order in which they were opened: `request_all`. -/
def requestAll (d : Documents) : Documents × List Ticket :=
  d.requestEach (d.entries.map Prod.fst)

/-- Whether a document is open: `is_open`. -/
def isOpen (d : Documents) (uri : Uri) : Bool := (d.get? uri).isSome

/-- Closes a document, and tells whether it was open: `close`. -/
def close (d : Documents) (uri : Uri) : Documents × Bool :=
  ({ d with entries := d.entries.filter fun entry => entry.1 != uri }, d.isOpen uri)

/-- Hands in a ticket: `finish`. It is accepted if its document is open and waits for exactly this
token, and then the document waits no longer. -/
def finish (d : Documents) (ticket : Ticket) : Documents × Bool :=
  match d.get? ticket.uri with
  | none => (d, false)
  | some doc =>
    if doc.pending = some ticket.token then
      (d.set ticket.uri { doc with pending := none }, true)
    else (d, false)

/-- What can be seen of a document: `state`. -/
def state (d : Documents) (uri : Uri) : DocumentState :=
  match d.get? uri with
  | none => .closed
  | some doc => if doc.pending.isSome then .validating else .idle

end Documents

end LineLint
