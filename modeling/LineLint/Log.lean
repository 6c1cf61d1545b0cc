import LineLint.Checker.Error
import LineLint.Documents
import LineLint.Settings.Basic

/-!
# Log events

Everything that the server writes to its log, as one type, with level, origin and wording.

* `Level` — how important an event is.
* `Event` — what happened.
* `Event.level`, `Event.origin`, `Event.message`, `Event.fields` — how it is written.
-/

namespace LineLint

/-- How important an event is. -/
inductive Level where
  | error
  | warn
  | info
  | debug
  | trace
  deriving DecidableEq, Repr

/-- The name of a level. -/
def Level.name : Level → String
  | error => "ERROR"
  | warn => "WARN"
  | info => "INFO"
  | debug => "DEBUG"
  | trace => "TRACE"

/-- How much of the log a level lets through, from most to least important. -/
def Level.rank : Level → Nat
  | error => 1
  | warn => 2
  | info => 3
  | debug => 4
  | trace => 5

/-- What the server writes to its log. -/
inductive Event where
  /-- A document was opened that is no local file. -/
  | noLocalPath (uri : Uri)
  /-- A run found its document closed. -/
  | closedBeforeStart (uri : Uri)
  /-- The checker gave no report. -/
  | checkerFailed (uri : Uri) (error : CheckerError)
  /-- A run was no longer the latest of its document. -/
  | discarded (uri : Uri) (token : Nat) (state : DocumentState)
  /-- A run's diagnostics go to the editor. -/
  | publishing (uri : Uri) (count : Nat)
  /-- The pushed configuration has an unusable section. -/
  | badGlobal (error : SettingsError)
  /-- What the editor can do. -/
  | capabilities (perResource dynamicRegistration : Bool)
  /-- The editor refused to report configuration changes. -/
  | registrationFailed (error : Rpc.Error)
  /-- All open documents are checked again. -/
  | revalidating (count : Nat)
  /-- The settings of a document were forgotten. -/
  | entryInvalidated (uri : Uri)
  /-- All settings were forgotten. -/
  | cacheCleared (count : Nat)
  /-- The settings of a document could not be had. -/
  | fetchFailed (uri : Uri) (error : SettingsError)
  /-- The editor is asked for the settings of a document. -/
  | requesting (uri : Uri)
  /-- The checker is started. -/
  | runningChecker (program : String) (path : Bytes) (maxLength : UInt32)
  /-- The checker has ended with success. -/
  | checkerFinished (program : String) (stdoutBytes : Nat)
  /-- The server starts. -/
  | starting (logPath : Bytes)
  /-- The server has stopped. -/
  | stopped
  deriving Repr

namespace Event

/-- The level of an event. -/
def level : Event → Level
  | noLocalPath _ | closedBeforeStart _ | discarded _ _ _ | entryInvalidated _ | cacheCleared _
  | requesting _ | runningChecker _ _ _ | checkerFinished _ _ => .debug
  | publishing _ _ | capabilities _ _ | revalidating _ | starting _ | stopped => .info
  | badGlobal _ | registrationFailed _ | fetchFailed _ _ => .warn
  | checkerFailed _ _ => .error

/-- The part of the program that an event comes from, as log filters name it. -/
def origin : Event → String
  | noLocalPath _ => "lll_lsp::lsp::documents"
  | closedBeforeStart _ | checkerFailed _ _ | discarded _ _ _ | publishing _ _ | badGlobal _
  | capabilities _ _ | registrationFailed _ | revalidating _ => "lll_lsp::lsp::backend"
  | entryInvalidated _ | cacheCleared _ | fetchFailed _ _ => "lll_lsp::settings::cache"
  | requesting _ => "lll_lsp::settings::source"
  | runningChecker _ _ _ | checkerFinished _ _ => "lll_lsp::lint::checker"
  | starting _ | stopped => "lll_lsp::lsp::server"

/-- The wording of an event. -/
def message : Event → String
  | noLocalPath _ => "document has no local path, not linting"
  | closedBeforeStart _ => "Document closed before validation started"
  | checkerFailed _ _ => "Checker failed"
  | discarded _ _ _ => "Discarding result of superseded validation run"
  | publishing _ _ => "Publishing diagnostics"
  | badGlobal _ => "Ignoring invalid global settings"
  | capabilities _ _ => "Client configuration capabilities"
  | registrationFailed _ => "Failed to register for configuration changes"
  | revalidating _ => "Revalidating open documents"
  | entryInvalidated _ => "settings cache entry invalidated"
  | cacheCleared _ => "settings cache cleared"
  | fetchFailed _ _ => "Failed to fetch settings, using defaults"
  | requesting _ => "requesting workspace/configuration"
  | runningChecker _ _ _ => "running checker"
  | checkerFinished _ _ => "checker finished"
  | starting _ => "Starting lll-lsp server"
  | stopped => "lll-lsp server stopped"

/-- What an event says besides its wording. -/
def fields : Event → List (String × Json)
  | noLocalPath uri => [("uri", .str uri.text)]
  | closedBeforeStart uri => [("uri", .str uri.text)]
  | checkerFailed uri error => [("uri", .str uri.text), ("error", .str error.message)]
  | discarded uri token state =>
    [("uri", .str uri.text), ("token", .nat token), ("state", .str state.name)]
  | publishing uri count => [("uri", .str uri.text), ("count", .nat count)]
  | badGlobal error => [("error", .str error.message)]
  | capabilities perResource dynamicRegistration =>
    [("per_resource", .bool perResource), ("dynamic_registration", .bool dynamicRegistration)]
  | registrationFailed error => [("error", .str error.text)]
  | revalidating count => [("count", .nat count)]
  | entryInvalidated uri => [("uri", .str uri.text)]
  | cacheCleared count => [("count", .nat count)]
  | fetchFailed uri error => [("uri", .str uri.text), ("error", .str error.message)]
  | requesting uri => [("uri", .str uri.text)]
  | runningChecker program path maxLength =>
    [("program", .str program), ("path", .str (String.ofList (Text.decodeLossy path))),
      ("max_length", .nat maxLength.toNat)]
  | checkerFinished program stdoutBytes =>
    [("program", .str program), ("stdout_bytes", .nat stdoutBytes)]
  | starting logPath => [("log_path", .str (String.ofList (Text.decodeLossy logPath)))]
  | stopped => []

/-- An event as the log shows it. -/
def toJson (e : Event) : Json :=
  .obj [("level", .str e.level.name), ("fields", .obj (("message", .str e.message) :: e.fields))]

end Event

end LineLint
