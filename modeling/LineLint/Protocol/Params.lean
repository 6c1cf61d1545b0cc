import LineLint.Protocol.Shape

/-!
# Parameters of the editor protocol

The shapes of the parameters that the server looks at, and of those calls that it knows but does not
answer.

* `handshakeShape` — what an editor says of itself at the start.
* `openShape`, `saveShape`, `closeShape`, `configurationShape` — notifications on documents.
* `Method`, `Method.ofName?` — the methods that are known.
-/

namespace LineLint.Protocol

/-- Whole numbers of 32 bits without sign. -/
def word : Shape := .whole 0 (Int.pow 2 32 - 1) "u32"

/-- Whole numbers of 32 bits with sign. -/
def signedWord : Shape := .whole (-Int.pow 2 31) (Int.pow 2 31 - 1) "i32"

/-- A field that may be left out or `null`. -/
def optionalField (key : String) (shape : Shape) : String × Presence × Shape :=
  (key, .optional, .orNull shape)

/-- A field that has to be there. -/
def requiredField (key : String) (shape : Shape) : String × Presence × Shape :=
  (key, .required, shape)

/-- A record of optional booleans. -/
def flags (name : String) (keys : List String) : Shape :=
  .record name (keys.map fun key => optionalField key .bool)

/-- A capability that says only whether it can be registered later. -/
def dynamicRegistration : Shape :=
  flags "DynamicRegistrationClientCapabilities" ["dynamicRegistration"]

/-- What an editor can do with its workspace. -/
def workspaceCapabilities : Shape :=
  .record "WorkspaceClientCapabilities" [
    optionalField "applyEdit" .bool,
    optionalField "workspaceEdit" (.record "WorkspaceEditClientCapabilities" []),
    optionalField "didChangeConfiguration" dynamicRegistration,
    optionalField "didChangeWatchedFiles"
      (flags "DidChangeWatchedFilesClientCapabilities"
        ["dynamicRegistration", "relativePatternSupport"]),
    optionalField "symbol" (flags "WorkspaceSymbolClientCapabilities" ["dynamicRegistration"]),
    optionalField "executeCommand" dynamicRegistration,
    optionalField "workspaceFolders" .bool,
    optionalField "configuration" .bool,
    optionalField "semanticTokens"
      (flags "SemanticTokensWorkspaceClientCapabilities" ["refreshSupport"]),
    optionalField "codeLens" (flags "CodeLensWorkspaceClientCapabilities" ["refreshSupport"]),
    optionalField "fileOperations"
      (flags "WorkspaceFileOperationsClientCapabilities"
        ["dynamicRegistration", "didCreate", "willCreate", "didRename", "willRename", "didDelete",
          "willDelete"]),
    optionalField "inlineValue" (flags "InlineValueWorkspaceClientCapabilities" ["refreshSupport"]),
    optionalField "inlayHint" (flags "InlayHintWorkspaceClientCapabilities" ["refreshSupport"]),
    optionalField "diagnostic" (flags "DiagnosticWorkspaceClientCapabilities" ["refreshSupport"])]

/-- What an editor can do. Only the workspace part is looked into. -/
def clientCapabilities : Shape :=
  .record "ClientCapabilities" [
    optionalField "workspace" workspaceCapabilities,
    optionalField "textDocument" (.record "TextDocumentClientCapabilities" []),
    optionalField "window" (.record "WindowClientCapabilities" []),
    optionalField "general" (.record "GeneralClientCapabilities" []),
    optionalField "experimental" .any]

/-- What an editor says of itself at the start. -/
def handshakeShape : Shape :=
  .record "InitializeParams" [
    optionalField "processId" word,
    optionalField "rootPath" .string,
    ("rootUri", .defaulted, .orNull .uri),
    optionalField "initializationOptions" .any,
    requiredField "capabilities" clientCapabilities,
    ("trace", .defaulted, .orNull (.choice ["off", "messages", "verbose"])),
    optionalField "workspaceFolders"
      (.list (.record "WorkspaceFolder" [requiredField "uri" .uri, requiredField "name" .string])),
    optionalField "clientInfo"
      (.record "ClientInfo" [requiredField "name" .string, optionalField "version" .string]),
    optionalField "locale" .string]

/-- What an editor says once it is ready: nothing. -/
def readyShape : Shape := .record "InitializedParams" []

/-- A document by its URI. -/
def documentId : Shape := .record "TextDocumentIdentifier" [requiredField "uri" .uri]

/-- An opened document. -/
def openShape : Shape :=
  .record "DidOpenTextDocumentParams" [
    requiredField "textDocument" (.record "TextDocumentItem" [
      requiredField "uri" .uri,
      requiredField "languageId" .string,
      requiredField "version" signedWord,
      requiredField "text" .string])]

/-- A saved document. -/
def saveShape : Shape :=
  .record "DidSaveTextDocumentParams" [
    requiredField "textDocument" documentId,
    optionalField "text" .string]

/-- A closed document. -/
def closeShape : Shape :=
  .record "DidCloseTextDocumentParams" [requiredField "textDocument" documentId]

/-- A changed configuration. -/
def configurationShape : Shape :=
  .record "DidChangeConfigurationParams" [requiredField "settings" .any]

/-- A position in a document. -/
def positionShape (name : String) : Shape :=
  .record name [
    requiredField "textDocument" documentId,
    requiredField "position"
      (.record "Position" [requiredField "line" word, requiredField "character" word])]

/-- A whole document. -/
def documentShape (name : String) : Shape :=
  .record name [requiredField "textDocument" documentId]

/-- The methods that are known here. -/
inductive Method where
  /-- The first call of an editor. -/
  | handshake
  /-- The editor has taken note of the answer to its first call. -/
  | ready
  /-- The last call of an editor. -/
  | shutdown
  /-- The end of the conversation. -/
  | exit
  | didOpen
  | didSave
  | didClose
  | didChangeConfiguration
  /-- A notification that changes nothing here. -/
  | ignored
  /-- A call that gets no answer but an error; its parameters are looked at before that. -/
  | unanswered (shape : Shape)

/-- The calls at a position of a document that get no answer. -/
def positionMethods : List (String × String) :=
  [("textDocument/declaration", "GotoDefinitionParams"),
   ("textDocument/definition", "GotoDefinitionParams"),
   ("textDocument/typeDefinition", "GotoDefinitionParams"),
   ("textDocument/implementation", "GotoDefinitionParams"),
   ("textDocument/references", "ReferenceParams"),
   ("textDocument/prepareCallHierarchy", "CallHierarchyPrepareParams"),
   ("textDocument/prepareTypeHierarchy", "TypeHierarchyPrepareParams"),
   ("textDocument/documentHighlight", "DocumentHighlightParams"),
   ("textDocument/hover", "HoverParams"),
   ("textDocument/moniker", "MonikerParams"),
   ("textDocument/completion", "CompletionParams"),
   ("textDocument/signatureHelp", "SignatureHelpParams"),
   ("textDocument/onTypeFormatting", "DocumentOnTypeFormattingParams"),
   ("textDocument/rename", "RenameParams"),
   ("textDocument/prepareRename", "TextDocumentPositionParams"),
   ("textDocument/linkedEditingRange", "LinkedEditingRangeParams")]

/-- The calls on a whole document that get no answer. -/
def documentMethods : List (String × String) :=
  [("textDocument/willSaveWaitUntil", "WillSaveTextDocumentParams"),
   ("textDocument/documentLink", "DocumentLinkParams"),
   ("textDocument/codeLens", "CodeLensParams"),
   ("textDocument/foldingRange", "FoldingRangeParams"),
   ("textDocument/selectionRange", "SelectionRangeParams"),
   ("textDocument/documentSymbol", "DocumentSymbolParams"),
   ("textDocument/semanticTokens/full", "SemanticTokensParams"),
   ("textDocument/semanticTokens/full/delta", "SemanticTokensDeltaParams"),
   ("textDocument/semanticTokens/range", "SemanticTokensRangeParams"),
   ("textDocument/inlineValue", "InlineValueParams"),
   ("textDocument/inlayHint", "InlayHintParams"),
   ("textDocument/diagnostic", "DocumentDiagnosticParams"),
   ("textDocument/codeAction", "CodeActionParams"),
   ("textDocument/documentColor", "DocumentColorParams"),
   ("textDocument/colorPresentation", "ColorPresentationParams"),
   ("textDocument/formatting", "DocumentFormattingParams"),
   ("textDocument/rangeFormatting", "DocumentRangeFormattingParams")]

/-- Other calls that get no answer. -/
def otherMethods : List String :=
  ["callHierarchy/incomingCalls", "callHierarchy/outgoingCalls", "typeHierarchy/supertypes",
   "typeHierarchy/subtypes", "documentLink/resolve", "codeLens/resolve", "inlayHint/resolve",
   "completionItem/resolve", "workspace/diagnostic", "codeAction/resolve", "workspace/symbol",
   "workspaceSymbol/resolve", "workspace/willCreateFiles", "workspace/willRenameFiles",
   "workspace/willDeleteFiles", "workspace/executeCommand"]

/-- Notifications that change nothing here. -/
def ignoredMethods : List String :=
  ["textDocument/didChange", "textDocument/willSave", "workspace/didChangeWorkspaceFolders",
   "workspace/didCreateFiles", "workspace/didRenameFiles", "workspace/didDeleteFiles",
   "workspace/didChangeWatchedFiles"]

/-- The method of a name, if it is known. -/
def Method.ofName? (name : String) : Option Method :=
  match name with
  | "initialize" => some .handshake
  | "initialized" => some .ready
  | "shutdown" => some .shutdown
  | "exit" => some .exit
  | "textDocument/didOpen" => some .didOpen
  | "textDocument/didSave" => some .didSave
  | "textDocument/didClose" => some .didClose
  | "workspace/didChangeConfiguration" => some .didChangeConfiguration
  | name =>
    match positionMethods.lookup name, documentMethods.lookup name with
    | some record, _ => some (.unanswered (positionShape record))
    | none, some record => some (.unanswered (documentShape record))
    | none, none =>
      if otherMethods.contains name then some (.unanswered .any)
      else if ignoredMethods.contains name then some .ignored
      else none

end LineLint.Protocol
