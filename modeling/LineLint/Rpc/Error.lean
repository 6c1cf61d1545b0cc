import LineLint.Json.Basic

/-!
# Errors of remote calls

An error answer has a code, a message and possibly data. Codes have a fixed description.

* `Rpc.Error` — an error answer.
* `Rpc.describe` — what a code stands for.
* `Rpc.Error.text` — description and message.
* the errors that the server itself answers with.
-/

namespace LineLint.Rpc

/-- An error answer. -/
structure Error where
  code : Int
  message : String
  data : Option Json := none
  deriving Repr

/-- What a code stands for. -/
def describe (code : Int) : String :=
  if code = -32700 then "Parse error"
  else if code = -32600 then "Invalid request"
  else if code = -32601 then "Method not found"
  else if code = -32602 then "Invalid params"
  else if code = -32603 then "Internal error"
  else if code = -32800 then "Canceled"
  else if code = -32801 then "Content modified"
  else "Server error"

/-- The wording of an error: what its code stands for, then its message. -/
def Error.text (e : Error) : String := describe e.code ++ ": " ++ e.message

/-- An error with the description of its code as message. -/
def Error.ofCode (code : Int) : Error := ⟨code, describe code, none⟩

/-- The text could not be read. -/
def Error.parse : Error := .ofCode (-32700)

/-- The message is not allowed now, or is no message. -/
def Error.invalidRequest : Error := .ofCode (-32600)

/-- The method is known but has no answer here. -/
def Error.noMethod : Error := .ofCode (-32601)

/-- The method is not known. -/
def Error.unknownMethod (method : String) : Error := ⟨-32601, describe (-32601), some (.str method)⟩

/-- The parameters do not fit. -/
def Error.invalidParams (message : String) : Error := ⟨-32602, message, none⟩

/-- Nothing but the first call is answered yet. -/
def Error.notInitialized : Error := ⟨-32002, "Server not initialized", none⟩

/-- An error in a message. -/
def Error.toJson (e : Error) : Json :=
  .obj ([("code", .int e.code), ("message", .str e.message)] ++
    match e.data with
    | some data => [("data", data)]
    | none => [])

end LineLint.Rpc
