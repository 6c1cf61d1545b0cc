import LineLint.Json.Shape
import LineLint.Rpc.Error

/-!
# Messages of remote calls

A request has a method, and possibly parameters and an identity; one without an identity gets no
answer. An answer carries the identity of its request.

* `Request`, `Request.ofJson?` — calls.
* `Response`, `Response.ofJson?` — answers.
* `Message.ofJson?` — either of them.
-/

namespace LineLint.Rpc

/-- A call. -/
structure Request where
  method : String
  params : Option Json
  id : Option Json

/-- An answer. -/
structure Response where
  id : Json
  result : Except Error Json

/-- Whether a value can identify a call: a whole number of 64 bits with sign, a string, or `null`.
-/
def isId : Json → Bool
  | .int n => -Int.pow 2 63 ≤ n && n < Int.pow 2 63
  | .str _ => true
  | .null => true
  | _ => false

/-- Whether a value names the protocol version that is spoken here. -/
def isVersion : Option Json → Bool
  | some (.str "2.0") => true
  | _ => false

/-- Puts the fields of a call together, if they are what they should be. The version has to be
there, a missing method counts as empty, and a `null` identity is an identity. -/
def Request.ofFields? (version method params id : Option Json) : Option Request :=
  if isVersion version then
    match method.getD (.str ""), (id.map isId).getD true with
    | .str method, true => some ⟨method, params, id⟩
    | _, _ => none
  else none

/-- Whether some of the given keys stands more than once in an object. -/
def repeats (keys : List String) (entries : List (String × Json)) : Bool :=
  keys.any fun key => decide (1 < (entries.filter fun e => e.1 == key).length)

/-- Reads a call: an object, or a list of its fields in order. No field may be given twice. -/
def Request.ofJson? : Json → Option Request
  | .obj entries =>
    if repeats ["jsonrpc", "method", "params", "id"] entries then none
    else
      Request.ofFields? (Json.lookup "jsonrpc" entries) (Json.lookup "method" entries)
        (Json.lookup "params" entries) (Json.lookup "id" entries)
  | .arr items =>
    if items.length ≤ 4 then Request.ofFields? items[0]? items[1]? items[2]? items[3]? else none
  | _ => none

/-- Reads the error of an answer. No other fields are allowed in it. -/
def Error.ofJson? : Json → Option Error
  | .obj entries =>
    let known := entries.all fun e => e.1 == "code" || e.1 == "message" || e.1 == "data"
    match known, Json.lookup "code" entries, Json.lookup "message" entries with
    | true, some (.int code), some (.str message) =>
      if isId (.int code) then some ⟨code, message, Json.lookup "data" entries⟩ else none
    | _, _, _ => none
  | _ => none

/-- Reads an answer: an object with an identity and a result or an error. -/
def Response.ofJson? : Json → Option Response
  | .obj entries =>
    match isVersion (Json.lookup "jsonrpc" entries), Json.lookup "id" entries with
    | true, some id =>
      if isId id && !repeats ["jsonrpc", "id"] entries then
        match Json.lookup "result" entries, (Json.lookup "error" entries).bind Error.ofJson? with
        | some result, _ => some ⟨id, .ok result⟩
        | none, some e => some ⟨id, .error e⟩
        | none, none => none
      else none
    | _, _ => none
  | _ => none

/-- What comes from the other side. -/
inductive Message where
  | response (r : Response)
  | request (r : Request)

/-- Reads a message. What can be read as an answer is one. -/
def Message.ofJson? (v : Json) : Option Message :=
  match Response.ofJson? v, Request.ofJson? v with
  | some r, _ => some (.response r)
  | none, some r => some (.request r)
  | none, none => none

/-- An answer as it is sent. -/
def Response.toJson (r : Response) : Json :=
  .obj [("jsonrpc", .str "2.0"),
    match r.result with
    | .ok result => ("result", result)
    | .error e => ("error", e.toJson),
    ("id", r.id)]

/-- A notification as it is sent. -/
def notificationJson (method : String) (params : Json) : Json :=
  .obj [("jsonrpc", .str "2.0"), ("method", .str method), ("params", params)]

/-- A call as it is sent. -/
def requestJson (method : String) (params : Json) (id : Nat) : Json :=
  .obj [("jsonrpc", .str "2.0"), ("method", .str method), ("params", params), ("id", .nat id)]

end LineLint.Rpc
