import LineLint.DataDir
import LineLint.Json.Printer
import LineLint.Json.Reader
import LineLint.Rpc.Message
import LineLint.Text.Blank

/-!
# Messages on a stream of bytes

A message is preceded by headers, one of which gives its length in bytes.

* `Header`, `headers` — headers and the empty line after them.
* `contentLength` — the length that headers give.
* `Decoder`, `Decoder.next` — takes messages off a stream as far as it has come.
* `frame` — a message with its header.
-/

namespace LineLint.Protocol.Wire

/-- A header. -/
structure Header where
  name : Bytes
  value : Bytes
  deriving DecidableEq, Repr

/-- What a reader of headers finds. -/
inductive Scan (α : Type) where
  /-- It is there, with what follows it. -/
  | found (value : α) (rest : Bytes)
  /-- The stream has not come far enough. -/
  | partly
  | malformed

/-- Whether a byte can stand in the name of a header. -/
def isNameByte (b : UInt8) : Bool :=
  let c := Char.ofNat b.toNat
  c.isAlphanum || "!#$%&'*+-.^_`|~".toList.contains c

/-- Whether a byte can stand in the value of a header. -/
def isValueByte (b : UInt8) : Bool := b = 9 || (32 ≤ b && b != 127)

/-- Whether a byte is a space or a tab. -/
def isGapByte (b : UInt8) : Bool := b = 32 || b = 9

/-- Reads the end of a line. -/
def lineEnd : Bytes → Scan Unit
  | [] => .partly
  | [13] => .partly
  | 13 :: 10 :: rest => .found () rest
  | 10 :: rest => .found () rest
  | _ => .malformed

/-- Reads a header with the end of its line. Blanks around its value do not count. -/
def header (s : Bytes) : Scan Header :=
  let name := s.takeWhile isNameByte
  match s.dropWhile isNameByte with
  | [] => .partly
  | b :: rest =>
    if b ≠ 58 ∨ name.isEmpty then .malformed
    else
      let rest := rest.dropWhile isGapByte
      let value := rest.takeWhile isValueByte
      match lineEnd (rest.dropWhile isValueByte) with
      | .found _ rest => .found ⟨name, (value.reverse.dropWhile isGapByte).reverse⟩ rest
      | .partly => .partly
      | .malformed => .malformed

/-- Reads headers, at most so many, up to and with the empty line after them. -/
def headers : Nat → Bytes → Scan (List Header)
  | most, s =>
    match lineEnd s with
    | .found _ rest => .found [] rest
    | .partly => .partly
    | .malformed =>
      match most with
      | 0 => .malformed
      | more + 1 =>
        match header s with
        | .partly => .partly
        | .malformed => .malformed
        | .found first rest =>
          match headers more rest with
          | .found others rest => .found (first :: others) rest
          | .partly => .partly
          | .malformed => .malformed

/-- How many headers a message may have. -/
def maxHeaders : Nat := 2

/-- A whole number of 64 bits in digits, possibly with a plus sign before it. -/
def length? (s : Bytes) : Option Nat :=
  let digits := if s.head? = some 43 then s.drop 1 else s
  if digits.isEmpty || digits.any (fun b => b < 48 || 57 < b) then none
  else
    let n := digits.foldl (fun n b => n * 10 + (b.toNat - 48)) 0
    if n < Nat.pow 2 64 then some n else none

/-- Whether the value of a content type names UTF-8 as its character set. -/
def isUtf8 (value : Bytes) : Bool :=
  match Text.decode? value with
  | none => false
  | some text =>
    let params := ((text.splitOn ';').drop 1).map Text.trim
    let charset := params.find? fun p => "charset=".toList.isPrefixOf p
    charset = some "charset=utf-8".toList || charset = some "charset=utf8".toList

/-- The length that headers give: the last one counts, and a content type has to name UTF-8. -/
def contentLength : List Header → Option Nat → Option Nat
  | [], found => found
  | h :: more, found =>
    if h.name = textBytes "Content-Length" then
      match length? h.value with
      | some n => contentLength more (some n)
      | none => none
    else if h.name = textBytes "Content-Type" then
      if isUtf8 h.value then contentLength more found else none
    else contentLength more found

/-! ## Bodies -/

/-- A message that cannot be taken. -/
inductive Fault where
  /-- The headers or the text are not what they should be. -/
  | unreadable
  /-- The text is a value, but no message. -/
  | notMessage
  deriving DecidableEq, Repr

/-- The error with which a fault is answered. -/
def Fault.error : Fault → Rpc.Error
  | unreadable => .parse
  | notMessage => .invalidRequest

/-- Reads the body of a message. What is no message counts before what follows it. -/
def body (bytes : Bytes) : Except Fault Rpc.Message :=
  match Text.decode? bytes with
  | none => .error .unreadable
  | some text =>
    match Json.value Json.maxDepth text with
    | .error _ => .error .unreadable
    | .ok (v, rest) =>
      match Rpc.Message.ofJson? v with
      | none => .error .notMessage
      | some message =>
        match Json.atEnd rest with
        | .ok _ => .ok message
        | .error _ => .error .unreadable

/-- What has come of a stream and has not been taken off, and the length of the body that comes next
if its headers have been taken. -/
structure Decoder where
  pending : Bytes
  length : Option Nat

/-- Before anything has come. -/
def Decoder.initial : Decoder := ⟨[], none⟩

/-- What a stream holds next. -/
inductive Next where
  | message (m : Rpc.Message) (d : Decoder)
  /-- Something without a meaning was taken off. -/
  | skip (d : Decoder)
  | fault (f : Fault)
  /-- More has to come. -/
  | wait

/-- Takes headers or a body off a stream. A body of length zero is skipped. -/
def Decoder.next (d : Decoder) : Next :=
  match d.length with
  | some n =>
    if d.pending.length < n then .wait
    else if n = 0 then .skip ⟨d.pending, none⟩
    else
      match body (d.pending.take n) with
      | .ok m => .message m ⟨d.pending.drop n, none⟩
      | .error f => .fault f
  | none =>
    match headers maxHeaders d.pending with
    | .partly => .wait
    | .malformed => .fault .unreadable
    | .found hs rest =>
      match contentLength hs none with
      | some n => .skip ⟨rest, some n⟩
      | none => .fault .unreadable

/-- Adds what has come. -/
def Decoder.add (d : Decoder) (bytes : Bytes) : Decoder := { d with pending := d.pending ++ bytes }

/-! ## Writing -/

/-- A message with its header. -/
def frame (v : Json) : Bytes :=
  let body := textBytes v.compact
  textBytes s!"Content-Length: {body.length}\r\n\r\n" ++ body

end LineLint.Protocol.Wire
