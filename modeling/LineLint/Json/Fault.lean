import LineLint.Text.Utf8

/-!
# Where a text stops being JSON

A reader works on the characters that are left. A fault records what was left when it was noticed,
so that its place can be worked out from the whole text afterwards.

* `Reason` — why a text is not JSON, with its wording.
* `Located` — a cause with the place where it was noticed.
* `Position`, `Located.position` — line and column, in bytes.
-/

namespace LineLint.Json

/-- Why a text is not JSON. -/
inductive Reason where
  | endOfValue
  | endOfString
  | endOfObject
  | endOfList
  | expectedValue
  | expectedIdent
  | expectedColon
  | expectedListEnd
  | expectedObjectEnd
  | keyNotString
  | trailingComma
  | trailingCharacters
  | invalidNumber
  | numberOutOfRange
  | invalidEscape
  | endOfHexEscape
  | loneSurrogate
  | controlCharacter
  | tooDeep
  deriving DecidableEq, Repr

/-- The wording of a reason. -/
def Reason.message : Reason → String
  | endOfValue => "EOF while parsing a value"
  | endOfString => "EOF while parsing a string"
  | endOfObject => "EOF while parsing an object"
  | endOfList => "EOF while parsing a list"
  | expectedValue => "expected value"
  | expectedIdent => "expected ident"
  | expectedColon => "expected `:`"
  | expectedListEnd => "expected `,` or `]`"
  | expectedObjectEnd => "expected `,` or `\x7d`"
  | keyNotString => "key must be a string"
  | trailingComma => "trailing comma"
  | trailingCharacters => "trailing characters"
  | invalidNumber => "invalid number"
  | numberOutOfRange => "number out of range"
  | invalidEscape => "invalid escape"
  | endOfHexEscape => "unexpected end of hex escape"
  | loneSurrogate => "lone leading surrogate in hex escape"
  | controlCharacter => "control character (\\u0000-\\u001F) found while parsing a string"
  | tooDeep => "recursion limit exceeded"

/-- A place in a text. Lines count from one; a column is the number of bytes since the line's start.
-/
structure Position where
  line : Nat
  column : Nat
  deriving DecidableEq, Repr

/-- The place after so many bytes of a text. -/
def Position.after (bytes : Bytes) : Position :=
  bytes.foldl (fun p b => if b = 10 then ⟨p.line + 1, 0⟩ else ⟨p.line, p.column + 1⟩) ⟨1, 0⟩

/-- The words that give a place at the end of a message. -/
def Position.suffix (p : Position) : String :=
  s!" at line {p.line} column {p.column}"

/-- A cause noticed when `rest` was still unread; its place is `ahead` bytes further on. -/
structure Located (ρ : Type) where
  cause : ρ
  rest : List Char
  ahead : Nat

/-- The same place with another cause. -/
def Located.map {ρ σ : Type} (f : ρ → σ) (l : Located ρ) : Located σ :=
  ⟨f l.cause, l.rest, l.ahead⟩

/-- Line and column of a fault in the text that was read, never past the text's end. -/
def Located.position {ρ : Type} (text : List Char) (l : Located ρ) : Position :=
  let bytes := Text.encode text
  Position.after (bytes.take (bytes.length - Text.byteLength l.rest + l.ahead))

/-- A result with the characters that are left after it. -/
abbrev Parsed (α : Type) := α × List Char

/-- A fault right where the unread characters start. -/
def failAt {ρ α : Type} (cause : ρ) (rest : List Char) : Except (Located ρ) (Parsed α) :=
  .error ⟨cause, rest, 0⟩

/-- A fault at the first unread byte, placed after it. -/
def failOn {ρ α : Type} (cause : ρ) (rest : List Char) : Except (Located ρ) (Parsed α) :=
  .error ⟨cause, rest, 1⟩

end LineLint.Json
