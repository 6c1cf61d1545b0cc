import LineLint.Json.Basic
import LineLint.Report

/-!
# Diagnostics

What an editor is told about a problem: the part of the line past the allowed length is marked with
a warning.

* `Diagnostic` — a marked range with a message.
* `Diagnostic.ofProblem`, `diagnostics` — the marks for what a report says.
* `Diagnostic.toJson` — as the editor protocol writes it.
-/

namespace LineLint

/-- A place in a document: line and character, both counted from zero. -/
structure Place where
  line : UInt32
  character : UInt32
  deriving DecidableEq, Repr

/-- Places in the order of the text. -/
def Place.le (p q : Place) : Prop :=
  p.line < q.line ∨ (p.line = q.line ∧ p.character ≤ q.character)

/-- How serious a diagnostic is. -/
inductive Severity where
  | error
  | warning
  | information
  | hint
  deriving DecidableEq, Repr

/-- The number of a severity in the editor protocol. -/
def Severity.code : Severity → Nat
  | error => 1
  | warning => 2
  | information => 3
  | hint => 4

/-- A marked range of a document with a message. -/
structure Diagnostic where
  start : Place
  stop : Place
  severity : Severity
  source : String
  message : String
  deriving DecidableEq, Repr

/-- The name under which diagnostics are shown. -/
def diagnosticSource : String := "lll"

/-- The last character that a range can name, past the end of any line. -/
def lastCharacter : UInt32 := 0xFFFFFFFF

/-- The mark of a problem: its line from the allowed length on. -/
def Diagnostic.ofProblem (maxLength : UInt32) (p : Problem) : Diagnostic :=
  { start := ⟨p.line, maxLength⟩
    stop := ⟨p.line, lastCharacter⟩
    severity := .warning
    source := diagnosticSource
    message := p.message }

/-- The marks of problems, in order: `to_diagnostics`. -/
def diagnostics (found : List Problem) (maxLength : UInt32) : List Diagnostic :=
  found.map (Diagnostic.ofProblem maxLength)

/-- A place in the editor protocol. -/
def Place.toJson (p : Place) : Json :=
  .obj [("line", .nat p.line.toNat), ("character", .nat p.character.toNat)]

/-- A diagnostic in the editor protocol. -/
def Diagnostic.toJson (d : Diagnostic) : Json :=
  .obj [
    ("range", .obj [("start", d.start.toJson), ("end", d.stop.toJson)]),
    ("severity", .nat d.severity.code),
    ("source", .str d.source),
    ("message", .str d.message)]

end LineLint
