import LineLint.Json.Shape
import LineLint.Rpc.Error

/-!
# Settings

The section of the editor's configuration that this server reads: how long a line may be, and how
many problems of a document are shown.

* `Settings` — the two limits; `Settings.standard` are the defaults.
* `SettingsError` — why no settings could be had, with its wording.
* `Settings.validated` — refuses a limit of zero.
* `Settings.ofJson` — reads a section: `null`, an object, or a list of the two limits in order.
-/

namespace LineLint

open Json (Mismatch)

/-- The limits that apply to a document: `LllSettings`, with the keys `maxLength` and
`maxNumberOfProblems`. -/
structure Settings where
  maxLength : UInt32
  maxProblems : UInt64
  deriving DecidableEq, Repr

/-- The limits that apply where the editor says nothing. -/
def Settings.standard : Settings := ⟨80, 1000⟩

/-- Why no settings could be had. -/
inductive SettingsError where
  /-- The editor answered the request with an error. -/
  | request (error : Rpc.Error)
  /-- The editor's answer holds no section. -/
  | missing
  /-- The section does not have the right shape. -/
  | invalid (mismatch : Mismatch)
  /-- The section allows lines of length zero only. -/
  | nonPositiveMaxLength
  deriving Repr

/-- The wording of an error. -/
def SettingsError.message : SettingsError → String
  | request error => "workspace/configuration request failed: " ++ error.text
  | missing => "client returned no configuration item"
  | invalid mismatch => "invalid settings: " ++ mismatch.message
  | nonPositiveMaxLength => "maxLength must be a positive integer"

namespace Settings

/-- The settings themselves, unless they allow no character in a line: `validated`. -/
def validated (s : Settings) : Except SettingsError Settings :=
  if s.maxLength = 0 then .error .nonPositiveMaxLength else .ok s

/-- Reads the longest line allowed: a whole number of 32 bits. -/
def readMaxLength (v : Json) : Except Mismatch UInt32 :=
  (v.asNat (Nat.pow 2 32) "u32").map UInt32.ofNat

/-- Reads the number of problems shown: a whole number of 64 bits. -/
def readMaxProblems (v : Json) : Except Mismatch UInt64 :=
  (v.asNat (Nat.pow 2 64) "usize").map UInt64.ofNat

/-- Reads a field if it is there. -/
def fieldOr {α : Type} (fallback : α) (read : Json → Except Mismatch α) :
    Option Json → Except Mismatch α
  | none => .ok fallback
  | some v => read v

/-- Reads both fields, the longest line first; a field that is not there keeps its default. -/
def ofFields (maxLength maxProblems : Option Json) : Except Mismatch Settings := do
  let maxLength ← fieldOr standard.maxLength readMaxLength maxLength
  let maxProblems ← fieldOr standard.maxProblems readMaxProblems maxProblems
  return ⟨maxLength, maxProblems⟩

/-- Reads a section that is not `null`. Keys other than the two are passed over. A list gives the
fields in order and may stop early, but not go on. -/
def shaped (v : Json) : Except Mismatch Settings :=
  match v with
  | .obj entries =>
    ofFields (Json.lookup "maxLength" entries) (Json.lookup "maxNumberOfProblems" entries)
  | .arr items => do
    let s ← ofFields items[0]? items[1]?
    if 2 < items.length then .error (.length items.length "fewer elements in array") else return s
  | v => .error (.type v.found "struct LllSettings")

/-- Reads a section: `from_value`. `null` stands for the defaults, and a limit of zero is refused.
-/
def ofJson (v : Json) : Except SettingsError Settings :=
  if v.isNull then .ok standard
  else
    match shaped v with
    | .error mismatch => .error (.invalid mismatch)
    | .ok s => s.validated

end Settings

end LineLint
