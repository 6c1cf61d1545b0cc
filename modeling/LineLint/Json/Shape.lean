import LineLint.Json.Printer

/-!
# Values of the wrong shape

What is said of a value that is JSON but not what was asked for.

* `Found` — how the value that was met is named.
* `Mismatch` — in what way it does not fit, with its wording.
-/

namespace LineLint.Json

open Number (Binary64)

/-- The kind of a value that was met, with the value itself where it is short. -/
inductive Found where
  | null
  | bool (b : Bool)
  | int (n : Int)
  | float (x : Binary64)
  | str (s : String)
  | sequence
  | map
  deriving DecidableEq, Repr

/-- The kind of a value. -/
def found : Json → Found
  | .null => .null
  | .bool b => .bool b
  | .int n => .int n
  | .float x => .float x
  | .str s => .str s
  | .arr _ => .sequence
  | .obj _ => .map

/-- How a kind is named in a message. -/
def Found.text : Found → String
  | .null => "null"
  | .bool b => "boolean `" ++ String.ofList (boolText b) ++ "`"
  | .int n => "integer `" ++ String.ofList (intText n) ++ "`"
  | .float x => "floating point `" ++ floatFormat.write x ++ "`"
  | .str s => "string " ++ Text.quoted s
  | .sequence => "sequence"
  | .map => "map"

/-- In what way a value does not fit. -/
inductive Mismatch where
  | type (met : Found) (expected : String)
  | value (met : Found) (expected : String)
  | length (n : Nat) (expected : String)
  | missing (field : String)
  | duplicate (field : String)
  | unknownVariant (name : String) (expected : String)
  | other (text : String)
  deriving DecidableEq, Repr

/-- The wording of a mismatch. -/
def Mismatch.message : Mismatch → String
  | .type met expected => "invalid type: " ++ met.text ++ ", expected " ++ expected
  | .value met expected => "invalid value: " ++ met.text ++ ", expected " ++ expected
  | .length n expected => s!"invalid length {n}, expected " ++ expected
  | .missing field => "missing field `" ++ field ++ "`"
  | .duplicate field => "duplicate field `" ++ field ++ "`"
  | .unknownVariant name expected => "unknown variant `" ++ name ++ "`, expected " ++ expected
  | .other text => text

/-- Reads a whole number below a bound: `0 ≤ n < limit`. A number of another kind has the wrong
type, a whole one out of bounds the wrong value. -/
def asNat (limit : Nat) (expected : String) (v : Json) : Except Mismatch Nat :=
  match v with
  | .int n =>
    if 0 ≤ n ∧ n < limit then .ok n.toNat else .error (.value (.int n) expected)
  | v => .error (.type v.found expected)

/-- Reads a string. -/
def asString (v : Json) : Except Mismatch String :=
  match v with
  | .str s => .ok s
  | v => .error (.type v.found "a string")

/-- Reads a boolean. -/
def asBool (v : Json) : Except Mismatch Bool :=
  match v with
  | .bool b => .ok b
  | v => .error (.type v.found "a boolean")

end LineLint.Json
