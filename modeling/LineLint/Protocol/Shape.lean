import LineLint.Json.Shape
import LineLint.Uri.Basic

/-!
# Shapes of parameters

What the parameters of a call have to look like. Reading a value against a shape answers the first
thing that does not fit, or the value with every record as an object.

* `Shape` — what is expected.
* `Shape.read` — reads a value.
-/

namespace LineLint.Protocol

open Json (Mismatch)

/-- Whether a field of a record has to be there: `required` always, `optional` in a list of fields
only, `defaulted` never. -/
inductive Presence where
  | required
  | optional
  | defaulted
  deriving DecidableEq, Repr

/-- What is expected of a value. -/
inductive Shape where
  | any
  | bool
  | string
  | whole (low : Int) (high : Int) (name : String)
  | uri
  | orNull (shape : Shape)
  | list (shape : Shape)
  | choice (names : List String)
  | record (name : String) (fields : List (String × Presence × Shape))

/-- Names between backticks, separated by commas. -/
def choiceText (names : List String) : String :=
  let quoted := names.map fun n => "`" ++ n ++ "`"
  match quoted with
  | [one] => one
  | [one, two] => one ++ " or " ++ two
  | many => "one of " ++ String.intercalate ", " many

/-- The first fault among fields in the order of their keys. -/
def firstByKey (results : List (String × Except Mismatch Json)) : Option Mismatch :=
  let sorted := results.mergeSort fun a b => decide (a.1 ≤ b.1)
  sorted.findSome? fun r =>
    match r.2 with
    | .error e => some e
    | .ok _ => none

/-- The fields that were read. -/
def goodFields (results : List (String × Except Mismatch Json)) : List (String × Json) :=
  results.filterMap fun r =>
    match r.2 with
    | .ok v => some (r.1, v)
    | .error _ => none

/-- The first field in order that has to be there and is not. -/
def firstMissing (entries : List (String × Json)) :
    List (String × Presence × Shape) → Option Mismatch
  | [] => none
  | (key, presence, _) :: more =>
    if presence = .required ∧ Json.lookup key entries = none then some (.missing key)
    else firstMissing entries more

mutual
/-- Reads a value against a shape. -/
def Shape.read : Shape → Json → Except Mismatch Json
  | .any, v => .ok v
  | .bool, v => v.asBool.map .bool
  | .string, v => v.asString.map .str
  | .whole low high name, v =>
    match v with
    | .int n => if low ≤ n ∧ n ≤ high then .ok v else .error (.value (.int n) name)
    | v => .error (.type v.found name)
  | .uri, v =>
    match v with
    | .str s =>
      match Uri.parse s with
      | .ok _ => .ok v
      | .error e => .error (.value (.str s) e.message)
    | v => .error (.type v.found "a string representing an URL")
  | .orNull shape, v => if v.isNull then .ok .null else shape.read v
  | .list shape, v =>
    match v with
    | .arr items => (items.mapM shape.read).map .arr
    | v => .error (.type v.found "a sequence")
  | .choice names, v =>
    match v with
    | .str s => if names.contains s then .ok v else .error (.unknownVariant s (choiceText names))
    | v => .error (.type v.found "string or map")
  | .record name fields, v =>
    match v with
    | .obj entries =>
      let results := readEntries fields entries
      match firstByKey results, firstMissing entries fields with
      | some e, _ => .error e
      | none, some e => .error e
      | none, none => .ok (.obj (goodFields results))
    | .arr items => do
      let found ← readItems name fields.length fields 0 items
      if fields.length < items.length then
        .error (.length items.length "fewer elements in array")
      else return .obj found
    | v => .error (.type v.found ("struct " ++ name))

/-- Reads the fields of a record that are there. -/
def readEntries : List (String × Presence × Shape) → List (String × Json) →
    List (String × Except Mismatch Json)
  | [], _ => []
  | (key, _, shape) :: more, entries =>
    match Json.lookup key entries with
    | some v => (key, shape.read v) :: readEntries more entries
    | none => readEntries more entries

/-- Reads the fields of a record from a list, in order. -/
def readItems (name : String) (count : Nat) : List (String × Presence × Shape) → Nat → List Json →
    Except Mismatch (List (String × Json))
  | [], _, _ => .ok []
  | (_, presence, _) :: more, i, [] =>
    if presence = .defaulted then readItems name count more (i + 1) []
    else .error (.length i ("struct " ++ name ++ " with " ++ toString count ++
      (if count = 1 then " element" else " elements")))
  | (key, _, shape) :: more, i, v :: items => do
    let found ← shape.read v
    let rest ← readItems name count more (i + 1) items
    return (key, found) :: rest
end

end LineLint.Protocol
