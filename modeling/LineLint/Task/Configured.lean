import LineLint.Json.Reader
import LineLint.Json.Shape
import LineLint.Task.Basic

/-!
# Tasks from a configuration

A task that a user has written into a configuration: an object with a `type`, possibly a `label`,
and any other keys. The label is looked at where it stands, the type once the object has been read.

* `Configured` — type and label.
* `TaskError` — why an entry gives no task, with its wording.
* `Configured.parse` — reads an entry.
* `Configured.resolve` — the task of an entry in a folder.
-/

namespace LineLint

namespace Task

open Json (Located Mismatch Parsed Position Reason failAt failOn skipGap)

/-- A task entry of a configuration: a `ConfiguredTask`. -/
structure Configured where
  type : String
  label : Option String
  deriving DecidableEq, Repr

/-- What is wrong with the text of an entry. -/
inductive EntryFault where
  | grammar (reason : Reason)
  | shape (mismatch : Mismatch)
  deriving DecidableEq, Repr

/-- The wording of an entry fault. -/
def EntryFault.message : EntryFault → String
  | grammar reason => reason.message
  | shape mismatch => mismatch.message

end Task

/-- Why a configuration entry gives no task. -/
inductive TaskError where
  /-- The entry cannot be read. -/
  | parse (fault : Task.EntryFault) (position : Json.Position)
  /-- The entry is for someone else. -/
  | unsupportedType (type : String)
  deriving DecidableEq, Repr

/-- The wording of a task error. -/
def TaskError.message : TaskError → String
  | parse fault position => "Invalid task configuration: " ++ fault.message ++ position.suffix
  | unsupportedType type =>
    "Task type " ++ Text.quoted type ++ " is not handled here, expected \"lll\""

namespace Task

open Json (Located Mismatch Parsed Position Reason failAt failOn skipGap)

/-- The answer of a JSON reader, with its fault as an entry fault. -/
def grammar {α : Type} (r : Except (Located Reason) α) : Except (Located EntryFault) α :=
  match r with
  | .ok a => .ok a
  | .error e => .error (e.map .grammar)

/-- Refuses what stands where something else was expected. A scalar is read first and the fault lies
after it; a bracket or brace is not read. -/
def refuse {α : Type} (expected : String) (s : List Char) :
    Except (Located EntryFault) (Parsed α) :=
  match s with
  | '[' :: _ => failAt (.shape (.type .sequence expected)) s
  | '\x7b' :: _ => failAt (.shape (.type .map expected)) s
  | _ => do
    let (v, rest) ← grammar (Json.valueWith none s)
    failAt (.shape (.type v.found expected)) rest

/-- Reads the value of the label: a string, or `null` for none. -/
def labelValue (s : List Char) : Except (Located EntryFault) (Parsed (Option String)) :=
  match skipGap s with
  | [] => failOn (.grammar .endOfValue) []
  | 'n' :: rest => grammar (Json.literal none ['u', 'l', 'l'] rest)
  | '"' :: rest => do
    let (text, rest) ← grammar (Json.stringRest rest)
    return (some text, rest)
  | s => refuse "a string" s

/-- The type of an entry from the values of all its `type` keys, in order. -/
def typeOf : List Json → Except Mismatch String
  | [] => .error (.missing "type")
  | [v] => v.asString
  | v :: _ :: _ => do
    let _ ← v.asString
    .error (.duplicate "type")

/-- Where the fault of a repeated label lies: after the key, and after the object's end if that is
what follows. -/
def afterRepeated (s : List Char) : List Char :=
  match skipGap s with
  | '\x7d' :: rest => rest
  | s => s

/-- Reads the entries of a task object up to and with its closing brace, given the values of the
`type` keys and the label read so far. -/
def fieldsFrom : Nat → Bool → List Json → Option (Option String) → List Char →
    Except (Located EntryFault) (Parsed Configured)
  | 0, _, _, _, s => failOn (.grammar .endOfObject) s
  | fuel + 1, first, types, label, s => do
    match ← grammar (Json.nextKey first s) with
    | .done rest =>
      match typeOf types with
      | .error mismatch => failAt (.shape mismatch) rest
      | .ok type => return (⟨type, label.getD none⟩, rest)
    | .key rest =>
      let (key, rest) ← grammar (Json.stringRest rest)
      if key = "label" then
        if label.isSome then failAt (.shape (.duplicate "label")) (afterRepeated rest)
        else
          let (_, rest) ← grammar (Json.colon rest)
          let (value, rest) ← labelValue rest
          fieldsFrom fuel false types (some value) rest
      else
        let (_, rest) ← grammar (Json.colon rest)
        let (value, rest) ← grammar (Json.value (Json.maxDepth - 1) rest)
        fieldsFrom fuel false (if key = "type" then types ++ [value] else types) label rest

/-- Reads a task object with nothing but blanks around it. -/
def Configured.read (text : List Char) : Except (Located EntryFault) Configured := do
  let (task, rest) ←
    match skipGap text with
    | [] => failOn (.grammar .endOfValue) []
    | '\x7b' :: rest => fieldsFrom (rest.length + 1) true [] none rest
    | s => refuse "struct ConfiguredTask" s
  grammar (Json.atEnd rest)
  return task

/-- Reads a task entry: `from_json`. -/
def Configured.parse (text : String) : Except TaskError Configured :=
  match Configured.read text.toList with
  | .ok task => .ok task
  | .error e => .error (.parse e.cause (e.position text.toList))

/-- The task of an entry in a folder (`resolve_task`): like the folder's own task, under the entry's
label if it has one. Only entries of this program's type are taken. -/
def Configured.resolve (entry : Configured) (scope : Folder) : Except TaskError Task :=
  if entry.type = lintType then
    .ok (make entry.type scope (entry.label.getD (nameFor scope)))
  else .error (.unsupportedType entry.type)

end Task

end LineLint
