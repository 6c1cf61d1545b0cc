import LineLint.Host.Files
import LineLint.Host.Letters
import LineLint.Host.Shell.Script

/-!
# The state of a shell

* `World` — what all programs share: files, streams and the time.
* `Channel` — where a descriptor leads.
* `Flow` — whether a script goes on.
* `Interpreter` — a shell that runs a script, and the elementary steps on it.
-/

namespace LineLint.Host.Shell

/-- What all programs share. Written text is kept in reverse. Times are in nanoseconds. -/
structure World where
  files : Files
  outputs : Array (List Char)
  inputs : Array (List Char)
  clock : Nat
  /-- When everything is stopped from outside. -/
  deadline : Nat
  /-- When the last program in the background ends. -/
  backgroundEnd : Nat
  /-- When the last program ends that could still write to the outside. -/
  heldUntil : Nat

/-- Where a descriptor leads. The outputs 0 and 1 lead outside. -/
inductive Channel where
  | output (n : Nat)
  | input (n : Nat)
  | file (place : Place)
  | sink
  deriving DecidableEq

/-- Whether a script goes on. -/
inductive Flow where
  | normal
  | exits
  | returns
  | breaks (loops : Nat)
  | continues (loops : Nat)
  | killed (signal : Nat)
  /-- It was stopped from outside. -/
  | stopped
  deriving DecidableEq, Repr

/-- A variable. -/
structure Variable where
  value : List Char
  exported : Bool

/-- A shell that runs a script. -/
structure Interpreter where
  world : World
  bindings : List (List Char × Variable)
  functions : List (List Char × Command)
  name : List Char
  params : List (List Char)
  line : Nat
  status : Nat
  /-- The status of the last substitution in the command under way. -/
  substituted : Option Nat
  flow : Flow
  channels : List (Nat × Channel)
  cwd : Place
  errexit : Bool
  nounset : Bool
  /-- Whether a failure is looked at by someone. -/
  guarded : Bool
  /-- What to do at the end, for the signal 0, or on a signal. -/
  traps : List (Nat × List Char)
  depth : Nat
  /-- How many loops are being carried out. -/
  loops : Nat
  pid : Nat

/-- A step of a shell. -/
abbrev Act := StateM Interpreter

/-- Whether the script goes on. -/
def running : Act Bool := do return (← get).flow == .normal

/-- Sets the status. -/
def setStatus (status : Nat) : Act Unit := modify fun s => { s with status }

/-- Changes what all programs share. -/
def modifyWorld (f : World → World) : Act Unit := modify fun s => { s with world := f s.world }

/-- The channel of a descriptor. -/
def channel? (fd : Nat) : Act (Option Channel) := do
  return ((← get).channels.find? fun p => p.1 == fd).map Prod.snd

/-- Lets a descriptor lead somewhere, or nowhere. -/
def setChannel (fd : Nat) (channel : Option Channel) : Act Unit :=
  modify fun s =>
    let others := s.channels.filter fun p => p.1 != fd
    { s with channels := (channel.map fun p => (fd, p)).toList ++ others }

/-- Adds text to a file. -/
def World.addTo (w : World) (place : Place) (text : List Char) : World :=
  match w.files.get? place with
  | some (.data contents executable) =>
    { w with files := w.files.put place (.data (contents ++ bytesOf text) executable) }
  | _ => w

/-- Writes to a descriptor. -/
def write (fd : Nat) (text : List Char) : Act Unit := do
  match ← channel? fd with
  | some (.output n) =>
    modifyWorld fun w => { w with outputs := w.outputs.modify n fun old => text.reverseAux old }
  | some (.file place) => modifyWorld fun w => w.addTo place text
  | _ => return

/-- All that is left to read from a descriptor. -/
def unread (fd : Nat) : Act (List Char) := do
  match ← channel? fd with
  | some (.input n) => return ((← get).world.inputs[n]?).getD []
  | _ => return []

/-- Leaves only so much to read from a descriptor. -/
def setUnread (fd : Nat) (rest : List Char) : Act Unit := do
  match ← channel? fd with
  | some (.input n) => modifyWorld fun w => { w with inputs := w.inputs.modify n fun _ => rest }
  | _ => return

/-- A new output. -/
def newOutput : Act Nat := do
  let n := (← get).world.outputs.size
  modifyWorld fun w => { w with outputs := w.outputs.push [] }
  return n

/-- A new input with some text. -/
def newInput (text : List Char) : Act Nat := do
  let n := (← get).world.inputs.size
  modifyWorld fun w => { w with inputs := w.inputs.push text }
  return n

/-- What has been written to an output. -/
def written (n : Nat) : Act (List Char) := do
  return (((← get).world.outputs[n]?).getD []).reverse

/-- Lets time pass, without end if it is not given. -/
def pass (nanos : Option Nat) : Act Unit := do
  modifyWorld fun w =>
    { w with clock := match nanos with
      | some n => w.clock + n
      | none => max w.clock w.deadline }
  let w := (← get).world
  if w.deadline ≤ w.clock then modify fun s => { s with flow := .stopped }

/-- Writes a complaint with the script's name and the line. -/
def complain (text : List Char) : Act Unit := do
  let s ← get
  write 2 (s.name ++ [':', ' '] ++ decimal s.line ++ [':', ' '] ++ text ++ ['\n'])

/-- Complains and ends the script. -/
def abort (text : List Char) : Act Unit := do
  complain text
  modify fun s => { s with status := 2, flow := .exits }

/-- The value of a variable. -/
def valueOf? (name : List Char) : Act (Option (List Char)) := do
  return ((← get).bindings.find? fun v => v.1 == name).map fun v => v.2.value

/-- Sets a variable; it stays exported if it was. -/
def setVariable (name value : List Char) (doExport : Bool) : Act Unit :=
  modify fun s =>
    let exported := s.bindings.any fun v => v.1 == name && v.2.exported
    { s with bindings := (name, ⟨value, doExport || exported⟩) ::
        s.bindings.filter fun v => v.1 != name }

/-- Forgets a variable. -/
def unsetVariable (name : List Char) : Act Unit :=
  modify fun s => { s with bindings := s.bindings.filter fun v => v.1 != name }

/-- The characters that separate fields. -/
def separators : Act (List Char) := do
  return (← valueOf? "IFS".toList).getD [' ', '\t', '\n']

/-- The value of a parameter, if it is set. -/
def parameter? (name : List Char) : Act (Option (List Char)) := do
  let s ← get
  match name with
  | ['?'] => return some (decimal s.status)
  | ['#'] => return some (decimal s.params.length)
  | ['$'] => return some (decimal s.pid)
  | ['0'] => return some s.name
  | ['!'] => return none
  | ['-'] => return some ((if s.errexit then ['e'] else []) ++ (if s.nounset then ['u'] else []))
  | c :: _ =>
    if c.isDigit then return s.params[(takeDigits 10 0 name).1 - 1]?
    else valueOf? name
  | [] => return none

/-- Where programs are looked for. -/
def searchPath : Act (List Bytes) := do
  let path := (← valueOf? "PATH".toList).getD []
  return (path.splitOn ':').map bytesOf

/-- Runs something as a part of the shell that leaves only its traces in the world and its status. A
part that is killed takes the whole with it. -/
def apart (act : Act Unit) : Act Unit := do
  let before ← get
  set { before with traps := [] }
  act
  let after ← get
  let flow := match after.flow with
    | .killed signal => .killed signal
    | .stopped => .stopped
    | _ => .normal
  set { before with world := after.world, status := after.status, flow }

end LineLint.Host.Shell
