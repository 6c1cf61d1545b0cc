import LineLint.Host.Machine
import LineLint.Program

/-!
# The program on a model machine

* `Desk` — a machine and what has been printed on it.
* `Desk.surroundings` — all that the program needs, on such a machine.
* `Desk.run` — runs the program to its end.
-/

namespace LineLint.Host

/-- A machine and what has been printed on it. -/
structure Desk where
  machine : Machine
  stdout : Bytes
  stderr : Bytes

namespace Desk

/-- Starts a task on the machine. What it prints goes where the program's own output goes. -/
def startTask (e : Execution) : StateM Desk TaskOutcome := do
  let desk ← get
  let (machine, started) := desk.machine.start {
    program := textBytes e.command
    args := e.args.map textBytes
    directory := some e.cwd
    readsInput := true
    limit := none }
  match started with
  | .refused fault =>
    set { desk with machine }
    return .refused fault
  | .unfinished =>
    set { desk with machine }
    return .failed
  | .ended status stdout stderr =>
    set (Desk.mk machine (desk.stdout ++ stdout) (desk.stderr ++ stderr))
    return if status.isSuccess then .succeeded else .failed

/-- The current directory of a machine, if it is still there. -/
def currentDirectory (m : Machine) : Except SystemError Bytes :=
  match m.files.get? m.cwd with
  | some .directory => .ok (Place.text m.cwd)
  | _ => .error .noSuchFile

/-- All that the program needs, with a given way to serve an editor. -/
def surroundings (serve : Options → StateM Desk (Except CommandError Unit)) :
    Surroundings (StateM Desk) where
  print text := modify fun d => { d with stdout := d.stdout ++ textBytes text }
  note text := modify fun d => { d with stderr := d.stderr ++ textBytes text }
  readInput := do
    let input := (← get).machine.input
    modify fun d => { d with machine := { d.machine with input := [] } }
    return input
  currentDirectory := do return currentDirectory (← get).machine
  start := startTask
  serve

end Desk

end LineLint.Host
