import LineLint.Checker.Basic
import LineLint.Host.Shell.Run

/-!
# A model machine

A machine with files and an environment, on which programs can be started. Programs run one at a
time, and take only the time that they wait.

* `Machine` — files, environment, current directory and what is left to read.
* `Launch` — a program to be started.
* `Machine.start` — what comes of starting it.
-/

namespace LineLint.Host

open Shell (Flow Channel World)

/-- A machine. -/
structure Machine where
  files : Files
  environment : List (String × Bytes)
  /-- The current directory; it may have been removed. -/
  cwd : Place
  /-- What is left to read from standard input. -/
  input : Bytes

/-- A program to be started. -/
structure Launch where
  program : Bytes
  args : List Bytes
  /-- The directory to start it in, if not the current one. -/
  directory : Option Bytes
  /-- Whether it reads what the machine has left to read. -/
  readsInput : Bool
  /-- The time that it is given, in nanoseconds. -/
  limit : Option Nat

namespace Machine

/-- The directories in which programs are looked for. -/
def searchPath (m : Machine) : List Bytes :=
  match m.environment.find? fun v => v.1 == "PATH" with
  | some (_, path) => path.splitOn 58
  | none => [textBytes "/bin", textBytes "/usr/bin"]

/-- The longest argument that a program can be given. -/
def maxArgument : Nat := 131071

/-- The directory that a program is started in. -/
def directoryOf (m : Machine) (directory : Option Bytes) : Except SystemError Place := do
  match directory with
  | none => return m.cwd
  | some path =>
    match m.files.get? m.cwd, path.head? with
    | none, some 47 => pure ()
    | none, _ => .error .noSuchFile
    | some _, _ => pure ()
    match ← m.files.lookup m.cwd path with
    | (place, .directory) => return place
    | _ => .error .notDirectory

/-- The file of a program that can be started, and the directory that it is started in. -/
def prepare (m : Machine) (l : Launch) : Except StartFault (Place × Bytes × Entry) :=
  if (l.program :: l.args ++ l.directory.toList).any fun bytes => bytes.contains 0 then
    .error .nulByte
  else
    let found : Except SystemError (Place × Bytes × Entry) := do
      let place ← m.directoryOf l.directory
      let (path, entry) ← m.files.search place m.searchPath l.program
      if (l.program :: l.args).any fun bytes => maxArgument < bytes.length then .error .tooLong
      else return (place, path, entry)
    match found with
    | .ok found => .ok found
    | .error e => .error (.system e)

/-- The time that it takes to start a program, in nanoseconds. -/
def startTime : Nat := Nat.pow 10 6

/-- A time that no program reaches. -/
def never : Nat := Nat.pow 10 30

/-- The shell as which a program is started. -/
def shellFor (m : Machine) (l : Launch) (place : Place) : Shell.Interpreter :=
  let world : World := {
    files := m.files
    outputs := #[[], []]
    inputs := #[lettersOf m.input]
    clock := 0
    deadline := l.limit.getD never
    backgroundEnd := 0
    heldUntil := 0 }
  { world
    bindings := m.environment.map fun v => (letters v.1, ⟨lettersOf v.2, true⟩)
    functions := []
    name := lettersOf l.program
    params := []
    line := 0
    status := 0
    substituted := none
    flow := .normal
    channels := [(0, if l.readsInput then .input 0 else .sink), (1, .output 0), (2, .output 1)]
    cwd := place
    errexit := false
    nounset := false
    guarded := false
    traps := []
    depth := 0
    loops := 0
    pid := 4711 }

/-- A bound on the nested calls and rounds of a script. -/
def patience : Nat := 200000

/-- Starts a program and waits for its end, and for the end of all that could still write to its
output. -/
def start (m : Machine) (l : Launch) : Machine × Started :=
  match m.prepare l with
  | .error fault => (m, .refused fault)
  | .ok (place, path, entry) =>
    let act : Shell.Act Unit := do
      Shell.pass (some startTime)
      if ← Shell.running then
        Shell.execute patience (lettersOf path) entry (lettersOf l.program) (l.args.map lettersOf)
    let (_, after) := act.run (m.shellFor l place)
    let world := after.world
    let text (n : Nat) : Bytes := bytesOf ((world.outputs[n]?).getD []).reverse
    let m := { m with
      files := world.files
      input := bytesOf ((world.inputs[0]?).getD []) }
    if after.flow == .stopped || world.deadline ≤ max world.clock world.heldUntil then
      (m, .unfinished)
    else
      let status := match after.flow with
        | .killed signal => WaitStatus.ofSignal signal
        | _ => WaitStatus.ofCode after.status
      (m, .ended status (text 0) (text 1))

/-- Runs a checker on a file. -/
def check (m : Machine) (c : Checker) (maxLength : UInt32) (path : Bytes) : Machine × Started :=
  m.start {
    program := textBytes c.program
    args := c.arguments maxLength path
    directory := none
    readsInput := false
    limit := some c.limit.toNanos }

/-- A machine with its usual files, started in a directory. -/
def standard (cwd : String) : Machine where
  files := standardFiles
  environment := [("PATH", textBytes "/usr/local/bin:/usr/bin:/bin"), ("HOME", textBytes "/root")]
  cwd := placeOf cwd
  input := []

end Machine

end LineLint.Host
