import LineLint.Options.Help
import LineLint.Options.Parse
import LineLint.Task.Run

/-!
# The command line

What the program does for its arguments, over any surroundings that can print, read and start tasks.

* `Surroundings` — what the program needs from outside.
* `tasksCommand`, `resolveCommand` — the two commands on tasks.
* `program` — the whole program: from arguments to exit code.
-/

namespace LineLint

/-- What the program needs from outside. -/
structure Surroundings (m : Type → Type) where
  /-- Writes to standard output. -/
  print : String → m Unit
  /-- Writes to standard error. -/
  note : String → m Unit
  /-- All that is left of standard input. -/
  readInput : m Bytes
  currentDirectory : m (Except SystemError Bytes)
  /-- Starts a task and waits for its end. -/
  start : Execution → m TaskOutcome
  /-- Serves an editor to the end. -/
  serve : Options → m (Except CommandError Unit)

variable {m : Type → Type} [Monad m]

namespace Surroundings

/-- Announces a task and starts it. -/
def startTask (s : Surroundings m) (task : Task) : m TaskOutcome := do
  s.note ("> " ++ task.name ++ "\n")
  s.start task.execution

/-- The paths of folders, by default of the current directory alone. -/
def foldersOr (s : Surroundings m) (folders : List Bytes) :
    m (Except CommandError (List Bytes)) := do
  if folders.isEmpty then
    match ← s.currentDirectory with
    | .ok path => return .ok [path]
    | .error e => return .error (.currentDirectory e)
  else return .ok folders

/-- Prints what the editor reads. -/
def printJson (s : Surroundings m) (written : Except Task.WriteFault Json) :
    m (Except CommandError Unit) := do
  match written with
  | .ok v =>
    s.print (v.pretty ++ "\n")
    return .ok ()
  | .error fault => return .error (.unwritable fault)

/-- Prints or runs the task of each folder. -/
def tasksCommand (s : Surroundings m) (folders : List Bytes) (run : Bool) :
    m (Except CommandError Unit) := do
  match ← s.foldersOr folders with
  | .error e => return .error e
  | .ok paths =>
    let tasks := Task.provided (paths.map Folder.ofPath)
    if run then runTasks s.startTask tasks else s.printJson (Task.listToJson tasks)

/-- The text of a task entry: a dash stands for standard input. -/
def entryText (s : Surroundings m) (task : String) : m (Except CommandError String) := do
  if task = "-" then
    match Text.decode? (← s.readInput) with
    | some text => return .ok (String.ofList text)
    | none => return .error .unreadableInput
  else return .ok task

/-- The task of an entry in a folder. -/
def resolveEntry (text : String) (path : Bytes) : Except CommandError Task :=
  match Task.Configured.parse text with
  | .error e => .error (.task e)
  | .ok entry =>
    match entry.resolve (Folder.ofPath path) with
    | .error e => .error (.task e)
    | .ok task => .ok task

/-- Prints or runs the task of an entry. -/
def resolveCommand (s : Surroundings m) (task : String) (folder : Option Bytes) (run : Bool) :
    m (Except CommandError Unit) := do
  match ← s.entryText task with
  | .error e => return .error e
  | .ok text =>
    match ← s.foldersOr folder.toList with
    | .error e => return .error e
    | .ok paths =>
      match resolveEntry text (paths.headD []) with
      | .error e => return .error e
      | .ok task =>
        if run then
          match ← runTask s.startTask task with
          | .error e => return .error e
          | .ok true => return .ok ()
          | .ok false => return .error (.taskFailed task.name)
        else s.printJson task.toJson

/-- Carries out a command. -/
def command (s : Surroundings m) (options : Options) : m (Except CommandError Unit) :=
  match options.command with
  | .tasks folders run => s.tasksCommand folders run
  | .resolveTask task folder run => s.resolveCommand task folder run
  | .serve => s.serve options

/-- Answers arguments that lead to no command: help and version are printed. -/
def usage (s : Surroundings m) (e : UsageError) : m Nat := do
  match e with
  | .displayHelp topic => s.print topic.text
  | .displayVersion => s.print versionText
  | _ => s.note (e.message ++ "\n")
  return e.code

/-- The whole program: carries out what the arguments ask for, and gives the exit code. -/
def program (s : Surroundings m) (args : List Bytes) : m Nat := do
  match Options.parse args with
  | .error e => s.usage e
  | .ok options =>
    match ← s.command options with
    | .ok _ => return 0
    | .error e =>
      s.note e.report
      return 1

end Surroundings

end LineLint
