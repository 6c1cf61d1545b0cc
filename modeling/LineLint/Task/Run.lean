import LineLint.Checker.Error
import LineLint.Task.Configured

/-!
# Running tasks

Tasks are started one after the other, in order. One that cannot be started ends the run; one that
fails is counted.

* `TaskOutcome` — what comes of starting a task.
* `CommandError` — why a command fails, with its wording and its cause.
* `runTask`, `countFailures`, `runTasks` — one task, and all tasks of a list.

How a task is started is left open: it is a step of any monad.
-/

namespace LineLint

/-- What comes of starting a task and waiting for its end. -/
inductive TaskOutcome where
  | succeeded
  | failed
  | refused (fault : StartFault)
  deriving DecidableEq, Repr

/-- Why a command of the command line fails. -/
inductive CommandError where
  /-- The current directory cannot be found. -/
  | currentDirectory (error : SystemError)
  /-- The task text on standard input is not text. -/
  | unreadableInput
  /-- The entry gives no task. -/
  | task (error : TaskError)
  /-- A task cannot be written. -/
  | unwritable (fault : Task.WriteFault)
  /-- A task could not be started. -/
  | start (name : String) (fault : StartFault)
  /-- Some of the tasks have failed. -/
  | someFailed (failed total : Nat)
  /-- The one task has failed. -/
  | taskFailed (name : String)
  /-- The log cannot be kept. -/
  | log (error : SystemError)
  deriving DecidableEq, Repr

namespace CommandError

/-- The wording of a command error. -/
def message : CommandError → String
  | currentDirectory _ => "Failed to read current directory"
  | unreadableInput => "Failed to read task from stdin"
  | task error => error.message
  | unwritable fault => fault.message
  | start name _ => "Failed to run task " ++ name
  | someFailed failed total => s!"{failed} of {total} lint tasks reported problems"
  | taskFailed name => "Lint task " ++ name ++ " reported problems"
  | log error => error.text

/-- What lies behind a command error. -/
def cause? : CommandError → Option String
  | currentDirectory error => some error.text
  | unreadableInput => some "stream did not contain valid UTF-8"
  | task (.parse fault position) => some (fault.message ++ position.suffix)
  | start _ fault => some fault.message
  | _ => none

/-- A command error as it is shown, with its cause below. -/
def report (e : CommandError) : String :=
  "Error: " ++ e.message ++ "\n" ++
    match e.cause? with
    | some cause => "\nCaused by:\n    " ++ cause ++ "\n"
    | none => ""

end CommandError

section

variable {m : Type → Type} [Monad m]

/-- Runs one task: `run_task`, which tells whether it succeeds. -/
def runTask (start : Task → m TaskOutcome) (task : Task) : m (Except CommandError Bool) := do
  match ← start task with
  | .succeeded => return .ok true
  | .failed => return .ok false
  | .refused fault => return .error (.start task.name fault)

/-- Runs tasks in order up to the first that cannot be started, and tells how many fail: the loop of
`run_tasks`. -/
def countFailures (start : Task → m TaskOutcome) : List Task → m (Except CommandError Nat)
  | [] => return .ok 0
  | task :: more => do
    match ← runTask start task with
    | .error e => return .error e
    | .ok succeeded =>
      match ← countFailures start more with
      | .error e => return .error e
      | .ok failed => return .ok (if succeeded then failed else failed + 1)

/-- Runs tasks in order: `run_tasks`. It is an error if any fails. -/
def runTasks (start : Task → m TaskOutcome) (tasks : List Task) :
    m (Except CommandError Unit) := do
  match ← countFailures start tasks with
  | .error e => return .error e
  | .ok 0 => return .ok ()
  | .ok failed => return .error (.someFailed failed tasks.length)

end

end LineLint
