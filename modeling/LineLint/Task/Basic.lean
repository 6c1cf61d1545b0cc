import LineLint.Checker.Error
import LineLint.Json.Basic

/-!
# Lint tasks

A task runs the checker over a workspace folder. An editor can ask for one task for each folder.

* `Folder`, `Folder.ofPath` — a workspace folder and its name.
* `Task`, `Task.make` — a task with all that an editor shows and runs.
* `provided` — the task of each folder.
* `Task.toJson` — as the editor reads it.
-/

namespace LineLint

/-- A workspace folder: a `WorkspaceFolder`. Its path is kept as given. -/
structure Folder where
  name : String
  path : Bytes
  deriving DecidableEq, Repr

/-- The pieces of a path between slashes. -/
def pathPieces : Bytes → List Bytes
  | [] => [[]]
  | b :: rest =>
    if b = 47 then [] :: pathPieces rest
    else match pathPieces rest with
      | [] => [[b]]
      | piece :: more => (b :: piece) :: more

/-- The last piece of a path that is neither empty nor `.`, unless it is `..`. -/
def lastName? (path : Bytes) : Option Bytes :=
  match ((pathPieces path).filter fun piece => !piece.isEmpty && piece != [46]).getLast? with
  | some piece => if piece = [46, 46] then none else some piece
  | none => none

/-- The folder at a path: `from_path`. It is named by the last name of its path, or by the whole
path if that has none. -/
def Folder.ofPath (path : Bytes) : Folder :=
  ⟨String.ofList (Text.decodeLossy ((lastName? path).getD path)), path⟩

/-- A command with its arguments and the directory it runs in: a `ShellExecution`. -/
structure Execution where
  command : String
  args : List String
  cwd : Bytes
  deriving DecidableEq, Repr

/-- The directory that is handed to the system, by `to_command`. -/
def Execution.directory (e : Execution) : Bytes := handedOver e.cwd

/-- A lint task: a `LintTask`, as the editor's tasks are listed. -/
structure Task where
  type : String
  scope : Folder
  name : String
  source : String
  execution : Execution
  problemMatchers : List String
  deriving DecidableEq, Repr

namespace Task

/-- The type of the tasks made here. -/
def lintType : String := "lll"

/-- The matcher with which an editor reads the output of a task. -/
def problemMatcher : String := "$lll"

/-- The command of a task: the checker on all files of the folder but installed packages
(`create_execution`). -/
def executionIn (folder : Bytes) : Execution :=
  ⟨"lll", [".", "--skiplist", "node_modules"], folder⟩

/-- A task of a type for a folder under a name: `create_task`. -/
def make (type : String) (scope : Folder) (name : String) : Task :=
  { type, scope, name
    source := lintType
    execution := executionIn scope.path
    problemMatchers := [problemMatcher] }

/-- The name of a folder's task. -/
def nameFor (folder : Folder) : String := "lint " ++ folder.name

/-- The task of each folder, in order: `provide_tasks`. -/
def provided (folders : List Folder) : List Task :=
  folders.map fun folder => make lintType folder (nameFor folder)

/-- A path that is not valid text cannot be written. -/
inductive WriteFault where
  | pathNotText
  deriving DecidableEq, Repr

/-- The wording of a write fault. -/
def WriteFault.message : WriteFault → String
  | pathNotText => "path contains invalid UTF-8 characters"

/-- A path as JSON text. -/
def pathJson (path : Bytes) : Except WriteFault Json :=
  match Text.decode? path with
  | some text => .ok (.str (String.ofList text))
  | none => .error .pathNotText

/-- A task as the editor reads it. -/
def toJson (t : Task) : Except WriteFault Json := do
  let path ← pathJson t.scope.path
  let cwd ← pathJson t.execution.cwd
  return .obj [
    ("definition", .obj [("type", .str t.type)]),
    ("scope", .obj [("name", .str t.scope.name), ("path", path)]),
    ("name", .str t.name),
    ("source", .str t.source),
    ("execution", .obj [
      ("command", .str t.execution.command),
      ("args", .arr (t.execution.args.map .str)),
      ("cwd", cwd)]),
    ("problemMatchers", .arr (t.problemMatchers.map .str))]

/-- The tasks of a list as the editor reads them. -/
def listToJson (tasks : List Task) : Except WriteFault Json := do
  let items ← tasks.mapM toJson
  return .arr items

end Task

end LineLint
