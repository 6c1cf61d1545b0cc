import LineLint.Checker.SystemError
import LineLint.Task.Basic

/-!
# Files of a model machine

A tree of files, given by the list of its entries, and the walk along a path with the errors that a
system reports on the way.

* `Entry`, `Files` — what stands at a place.
* `Files.locate` — the place that a path leads to.
* `Files.lookup` — the entry that a path leads to.
* `Files.search` — the program that a name stands for.
* `Files.makeDirectory` — makes a directory.
-/

namespace LineLint.Host

/-- What stands at a place. -/
inductive Entry where
  | directory
  | data (contents : Bytes) (executable : Bool)
  /-- A program that the machine itself offers. -/
  | program (name : String)
  /-- Reads as empty and takes everything. -/
  | sink

/-- A place: the names on the way from the root. -/
abbrev Place := List Bytes

/-- The files of a machine. The root is always there. -/
structure Files where
  entries : List (Place × Entry)

namespace Files

/-- The entry at a place. -/
def get? (f : Files) (place : Place) : Option Entry :=
  if place = [] then some .directory
  else (f.entries.find? fun e => e.1 == place).map Prod.snd

/-- Puts an entry at a place. -/
def put (f : Files) (place : Place) (entry : Entry) : Files :=
  ⟨(place, entry) :: f.entries.filter fun e => e.1 != place⟩

/-- The longest name that an entry may have. -/
def maxName : Nat := 255

/-- Follows names from a place. Every place on the way has to be a directory. -/
def walk (f : Files) : Place → List Bytes → Except SystemError Place
  | place, [] => .ok place
  | place, name :: more =>
    match f.get? place with
    | none => .error .noSuchFile
    | some .directory =>
      if name.isEmpty ∨ name = [46] then walk f place more
      else if name = [46, 46] then walk f place.dropLast more
      else if maxName < name.length then .error .nameTooLong
      else walk f (place ++ [name]) more
    | some _ => .error .notDirectory

/-- The place that a path leads to from a directory; nothing has to stand there. -/
def locate (f : Files) (cwd : Place) (path : Bytes) : Except SystemError Place :=
  match path with
  | [] => .error .noSuchFile
  | b :: _ => f.walk (if b = 47 then [] else cwd) (pathPieces path)

/-- The entry that a path leads to from a directory. -/
def lookup (f : Files) (cwd : Place) (path : Bytes) : Except SystemError (Place × Entry) := do
  let place ← f.locate cwd path
  match f.get? place with
  | none => .error .noSuchFile
  | some entry => .ok (place, entry)

/-- The entry of a path if it can be run. -/
def runnable (f : Files) (cwd : Place) (path : Bytes) : Except SystemError (Place × Entry) := do
  let (place, entry) ← f.lookup cwd path
  match entry with
  | .program _ => .ok (place, entry)
  | .data _ true => .ok (place, entry)
  | _ => .error .accessDenied

/-- Tries directories in order for a program; a refusal counts only if no later one has it. -/
def searchIn (f : Files) (cwd : Place) (name : Bytes) (refused : Bool) :
    List Bytes → Except SystemError (Bytes × Entry)
  | [] => .error (if refused then .accessDenied else .noSuchFile)
  | dir :: more =>
    let path := joinPath dir name
    match f.runnable cwd path with
    | .ok (_, entry) => .ok (path, entry)
    | .error e => searchIn f cwd name (refused || e == .accessDenied) more

/-- The program that a name stands for, with its path: a name with a slash is a path, any other is
looked for in the directories of the search path. -/
def search (f : Files) (cwd : Place) (searchPath : List Bytes) (name : Bytes) :
    Except SystemError (Bytes × Entry) :=
  if name.isEmpty then .error .noSuchFile
  else if name.contains 47 then do
    let (_, entry) ← f.runnable cwd name
    return (name, entry)
  else if maxName < name.length then .error .nameTooLong
  else f.searchIn cwd name false searchPath

/-- Makes directories below a place, one in the other, as far as they are not there. -/
def makeBelow (f : Files) (place : Place) : List Bytes → Except SystemError Files
  | [] => .ok f
  | name :: more =>
    let next := place ++ [name]
    match f.get? next with
    | some .directory => f.makeBelow next more
    | some _ => .error (if more.isEmpty then .fileExists else .notDirectory)
    | none => (f.put next .directory).makeBelow next more

/-- Makes a directory and all above it. -/
def makeDirectory (f : Files) (place : Place) : Except SystemError Files := f.makeBelow [] place

end Files

/-- The text of a place. -/
def Place.text (place : Place) : Bytes :=
  if place.isEmpty then [47] else place.flatMap fun name => 47 :: name

/-- The place that an absolute path names, with no look at the files. -/
def placeOf (path : String) : Place :=
  (pathPieces (textBytes path)).filter fun name => !name.isEmpty

/-- The programs that the machine offers. -/
def programNames : List String :=
  ["sh", "echo", "printf", "true", "false", "test", "[", "cat", "sleep", "basename", "dirname",
   "head", "tail", "wc", "seq", "tr", "tee", "yes", "env", "pwd", "touch", "mkdir"]

/-- A machine with its usual directories and programs. -/
def standardFiles : Files :=
  let directories := ["/bin", "/usr", "/usr/bin", "/etc", "/tmp", "/dev", "/home", "/root"]
  let programs (dir : String) : List (Place × Entry) :=
    programNames.map fun name => (placeOf (dir ++ "/" ++ name), .program name)
  ⟨directories.map (fun d => (placeOf d, .directory)) ++ programs "/bin" ++ programs "/usr/bin" ++
    [(placeOf "/dev/null", .sink), (placeOf "/etc/passwd", .data [] false),
     (placeOf "/etc/hostname", .data [] false)]⟩

end LineLint.Host
