import LineLint.Checker.Status
import LineLint.Host.Condition
import LineLint.Host.Format
import LineLint.Host.Shell.State

/-!
# Commands that the shell carries out itself

Those that need nothing but the state of the shell.

* `deliver` — what a signal does to the shell.
* `builtin?` — the command of a name.
* `endsScript` — the commands whose misuse ends a script.
-/

namespace LineLint.Host.Shell

/-- A complaint of a command, which fails. -/
def failing (name : String) (status : Nat) (text : List Char) : Act Unit := do
  complain (name.toList ++ [':', ' '] ++ text)
  setStatus status

/-- The number of a word that has to be one. -/
def natural? (s : List Char) : Option Nat :=
  match integer? s with
  | some n => if n < 0 ∨ Int.pow 2 31 ≤ n then none else some n.toNat
  | none => none

/-- A complaint about a word that is no number; it ends the script. -/
def notNumber (name : String) (s : List Char) : Act Unit :=
  abort (name.toList ++ ": Illegal number: ".toList ++ s)

/-! ## Signals -/

/-- The names of the signals without their first three letters. -/
def shortSignalNames : List (List Char) := signalNames.map fun s => s.toList.drop 3

/-- The number of a signal by number or name. -/
def signal? (s : List Char) : Option Nat :=
  match natural? s with
  | some n => if n ≤ 64 then some n else none
  | none =>
    if s.map Char.toUpper = "EXIT".toList then some 0
    else (shortSignalNames.idxOf? (s.map Char.toUpper)).map (· + 1)

/-- The signals that do nothing by default. -/
def harmless : List Nat := [0, 17, 18, 23, 28]

/-- The signals that stop a program by default. -/
def stopping : List Nat := [19, 20, 21, 22]

/-- What a signal does to the shell, if it has no command for it. -/
def deliver (signal : Nat) : Act Unit := do
  if harmless.contains signal then return
  else if stopping.contains signal then pass none
  else modify fun s => { s with flow := .killed signal }

/-- What a shell writes about a program that a signal has killed. -/
def signalText (signal : Nat) : String :=
  match signal with
  | 1 => "Hangup"
  | 3 => "Quit"
  | 4 => "Illegal instruction"
  | 5 => "Trace/breakpoint trap"
  | 6 => "Aborted"
  | 7 => "Bus error"
  | 8 => "Floating point exception"
  | 9 => "Killed"
  | 10 => "User defined signal 1"
  | 11 => "Segmentation fault"
  | 12 => "User defined signal 2"
  | 14 => "Alarm clock"
  | 15 => "Terminated"
  | 16 => "Stack fault"
  | 24 => "CPU time limit exceeded"
  | 25 => "File size limit exceeded"
  | 26 => "Virtual timer expired"
  | 27 => "Profiling timer expired"
  | 29 => "I/O possible"
  | 30 => "Power failure"
  | 31 => "Bad system call"
  | _ => ""

/-- Takes note of a program that a signal has killed. -/
def noteKilled (signal : Nat) : Act Unit := do
  let text := signalText signal
  unless text.isEmpty do write 2 (text.toList ++ ['\n'])
  setStatus (128 + signal)

/-- Sends a signal to processes; only the shell's own number is known. -/
def sendSignal (signal : Nat) (targets : List (List Char)) : Act (Option (List Char)) := do
  setStatus 0
  let mut action : Option (List Char) := none
  for target in targets do
    match integer? target with
    | none => failing "kill" 2 ("Illegal number: ".toList ++ target)
    | some n =>
      if n = ((← get).pid : Int) then
        match (← get).traps.find? fun t => t.1 == signal && signal != 0 && signal != 9 &&
            signal != 19 with
        | some (_, text) => action := if text.isEmpty then action else some text
        | none => deliver signal
      else failing "kill" 1 ("No such process\n".toList)
  return action

/-- How signals are sent. -/
def killUsage : List Char :=
  "Usage: kill [-s sigspec | -signum | -sigspec] [pid | job]... or\n".toList ++
    "kill -l [exitstatus]".toList

/-- Sends a signal. The answer is what the shell has to carry out because of it. -/
def kill (args : List (List Char)) : Act (Option (List Char)) := do
  let complaint (text : List Char) : Act (Option (List Char)) := do
    failing "kill" 2 text
    return none
  let named (word : List Char) (targets : List (List Char)) : Act (Option (List Char)) := do
    match signal? word with
    | some n => sendSignal n targets
    | none => complaint ("invalid signal number or name: ".toList ++ word)
  match args with
  | [] => complaint killUsage
  | ['-', '-'] :: targets => sendSignal 15 targets
  | ['-', 's'] :: word :: targets => named word targets
  | ['-', 'l'] :: word :: _ =>
    match natural? word with
    | some n =>
      write 1 ((shortSignalNames[(if 128 < n then n - 128 else n) - 1]?).getD [] ++ ['\n'])
      setStatus 0
      return none
    | none => complaint ("invalid signal number or name: ".toList ++ word)
  | ('-' :: c :: cs) :: targets =>
    match signal? (c :: cs) with
    | some n => sendSignal n targets
    | none => complaint ("Illegal option -".toList ++ [c])
  | targets => sendSignal 15 targets

/-! ## Flow -/

/-- Ends the script. -/
def exitShell (args : List (List Char)) : Act Unit := do
  match args with
  | [] => modify fun s => { s with flow := .exits }
  | a :: _ =>
    match natural? a with
    | some n => modify fun s => { s with status := n % 256, flow := .exits }
    | none => notNumber "exit" a

/-- Ends a function. -/
def returnShell (args : List (List Char)) : Act Unit := do
  match args with
  | [] => modify fun s => { s with flow := .returns }
  | a :: _ =>
    match natural? a with
    | some n => modify fun s => { s with status := n % 256, flow := .returns }
    | none => notNumber "return" a

/-- Leaves loops, or goes on with their next rounds. -/
def leaveLoops (name : String) (flow : Nat → Flow) (args : List (List Char)) : Act Unit := do
  setStatus 0
  let leave (n : Nat) : Act Unit := do
    let loops := (← get).loops
    unless loops = 0 do modify fun s => { s with flow := flow (min n loops) }
  match args with
  | [] => leave 1
  | a :: _ =>
    match natural? a with
    | some (n + 1) => leave (n + 1)
    | _ => notNumber name a

/-- Drops the first parameters. -/
def shift (args : List (List Char)) : Act Unit := do
  let count? := match args with
    | [] => some 1
    | a :: _ => natural? a
  match count? with
  | none => notNumber "shift" (args.headD [])
  | some n =>
    if (← get).params.length < n then abort "shift: can't shift that many".toList
    else modify fun s => { s with params := s.params.drop n, status := 0 }

/-! ## Variables -/

/-- Cuts a word at its first equals sign. -/
def atEquals (s : List Char) : List Char × Option (List Char) :=
  match s.dropWhile (· != '=') with
  | _ :: value => (s.takeWhile (· != '='), some value)
  | [] => (s, none)

/-- Exports variables. -/
def exportVariables (args : List (List Char)) : Act Unit := do
  for a in args do
    match atEquals a with
    | (name, some value) => setVariable name value true
    | (name, none) =>
      match ← valueOf? name with
      | some value => setVariable name value true
      | none => pure ()
  setStatus 0

/-- Sets variables of a function; they are not put back. -/
def setLocally (args : List (List Char)) : Act Unit := do
  for a in args do
    match atEquals a with
    | (name, some value) => setVariable name value false
    | (_, none) => pure ()
  setStatus 0

/-- Forgets variables or functions. -/
def unset (args : List (List Char)) : Act Unit := do
  match args with
  | ['-', 'f'] :: names =>
    modify fun s => { s with functions := s.functions.filter fun f => !names.contains f.1 }
  | ['-', 'v'] :: names => names.forM unsetVariable
  | names => names.forM unsetVariable
  setStatus 0

/-- Sets options by their letters. -/
def setOptions (on : Bool) (cs : List Char) : Act Unit := do
  for c in cs do
    match c with
    | 'e' => modify fun s => { s with errexit := on }
    | 'u' => modify fun s => { s with nounset := on }
    | _ => pure ()

/-- The letters of options with names. -/
def optionLetter (name : List Char) : List Char :=
  if name = "errexit".toList then ['e'] else if name = "nounset".toList then ['u'] else []

/-- The letters that stand for options. -/
def optionLetters : List Char :=
  ['a', 'b', 'C', 'e', 'E', 'f', 'h', 'I', 'i', 'l', 'm', 'n', 'q', 's', 'u', 'v', 'V', 'x']

/-- Reads options up to the first word that is none. The answer is what is left, with whether there
was a mark for the end of options; an unknown letter is an error. -/
def readOptions : List (List Char) → Act (Except Char (Bool × List (List Char)))
  | ['-', '-'] :: rest => return .ok (true, rest)
  | ['-', 'o'] :: name :: rest => do
    setOptions true (optionLetter name)
    readOptions rest
  | ['+', 'o'] :: name :: rest => do
    setOptions false (optionLetter name)
    readOptions rest
  | ('-' :: c :: cs) :: rest => do
    match (c :: cs).find? fun d => !optionLetters.contains d with
    | some d => return .error d
    | none =>
      setOptions true (c :: cs)
      readOptions rest
  | ('+' :: c :: cs) :: rest => do
    setOptions false (c :: cs)
    readOptions rest
  | rest => return .ok (false, rest)

/-- Sets options and parameters. -/
def setShell (args : List (List Char)) : Act Unit := do
  match ← readOptions args with
  | .error c => abort ("set: Illegal option -".toList ++ [c])
  | .ok (marked, rest) =>
    if marked || !rest.isEmpty then modify fun s => { s with params := rest }
    setStatus 0

/-- Reads a line; a backslash keeps the next character, unless `raw`. The answer is the line, and
what follows it if the line has ended. -/
def inputLine (raw : Bool) : List Char → List Char → List Char × Option (List Char)
  | acc, [] => (acc.reverse, none)
  | acc, '\n' :: rest => (acc.reverse, some rest)
  | acc, '\\' :: c :: rest =>
    if raw then inputLine raw ('\\' :: acc) (c :: rest)
    else if c = '\n' then inputLine raw acc rest
    else inputLine raw (c :: acc) rest
  | acc, c :: rest => inputLine raw (c :: acc) rest

/-- Gives the fields of a line to names; the last name takes the rest. -/
def assignFields (blank : Char → Bool) : List (List Char) → List Char → Act Unit
  | [], _ => return
  | [name], line => setVariable name (line.reverse.dropWhile blank).reverse false
  | name :: more, line => do
    setVariable name (line.takeWhile fun c => !blank c) false
    assignFields blank more ((line.dropWhile fun c => !blank c).dropWhile blank)

/-- Reads a line into variables. -/
def readLine (args : List (List Char)) : Act Unit := do
  let (raw, names) := match args with
    | ['-', 'r'] :: names => (true, names)
    | names => (false, names)
  if names.isEmpty then abort "read: arg count".toList
  else
    let separators ← separators
    let blank (c : Char) : Bool := separators.contains c
    let (line, rest) := inputLine raw [] (← unread 0)
    setUnread 0 (rest.getD [])
    assignFields blank names (line.dropWhile blank)
    setStatus (if rest.isSome then 0 else 1)

/-- Sets what to do at the end or on signals. -/
def trap (args : List (List Char)) : Act Unit := do
  let (text, signals) := match args with
    | ['-', '-'] :: more => (more.headD [], more.drop 1)
    | [one] => (['-'], [one])
    | text :: signals => (text, signals)
    | [] => ([], [])
  setStatus 0
  for word in signals do
    match signal? word with
    | none =>
      write 2 ("trap: ".toList ++ word ++ ": bad trap\n".toList)
      setStatus 1
    | some n =>
      modify fun s =>
        let others := s.traps.filter fun t => t.1 != n
        { s with traps := if text = ['-'] then others else (n, text) :: others }

/-! ## Directories -/

/-- Goes to a directory. -/
def changeDirectory (args : List (List Char)) : Act Unit := do
  let home := (← valueOf? "HOME".toList).getD []
  let (target, tells) ← match args.filter fun a => a != ['-', 'P'] && a != ['-', 'L'] with
    | [] => pure (home, false)
    | ['-'] :: _ => do pure ((← valueOf? "OLDPWD".toList).getD [], true)
    | path :: _ => pure (path, false)
  let s ← get
  match s.world.files.lookup s.cwd (bytesOf target) with
  | .ok (place, .directory) =>
    setVariable "OLDPWD".toList (lettersOf (Place.text s.cwd)) false
    modify fun s => { s with cwd := place, status := 0 }
    setVariable "PWD".toList (lettersOf (Place.text place)) false
    if tells then write 1 (lettersOf (Place.text place) ++ ['\n'])
  | _ =>
    if target.isEmpty then setStatus 0
    else failing "cd" 2 ("can't cd to ".toList ++ target)

/-- Finds out about a condition. -/
def testShell (name : String) (words : List (List Char)) : Act Unit := do
  let s ← get
  match condition s.world.files s.cwd words with
  | .ok v => setStatus (if v then 0 else 1)
  | .error e => failing name 2 e.message

/-- Writes its arguments in a format. -/
def printfShell (args : List (List Char)) : Act Unit := do
  match args with
  | [] => failing "printf" 2 "usage: printf format [arg ...]".toList
  | ['-', '-'] :: format :: rest => formatTo format rest
  | ('-' :: c :: _) :: _ =>
    failing "printf" 2 ("Illegal option -".toList ++ [c])
  | format :: rest => formatTo format rest
where
  /-- Writes arguments in a format. -/
  formatTo (format : List Char) (rest : List (List Char)) : Act Unit := do
    let (out, complaints, status) := Format.formatted Format.shellWording format rest
    write 1 out
    for c in complaints do failing "printf" status c
    setStatus status

/-- Waits for what runs in the background. -/
def waitShell : Act Unit := do
  let w := (← get).world
  pass (some (w.backgroundEnd - w.clock))
  setStatus 0

/-- The command of a name that needs nothing but the state of the shell. -/
def builtin? (name : List Char) : Option (List (List Char) → Act Unit) :=
  match String.ofList name with
  | ":" => some fun _ => setStatus 0
  | "true" => some fun _ => setStatus 0
  | "false" => some fun _ => setStatus 1
  | "echo" => some fun args => do
      if (← channel? 1).isNone then failing "echo" 1 "echo: I/O error".toList
      else
        write 1 (Format.echo args)
        setStatus 0
  | "printf" => some printfShell
  | "exit" => some exitShell
  | "return" => some returnShell
  | "break" => some (leaveLoops "break" .breaks)
  | "continue" => some (leaveLoops "continue" .continues)
  | "shift" => some shift
  | "export" => some exportVariables
  | "readonly" => some setLocally
  | "local" => some setLocally
  | "unset" => some unset
  | "set" => some setShell
  | "read" => some readLine
  | "trap" => some trap
  | "cd" => some changeDirectory
  | "pwd" => some fun _ => do
      write 1 (lettersOf (Place.text (← get).cwd) ++ ['\n'])
      setStatus 0
  | "test" => some (testShell "test")
  | "[" => some fun args =>
      if args.getLast? == some [']'] then testShell "[" args.dropLast
      else failing "[" 2 "missing ]".toList
  | "wait" => some fun _ => waitShell
  | "jobs" => some fun _ => setStatus 0
  | "hash" => some fun _ => setStatus 0
  | _ => none

/-- The commands whose misuse ends a script. -/
def endsScript (name : List Char) : Bool :=
  [":", "exit", "return", "break", "continue", "shift", "export", "readonly", "unset", "set",
   "trap", "eval", "exec"].any fun s => s.toList == name

end LineLint.Host.Shell
