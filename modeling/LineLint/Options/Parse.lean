import LineLint.Options.Scan

/-!
# Reading the command line

The options of the program and of its two subcommands, and the command line that arguments give.

* `programGrammar`, `tasksGrammar`, `resolveGrammar` — what each accepts.
* `Options.parse` — the command line of a list of arguments.
-/

namespace LineLint

namespace Options

/-- The text of a value, if it is one. -/
def text? (value : Bytes) : Option String := (Text.decode? value).map String.ofList

/-- A text without the plus sign that may stand before it. -/
def withoutPlus : List Char → List Char
  | '+' :: rest => rest
  | cs => cs

/-- The value of a decimal number that fits in 64 bits; a plus sign may stand before it. -/
def number? (s : String) : Option Nat :=
  let digits := withoutPlus s.toList
  if digits.isEmpty || !digits.all Char.isDigit then none
  else
    let n := Nat.ofDigitChars 10 digits 0
    if n < Nat.pow 2 64 then some n else none

/-- A value has to be text. -/
def checkText (value : Bytes) : Option UsageError :=
  if (text? value).isSome then none else some .invalidUtf8

/-- A value has to be a number of 64 bits. -/
def checkNumber (value : Bytes) : Option UsageError :=
  match text? value with
  | none => some .invalidUtf8
  | some s => if (number? s).isSome then none else some .valueValidation

/-- A path must not be empty. -/
def checkPath (value : Bytes) : Option UsageError :=
  if value = [] then some .invalidValue else none

/-- The checker executable. -/
def checkerSpec : OptionSpec := { name := "checker", arity := .once, check := checkText }

/-- An argument for the checker; any text may follow. -/
def checkerArgSpec : OptionSpec :=
  { name := "checker-arg", arity := .repeated, takesHyphens := true, check := checkText }

/-- The time after which a run is given up. -/
def timeoutSpec : OptionSpec := { name := "timeout-secs", arity := .once, check := checkNumber }

/-- Accepted for editors that always give it. -/
def stdioSpec : OptionSpec := { name := "stdio", arity := .flag }

/-- Whether tasks are run instead of printed. -/
def runSpec : OptionSpec := { name := "run", arity := .flag }

/-- The folder of a resolved task. -/
def folderSpec : OptionSpec := { name := "folder", arity := .once, check := checkPath }

/-- What the program accepts before a subcommand. -/
def programGrammar : Grammar :=
  { topic := .program
    options := [checkerSpec, checkerArgSpec, timeoutSpec, stdioSpec]
    positional := none
    subcommands := ["tasks", "resolve-task", "help"]
    hasVersion := true }

/-- What `tasks` accepts. -/
def tasksGrammar : Grammar :=
  { topic := .tasks
    options := [runSpec]
    positional := some { name := "folders", many := true, required := false, check := checkPath }
    subcommands := []
    hasVersion := false }

/-- What `resolve-task` accepts. -/
def resolveGrammar : Grammar :=
  { topic := .resolveTask
    options := [folderSpec, runSpec]
    positional := some { name := "task", many := false, required := true, check := checkText }
    subcommands := []
    hasVersion := false }

/-- The subcommands that have a help of their own. -/
def helpTopics : List (String × HelpTopic) :=
  [("tasks", .tasks), ("resolve-task", .resolveTask), ("help", .help)]

/-- What `help` with further arguments leads to. Only the program has subcommands to name. -/
def helpOn : List Bytes → UsageError
  | [] => .displayHelp .program
  | [arg] =>
    match helpTopics.find? fun topic => textBytes topic.1 == arg with
    | some topic => .displayHelp topic.2
    | none => .invalidSubcommand
  | _ => .invalidSubcommand

/-- Reads the arguments of a subcommand. -/
def subcommand (name : String) (args : List Bytes) : Except UsageError Command :=
  if name = "tasks" then do
    let stop ← tasksGrammar.scan .start args
    let s ← tasksGrammar.finish stop.scan
    return .tasks (s.values "folders") (!(s.values "run").isEmpty)
  else if name = "resolve-task" then do
    let stop ← resolveGrammar.scan .start args
    let s ← resolveGrammar.finish stop.scan
    return .resolveTask (((s.values "task").head?.bind text?).getD "") (s.values "folder").head?
      (!(s.values "run").isEmpty)
  else .error (helpOn args)

/-- The options that a finished scan of the program's own arguments gives to a command. -/
def ofScan (s : Scan) (command : Command) : Options :=
  { checker := ((s.values "checker").head?.bind text?).getD "lll"
    checkerArgs := (s.values "checker-arg").filterMap text?
    timeoutSecs := (((s.values "timeout-secs").head?.bind text?).bind number?).getD 30
    stdio := !(s.values "stdio").isEmpty
    command }

/-- The command line that a list of arguments gives. A subcommand and its arguments are read before
the last option in front of it is settled. -/
def parse (args : List Bytes) : Except UsageError Options := do
  let stop ← programGrammar.scan .start args
  let command ←
    match stop.subcommand with
    | none => pure .serve
    | some (name, rest) => subcommand name rest
  let s ← programGrammar.finish stop.scan
  return ofScan s command

end Options

end LineLint
