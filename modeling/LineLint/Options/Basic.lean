import LineLint.DataDir

/-!
# What the command line asks for

An argument is a byte string. The paths of folders are taken as they come; all other values are
text.

* `Command` — serve an editor, list the tasks of folders, or resolve one task.
* `Options` — the command with the settings of the checker.
* `Options.arguments` — the arguments that ask for given options.
* `HelpTopic`, `UsageError` — why arguments lead to no command.
-/

namespace LineLint

/-- What to do. -/
inductive Command where
  /-- Serve an editor over standard input and output. -/
  | serve
  /-- Print or run the lint task of each folder. -/
  | tasks (folders : List Bytes) (run : Bool)
  /-- Print or run the task of a configuration entry. -/
  | resolveTask (task : String) (folder : Option Bytes) (run : Bool)
  deriving DecidableEq, Repr

/-- The command line: a command, and how the checker is run. -/
structure Options where
  checker : String
  checkerArgs : List String
  timeoutSecs : Nat
  stdio : Bool
  command : Command
  deriving DecidableEq, Repr

/-- A flag if it is set. -/
def flagArgument (name : String) (set : Bool) : List Bytes :=
  if set then [textBytes name] else []

/-- The arguments that ask for a command. What follows the mark `--` is taken as it is. -/
def Command.arguments : Command → List Bytes
  | serve => []
  | tasks folders run =>
    textBytes "tasks" :: flagArgument "--run" run ++ textBytes "--" :: folders
  | resolveTask task folder run =>
    textBytes "resolve-task" :: (folder.map fun f => textBytes "--folder=" ++ f).toList ++
      flagArgument "--run" run ++ [textBytes "--", textBytes task]

/-- The arguments that ask for just these options. -/
def Options.arguments (o : Options) : List Bytes :=
  [textBytes "--checker=" ++ textBytes o.checker] ++
    (o.checkerArgs.flatMap fun a => [textBytes "--checker-arg", textBytes a]) ++
    [textBytes "--timeout-secs=" ++ textBytes (toString o.timeoutSecs)] ++
    flagArgument "--stdio" o.stdio ++ o.command.arguments

/-- What help is asked for. -/
inductive HelpTopic where
  | program
  | tasks
  | resolveTask
  | help
  deriving DecidableEq, Repr

/-- Why the arguments lead to no command. Asking for help or the version is one of the reasons. -/
inductive UsageError where
  | unknownArgument
  | invalidSubcommand
  | invalidValue
  | invalidUtf8
  | valueValidation
  | argumentConflict
  | tooManyValues
  | missingRequiredArgument
  | displayHelp (topic : HelpTopic)
  | displayVersion
  deriving DecidableEq, Repr

/-- The wording of a usage error. -/
def UsageError.message : UsageError → String
  | unknownArgument => "error: unexpected argument found"
  | invalidSubcommand => "error: unrecognized subcommand"
  | invalidValue => "error: a value is required"
  | invalidUtf8 => "error: invalid UTF-8 was detected in one or more arguments"
  | valueValidation => "error: invalid value"
  | argumentConflict => "error: an argument cannot be used multiple times"
  | tooManyValues => "error: unexpected value"
  | missingRequiredArgument => "error: a required argument was not provided"
  | displayHelp _ => ""
  | displayVersion => ""

/-- The exit code: help and version are no failure. -/
def UsageError.code : UsageError → Nat
  | displayHelp _ => 0
  | displayVersion => 0
  | _ => 2

end LineLint
