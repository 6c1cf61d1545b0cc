import LineLint.Options.Basic

/-!
# Help

The texts that explain the command line.

* `HelpTopic.text` — the help on a topic.
* `versionText` — the answer to a question for the version.
-/

namespace LineLint

/-- The help of the program. -/
def programHelp : List String :=
  ["Language server for the lll line length linter",
   "",
   "Usage: lll-lsp [OPTIONS] [COMMAND]",
   "",
   "Commands:",
   "  tasks         Print the lint task of each workspace folder as JSON",
   "  resolve-task  Resolve a task from the editor's task configuration and print it as JSON",
   "  help          Print this message or the help of the given subcommand(s)",
   "",
   "Options:",
   "      --checker <CHECKER>            Checker executable [default: lll]",
   "      --checker-arg <CHECKER_ARGS>   Argument placed before `-l <length> <file>`; repeatable",
   "      --timeout-secs <TIMEOUT_SECS>  Seconds before a checker run is abandoned [default: 30]",
   "  -h, --help                         Print help",
   "  -V, --version                      Print version"]

/-- The help of `tasks`. -/
def tasksHelp : List String :=
  ["Print the lint task of each workspace folder as JSON",
   "",
   "Usage: lll-lsp tasks [OPTIONS] [FOLDERS]...",
   "",
   "Arguments:",
   "  [FOLDERS]...  Workspace folders, defaults to the current directory",
   "",
   "Options:",
   "      --run   Run the tasks instead of printing them",
   "  -h, --help  Print help"]

/-- The help of `resolve-task`. -/
def resolveTaskHelp : List String :=
  ["Resolve a task from the editor's task configuration and print it as JSON",
   "",
   "Usage: lll-lsp resolve-task [OPTIONS] <TASK>",
   "",
   "Arguments:",
   "  <TASK>  Task entry as JSON, e.g. '\x7b\"type\":\"lll\"\x7d'; `-` reads it from stdin",
   "",
   "Options:",
   "      --folder <FOLDER>  Workspace folder the task runs in, defaults to the current directory",
   "      --run              Run the resolved task instead of printing it",
   "  -h, --help             Print help"]

/-- The help of `help`. -/
def helpHelp : List String :=
  ["Print this message or the help of the given subcommand(s)",
   "",
   "Usage: lll-lsp help [COMMAND]...",
   "",
   "Arguments:",
   "  [COMMAND]...  Print help for the subcommand(s)"]

/-- Lines, each with its line feed. -/
def endedLines (lines : List String) : String :=
  String.join (lines.map (· ++ "\n"))

/-- The help on a topic. -/
def HelpTopic.text : HelpTopic → String
  | program => endedLines programHelp
  | tasks => endedLines tasksHelp
  | resolveTask => endedLines resolveTaskHelp
  | help => endedLines helpHelp

/-- The version of this server. -/
def version : String := "0.1.0"

/-- The name of this server. -/
def serverName : String := "lll-lsp"

/-- The answer to a question for the version. -/
def versionText : String := serverName ++ " " ++ version ++ "\n"

end LineLint
