import LineLint.Checker.Error
import LineLint.Log
import LineLint.Text.Blank

/-!
# The checker

The external program that measures lines. It is started directly, and never through a shell: the
limit and the path are arguments of their own: `lll <leading arguments> -l <limit> <path>`.

* `Checker` — which program is run, with what arguments and how long.
* `Checker.arguments`, `Checker.argv` — the arguments of a run.
* `Started` — what comes of starting a program.
* `Checker.conclude` — the report of a run, or its failure.
* `Checker.run` — a run with the events it logs.
-/

namespace LineLint

/-- How the checker is run: an `LllChecker`. -/
structure Checker where
  program : String
  /-- What stands before the limit and the path. -/
  leading : List String
  limit : Duration
  deriving DecidableEq, Repr

/-- What comes of starting a program and waiting for it. -/
inductive Started where
  | refused (fault : StartFault)
  /-- It did not end in time. -/
  | unfinished
  | ended (status : WaitStatus) (stdout stderr : Bytes)
  deriving DecidableEq, Repr

namespace Checker

/-- The checker as it is usually installed: the program `lll`, for at most thirty seconds. -/
def standard : Checker := ⟨"lll", [], ⟨30, 0⟩⟩

/-- The arguments of a run, as `command` puts them together: the leading ones, the limit after its
option `-l`, and the path as it is. -/
def arguments (c : Checker) (maxLength : UInt32) (path : Bytes) : List Bytes :=
  c.leading.map textBytes ++ [textBytes "-l", textBytes (toString maxLength.toNat), path]

/-- The whole argument list of the command, with the program in front. -/
def argv (c : Checker) (maxLength : UInt32) (path : Bytes) : List Bytes :=
  (textBytes c.program :: c.arguments maxLength path).map handedOver

/-- The report of a run, or its failure: the end of `run`. Only a run that ends with success has a
report, and only the error output of one that does not is looked at. -/
def conclude (c : Checker) : Started → Except CheckerError String
  | .refused fault => .error (.spawn c.program fault)
  | .unfinished => .error (.timeout c.program c.limit)
  | .ended status stdout stderr =>
    if status.isSuccess then .ok (String.ofList (Text.decodeLossy stdout))
    else .error (.exit c.program status (String.ofList (Text.trim (Text.decodeLossy stderr))))

/-- What a run writes to the log. -/
def events (c : Checker) (maxLength : UInt32) (path : Bytes) (started : Started) : List Event :=
  .runningChecker c.program path maxLength ::
    match started with
    | .ended status stdout _ =>
      if status.isSuccess then [.checkerFinished c.program stdout.length] else []
    | _ => []

end Checker

end LineLint
