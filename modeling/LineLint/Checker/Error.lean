import LineLint.Checker.Status
import LineLint.Checker.SystemError
import LineLint.DataDir

/-!
# Failures of the checker

* `Duration` — a span of time, and how it is written.
* `handedOver` — a string of a command as it is handed to the system.
* `StartFault` — why a program could not be started.
* `CheckerError` — why a checker run has no report, with its wording.
-/

namespace LineLint

/-- A span of time: whole seconds and nanoseconds below one second. -/
structure Duration where
  secs : Nat
  nanos : Nat
  deriving DecidableEq, Repr

namespace Duration

/-- The span of so many seconds and nanoseconds; the nanoseconds may make up more than a second. -/
def ofParts (secs nanos : Nat) : Duration := ⟨secs + nanos / Nat.pow 10 9, nanos % Nat.pow 10 9⟩

/-- The whole span in nanoseconds. -/
def toNanos (d : Duration) : Nat := d.secs * Nat.pow 10 9 + d.nanos

/-- A whole part and a fraction of so many decimal places, without trailing zeros. -/
def fixed (whole fraction places : Nat) : String :=
  let digits := Nat.toDigits 10 fraction
  let padded := List.replicate (places - digits.length) '0' ++ digits
  let trimmed := (padded.reverse.dropWhile (· == '0')).reverse
  let decimals := if fraction = 0 then [] else '.' :: trimmed
  String.ofList (Nat.toDigits 10 whole ++ decimals)

/-- A span in the largest unit of seconds, milliseconds, microseconds and nanoseconds of which it
holds at least one. -/
def text (d : Duration) : String :=
  if 0 < d.secs then fixed d.secs d.nanos 9 ++ "s"
  else if Nat.pow 10 6 ≤ d.nanos then
    fixed (d.nanos / Nat.pow 10 6) (d.nanos % Nat.pow 10 6) 6 ++ "ms"
  else if Nat.pow 10 3 ≤ d.nanos then
    fixed (d.nanos / Nat.pow 10 3) (d.nanos % Nat.pow 10 3) 3 ++ "µs"
  else fixed d.nanos 0 0 ++ "ns"

end Duration

/-- A program, argument or directory of a command, as the command keeps it for the system. A string
with a NUL byte cannot be handed over, and a mark stands for it; such a command is not started. -/
def handedOver (bytes : Bytes) : Bytes :=
  if bytes.contains 0 then textBytes "<string-with-nul>" else bytes

/-- Why a program could not be started. -/
inductive StartFault where
  /-- The system refused. -/
  | system (error : SystemError)
  /-- An argument holds a NUL byte. -/
  | nulByte
  /-- Anything else, in words. -/
  | other (text : String)
  deriving DecidableEq, Repr

/-- The wording of a start fault. -/
def StartFault.message : StartFault → String
  | system error => error.text
  | nulByte => "nul byte found in provided data"
  | other text => text

/-- Why a checker run has no report. -/
inductive CheckerError where
  /-- The program could not be started. -/
  | spawn (program : String) (fault : StartFault)
  /-- The program ended, but not with success. -/
  | exit (program : String) (status : WaitStatus) (stderr : String)
  /-- The program was given up after a time. -/
  | timeout (program : String) (limit : Duration)
  deriving DecidableEq, Repr

/-- The wording of a checker failure. -/
def CheckerError.message : CheckerError → String
  | spawn program fault => "Failed to run " ++ program ++ ": " ++ fault.message
  | exit program status stderr => program ++ " exited with " ++ status.text ++ ": " ++ stderr
  | timeout program limit => program ++ " did not finish within " ++ limit.text

end LineLint
