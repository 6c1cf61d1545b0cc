import LineLint.Text.Blank
import LineLint.Text.Lines

/-!
# Reports of the line checker

The checker prints one line for each problem, `<path>:<line>: <message>`, and may print anything
else in between. A path has no blank in it, so the first blank of a line is the space before the
message, and what stands before it can be taken apart from its end.

* `Problem` — a line, counted from zero, and what is wrong with it.
* `Problem.parse?` — one line of a report.
* `problems` — the problems of a whole report, up to a cap.
-/

namespace LineLint

/-- A problem that the checker reported: a `Problem`. Lines count from zero. -/
structure Problem where
  line : UInt32
  message : String
  deriving DecidableEq, Repr

namespace Report

/-- The number that decimal digits write. -/
def decimal (digits : List Char) : Nat :=
  digits.foldl (fun n c => n * 10 + (c.toNat - 48)) 0

/-- Takes `<path>:<digits>:` apart, given back to front, and answers the digits. The path may hold
colons and digits itself, but not be empty. Forwards this is `^(\S+):([0-9]+):`, which gives the
path as much as it can. -/
def lineDigits? (reversed : List Char) : Option (List Char) :=
  match reversed with
  | ':' :: back =>
    let digits := back.takeWhile Char.isDigit
    match back.dropWhile Char.isDigit with
    | ':' :: path => if digits.isEmpty || path.isEmpty then none else some digits.reverse
    | _ => none
  | _ => none

end Report

/-- Reads one line of a report: `parse_line`, the pattern `^(\S+):([0-9]+): (.*)$`. A line number
has to fit in 32 bits and not be zero. -/
def Problem.parse? (line : List Char) : Option Problem :=
  match line.dropWhile (fun c => !Text.isBlank c) with
  | ' ' :: message =>
    match Report.lineDigits? (line.takeWhile fun c => !Text.isBlank c).reverse with
    | some digits =>
      let n := Report.decimal digits
      if 1 ≤ n ∧ n < Nat.pow 2 32 then some ⟨UInt32.ofNat (n - 1), String.ofList message⟩ else none
    | none => none
  | _ => none

/-- The problems of a report in order, at most `cap` of them: `parse_output`. Other lines are passed
over and do not count. -/
def problems (report : List Char) (cap : Nat) : List Problem :=
  ((Text.lines report).filterMap Problem.parse?).take cap

end LineLint
