import LineLint.Checker.Basic
import LineLint.Proofs.Report.Grammar
import LineLint.Proofs.Text.Lines
import LineLint.Proofs.Text.Utf8

/-!
# Problems in the output of a checker

What a checker has printed is bytes, and need not be text. A line of it that is cut short in the
middle of a character or holds stray bytes is still a line: whatever stands in it, the lines before
and after are read as if they stood alone.

* `problemsIn` — the problems in what was printed, up to a cap.
* `Whole` — output that is not cut within a line.

Results:

* `problemsIn_append`: output is read part by part.
* `problemsIn_line`: a line tells of one problem at most.
* `problems_line_by_line`: the output of a run, read line by line.
-/

namespace LineLint.Report

variable {a b line : Bytes} {cap : ℕ}

/-- The problems in what a checker has printed, at most `cap` of them. -/
def problemsIn (output : Bytes) (cap : ℕ) : List Problem := problems (Text.decodeLossy output) cap

/-- Output that is not cut within a line. -/
def Whole (output : Bytes) : Prop := output = [] ∨ output.getLast? = some 0x0A

instance (output : Bytes) : Decidable (Whole output) := inferInstanceAs (Decidable (_ ∨ _))

/-! ## Lines of bytes -/

/-- The lines of output are those of its parts, if it is cut between lines. -/
theorem lines_decodeLossy_append (h : Whole a) (b : Bytes) :
    Text.lines (Text.decodeLossy (a ++ b)) =
      Text.lines (Text.decodeLossy a) ++ Text.lines (Text.decodeLossy b) := by
  rcases h with rfl | hlast
  · rfl
  · obtain ⟨front, rfl⟩ := List.getLast?_eq_some_iff.mp hlast
    obtain ⟨s, hs, -⟩ := Text.decodeLossy_lineFeed front
    rw [List.append_assoc, List.singleton_append, hs, hs, Text.lines_append_lineFeed]
    rfl

/-- Bytes without a line feed are one line with the line feed after them, whatever they are. -/
theorem lines_decodeLossy_line (h : 0x0A ∉ line) :
    ∃ text, Text.lines (Text.decodeLossy (line ++ [0x0A])) = [text] := by
  obtain ⟨s, hs, hflat⟩ := Text.decodeLossy_lineFeed line
  rw [hs]
  exact ⟨_, Text.lines_flat_lineFeed (hflat h)⟩

/-! ## Problems -/

/-- Output is read part by part, and what is left of the cap goes to the next part. -/
theorem problemsIn_append (h : Whole a) (b : Bytes) (cap : ℕ) :
    problemsIn (a ++ b) cap =
      problemsIn a cap ++ problemsIn b (cap - (problemsIn a cap).length) := by
  unfold problemsIn problems
  rw [lines_decodeLossy_append h, List.filterMap_append, List.take_append, List.length_take]
  congr 2
  omega

/-- A line tells of one problem at most, whatever bytes are in it. -/
theorem problemsIn_line (h : 0x0A ∉ line) :
    ∃ own : List Problem,
      own.length ≤ 1 ∧ ∀ cap, problemsIn (line ++ [0x0A]) cap = own.take cap := by
  obtain ⟨text, htext⟩ := lines_decodeLossy_line h
  refine ⟨(Text.lines (Text.decodeLossy (line ++ [0x0A]))).filterMap Problem.parse?, ?_,
    fun cap => rfl⟩
  rw [htext]
  exact List.length_filterMap_le Problem.parse? [text]

theorem conclude_eq_ok (c : Checker) {status : WaitStatus} (h : status.isSuccess = true)
    (stdout stderr : Bytes) :
    c.conclude (.ended status stdout stderr) = .ok (String.ofList (Text.decodeLossy stdout)) := by
  rw [Checker.conclude, if_pos h]

/-- What a run that ends well has printed is read line by line: after whole lines, reading goes on
as if what follows stood alone, with what they have left of the cap. Whatever bytes a line holds, it
tells of one problem at most and takes nothing from the lines around it. -/
theorem problems_line_by_line :
    (∀ (c : Checker) (status : WaitStatus) (stdout stderr : Bytes), status.isSuccess = true →
      ∃ text, c.conclude (.ended status stdout stderr) = .ok text ∧
        ∀ cap, problems text.toList cap = problemsIn stdout cap) ∧
    (∀ (a b : Bytes) (cap : ℕ), Whole a →
      problemsIn (a ++ b) cap =
        problemsIn a cap ++ problemsIn b (cap - (problemsIn a cap).length)) ∧
    ∀ line : Bytes, 0x0A ∉ line → ∃ own : List Problem, own.length ≤ 1 ∧
      ∀ (a b : Bytes) (cap : ℕ), Whole a →
        problemsIn (a ++ line ++ 0x0A :: b) cap =
          problemsIn a cap ++ own.take (cap - (problemsIn a cap).length) ++
            problemsIn b (cap - (problemsIn a cap).length - own.length) := by
  refine ⟨?_, ?_, ?_⟩
  · intro c status stdout stderr hstatus
    refine ⟨_, conclude_eq_ok c hstatus stdout stderr, fun cap => ?_⟩
    rw [String.toList_ofList]
    rfl
  · intro a b cap h
    exact problemsIn_append h b cap
  · intro line hline
    obtain ⟨own, hlength, hown⟩ := problemsIn_line hline
    refine ⟨own, hlength, fun a b cap h => ?_⟩
    have hwhole : Whole (line ++ [0x0A]) := Or.inr (List.getLast?_concat)
    have hleft : ∀ n, n - (own.take n).length = n - own.length := by
      intro n
      rw [List.length_take]
      omega
    have hsplit : a ++ line ++ 0x0A :: b = a ++ ((line ++ [0x0A]) ++ b) := by simp
    rw [hsplit, problemsIn_append h, problemsIn_append hwhole, hown, hleft, List.append_assoc]

/-- A line that is cut off within a character. -/
def severed : Bytes := textBytes "b:2: y" ++ [0xE2, 0x82]

theorem problems_line_by_line_severed :
    (∃ text, Checker.standard.conclude (.ended ⟨0⟩ (severed ++ [0x0A]) []) = .ok text ∧
      problems text.toList 5 = [⟨1, "y\uFFFD"⟩]) ∧
    problemsIn (severed ++ [0x0A] ++ textBytes "c:3: z\nd:4: w") 2 =
      [⟨1, "y\uFFFD"⟩, ⟨2, "z"⟩] ∧
    ∃ own : List Problem, own.length ≤ 1 ∧
      problemsIn (textBytes "a:1: x\n" ++ severed ++ 0x0A :: textBytes "c:3: z") 5 =
        [⟨0, "x"⟩] ++ own.take 4 ++ problemsIn (textBytes "c:3: z") (4 - own.length) := by
  refine ⟨?_, ?_, ?_⟩
  · obtain ⟨text, hrun, hread⟩ :=
      problems_line_by_line.1 Checker.standard ⟨0⟩ (severed ++ [0x0A]) [] (by decide)
    exact ⟨text, hrun, (hread 5).trans (by decide)⟩
  · exact (problems_line_by_line.2.1 _ (textBytes "c:3: z\nd:4: w") 2 (by decide)).trans (by decide)
  · obtain ⟨own, hlength, hread⟩ := problems_line_by_line.2.2 severed (by decide)
    have hbefore : problemsIn (textBytes "a:1: x\n") 5 = [⟨0, "x"⟩] := by decide
    have hlines := hread (textBytes "a:1: x\n") (textBytes "c:3: z") 5 (by decide)
    rw [hbefore] at hlines
    exact ⟨own, hlength, hlines⟩

end LineLint.Report
