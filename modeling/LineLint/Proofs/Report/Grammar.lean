import LineLint.Report
import Mathlib.Data.List.TakeWhile

/-!
# The lines of a report

A line that reports a problem is a path without blanks, a colon, the digits of a line number, a
colon, a space and a message. The path may hold colons and digits, and so may the message; the line
can be taken apart in one way all the same, since the space before the message is its first blank
and the digits reach back to the colon before them.

* `lineOf` — a line put together from its parts.
* `Composed` — a line with the parts that it is made up of.

Results:

* `lineDigits?_eq_some_iff`: what stands before the first blank, exactly.
* `Composed.unique`: a line has at most one set of parts.
* `parse?_eq_some_iff`: a line is read just if it has parts with a number in range.
* `lines_by_grammar`: all of this, and what becomes of a line that is written from its parts.
-/

namespace LineLint.Report

open Text (isBlank)

variable {line path path' digits digits' message message' reversed : List Char}

/-- A line of a report, put together from its parts. -/
def lineOf (path digits message : List Char) : List Char :=
  path ++ ':' :: (digits ++ ':' :: ' ' :: message)

/-- A line with the parts that it is made up of. -/
structure Composed (line path digits message : List Char) : Prop where
  path_ne : path ≠ []
  path_solid : ∀ c ∈ path, isBlank c = false
  digits_ne : digits ≠ []
  digits_decimal : ∀ c ∈ digits, c.isDigit = true
  message_flat : '\n' ∉ message
  line_eq : line = lineOf path digits message

/-- Whether a path has a blank can be computed. -/
theorem solid_of_all (h : (path.all fun c => !isBlank c) = true) :
    ∀ c ∈ path, isBlank c = false := by
  simpa using h

/-! ## Digits -/

theorem isBlank_of_isDigit {c : Char} (h : c.isDigit = true) : isBlank c = false := by
  simp only [Char.isDigit, Bool.and_eq_true, decide_eq_true_eq] at h
  obtain ⟨hlow, hhigh⟩ := h
  have hlow : 48 ≤ c.toNat := hlow
  have hhigh : c.toNat ≤ 57 := hhigh
  simp only [isBlank, Text.Range.covers, Text.blankRanges, List.any_cons, List.any_nil,
    Bool.or_eq_false_iff, Bool.and_eq_false_iff, decide_eq_false_iff_not, and_true]
  omega

/-- Digits are read as the standard library reads them. -/
theorem decimal_eq (digits : List Char) : decimal digits = Nat.ofDigitChars 10 digits 0 := by
  unfold decimal Nat.ofDigitChars
  simp only [Nat.mul_comm]
  rfl

/-! ## What stands before the first blank -/

/-- A path and a number, with the colons that end them. -/
def location (path digits : List Char) : List Char := path ++ ':' :: (digits ++ [':'])

theorem lineOf_eq (path digits message : List Char) :
    lineOf path digits message = location path digits ++ ' ' :: message := by
  simp [lineOf, location]

theorem reverse_location (path digits : List Char) :
    (location path digits).reverse = ':' :: (digits.reverse ++ ':' :: path.reverse) := by
  simp [location]

/-- The digits of a location are found from its end, whatever its path is. -/
theorem lineDigits?_reverse_location (hpath : path ≠ []) (hdigits : digits ≠ [])
    (hdecimal : ∀ c ∈ digits, c.isDigit = true) :
    lineDigits? (location path digits).reverse = some digits := by
  have hback : ∀ c ∈ digits.reverse, c.isDigit = true :=
    fun c hc => hdecimal c (List.mem_reverse.mp hc)
  rw [reverse_location]
  simp only [lineDigits?]
  rw [List.takeWhile_append_of_pos hback, List.dropWhile_append_of_pos hback]
  simp [hpath, hdigits, Char.isDigit]

theorem lineDigits?_eq_some_iff : lineDigits? reversed = some digits ↔
    digits ≠ [] ∧ (∀ c ∈ digits, c.isDigit = true) ∧
      ∃ path, path ≠ [] ∧ reversed = (location path digits).reverse := by
  constructor
  · intro h
    unfold lineDigits? at h
    split at h
    · rename_i back
      split at h
      · rename_i path hpath
        dsimp only at h
        split_ifs at h with hempty
        cases h
        simp only [Bool.or_eq_true, List.isEmpty_iff, not_or] at hempty
        refine ⟨by simpa using hempty.1, ?_, path.reverse, by simpa using hempty.2, ?_⟩
        · intro c hc
          exact List.mem_takeWhile_imp (List.mem_reverse.mp hc)
        · have hback := List.takeWhile_append_dropWhile (p := Char.isDigit) (l := back)
          rw [hpath] at hback
          rw [reverse_location, List.reverse_reverse, List.reverse_reverse, hback]
      · cases h
    · cases h
  · rintro ⟨hdigits, hdecimal, path, hpath, rfl⟩
    exact lineDigits?_reverse_location hpath hdigits hdecimal

/-! ## The parts of a line -/

namespace Composed

/-- A location holds no blank. -/
theorem location_solid (h : Composed line path digits message) :
    ∀ c ∈ location path digits, isBlank c = false := by
  intro c hc
  simp only [location, List.mem_append, List.mem_cons, List.not_mem_nil, or_false] at hc
  rcases hc with hc | rfl | hc | rfl
  · exact h.path_solid c hc
  · decide
  · exact isBlank_of_isDigit (h.digits_decimal c hc)
  · decide

theorem before_blank (h : Composed line path digits message) :
    line.takeWhile (fun c => !isBlank c) = location path digits := by
  have hsolid : ∀ c ∈ location path digits, (!isBlank c) = true :=
    fun c hc => by rw [h.location_solid c hc]; rfl
  rw [h.line_eq, lineOf_eq, List.takeWhile_append_of_pos hsolid,
    List.takeWhile_cons_of_neg (by decide), List.append_nil]

theorem from_blank (h : Composed line path digits message) :
    line.dropWhile (fun c => !isBlank c) = ' ' :: message := by
  have hsolid : ∀ c ∈ location path digits, (!isBlank c) = true :=
    fun c hc => by rw [h.location_solid c hc]; rfl
  rw [h.line_eq, lineOf_eq, List.dropWhile_append_of_pos hsolid,
    List.dropWhile_cons_of_neg (by decide)]

theorem lineDigits?_eq (h : Composed line path digits message) :
    lineDigits? (line.takeWhile fun c => !isBlank c).reverse = some digits := by
  rw [h.before_blank]
  exact lineDigits?_reverse_location h.path_ne h.digits_ne h.digits_decimal

/-- A line has at most one set of parts. -/
theorem unique (h : Composed line path digits message)
    (h' : Composed line path' digits' message') :
    path = path' ∧ digits = digits' ∧ message = message' := by
  have hdigits : digits = digits' := Option.some.inj (h.lineDigits?_eq.symm.trans h'.lineDigits?_eq)
  have hlocation : location path digits = location path' digits' :=
    h.before_blank.symm.trans h'.before_blank
  have hmessage : ' ' :: message = ' ' :: message' := h.from_blank.symm.trans h'.from_blank
  subst hdigits
  exact ⟨List.append_cancel_right hlocation, rfl, List.tail_eq_of_cons_eq hmessage⟩

end Composed

/-- The parts of a line that is taken apart at its first blank. -/
theorem composed_of_lineDigits? (hline : '\n' ∉ line)
    (hmessage : line.dropWhile (fun c => !isBlank c) = ' ' :: message)
    (hdigits : lineDigits? (line.takeWhile fun c => !isBlank c).reverse = some digits) :
    ∃ path, Composed line path digits message := by
  obtain ⟨hne, hdecimal, path, hpath, hreverse⟩ := lineDigits?_eq_some_iff.mp hdigits
  have hlocation : line.takeWhile (fun c => !isBlank c) = location path digits :=
    List.reverse_inj.mp hreverse
  have hline_eq : line = lineOf path digits message := by
    rw [lineOf_eq, ← hlocation, ← hmessage, List.takeWhile_append_dropWhile]
  refine ⟨path, hpath, ?_, hne, hdecimal, ?_, hline_eq⟩
  · intro c hc
    have hmem : c ∈ line.takeWhile fun c => !isBlank c := by
      rw [hlocation]
      exact List.mem_append_left _ hc
    simpa using List.mem_takeWhile_imp hmem
  · intro hmem
    apply hline
    rw [hline_eq, lineOf_eq]
    exact List.mem_append_right _ (List.mem_cons_of_mem _ hmem)

/-- A line with parts is read by its digits. -/
theorem Composed.parse?_eq (h : Composed line path digits message) :
    Problem.parse? line =
      if 1 ≤ decimal digits ∧ decimal digits < Nat.pow 2 32 then
        some ⟨UInt32.ofNat (decimal digits - 1), String.ofList message⟩
      else none := by
  unfold Problem.parse?
  rw [h.from_blank, h.lineDigits?_eq]
  rfl

/-! ## Lines that are read -/

/-- Lines count from zero, one less than what is written. -/
theorem toNat_line {n : ℕ} (hpos : 1 ≤ n) (hlt : n < Nat.pow 2 32) :
    (UInt32.ofNat (n - 1)).toNat + 1 = n := by
  have hsize : n - 1 < UInt32.size := lt_of_le_of_lt (Nat.sub_le n 1) hlt
  rw [UInt32.toNat_ofNat_of_lt' hsize]
  omega

/-- What there is to a line that is read: a message after its first blank, digits before it and a
number in range. -/
theorem parse?_cases {p : Problem} (h : Problem.parse? line = some p) :
    ∃ digits message, line.dropWhile (fun c => !isBlank c) = ' ' :: message ∧
      lineDigits? (line.takeWhile fun c => !isBlank c).reverse = some digits ∧
      (1 ≤ decimal digits ∧ decimal digits < Nat.pow 2 32) ∧
      p = ⟨UInt32.ofNat (decimal digits - 1), String.ofList message⟩ := by
  unfold Problem.parse? at h
  split at h
  · rename_i message hmessage
    split at h
    · rename_i digits hdigits
      dsimp only at h
      split_ifs at h with hn
      exact ⟨digits, message, hmessage, hdigits, hn, (Option.some.inj h).symm⟩
    · cases h
  · cases h

/-- A line is read just if it has parts with a number in range. -/
theorem parse?_eq_some_iff (hline : '\n' ∉ line) {k : UInt32} {text : String} :
    Problem.parse? line = some ⟨k, text⟩ ↔
      ∃ path digits, Composed line path digits text.toList ∧
        Nat.ofDigitChars 10 digits 0 = k.toNat + 1 ∧ k.toNat + 1 ≤ Nat.pow 2 32 - 1 := by
  constructor
  · intro h
    obtain ⟨digits, message, hmessage, hdigits, hn, hp⟩ := parse?_cases h
    cases hp
    obtain ⟨path, hparts⟩ := composed_of_lineDigits? hline hmessage hdigits
    have hnumber := toNat_line hn.1 hn.2
    refine ⟨path, digits, by rwa [String.toList_ofList], ?_, ?_⟩
    · rw [hnumber, decimal_eq]
    · rw [hnumber]
      exact Nat.le_pred_of_lt hn.2
  · rintro ⟨path, digits, hparts, hnumber, hle⟩
    have hlt : k.toNat + 1 < Nat.pow 2 32 := lt_of_le_of_lt hle (by decide)
    rw [hparts.parse?_eq, decimal_eq, hnumber, if_pos ⟨Nat.le_add_left 1 _, hlt⟩,
      Nat.add_sub_cancel, UInt32.ofNat_toNat, String.ofList_toList]

/-- What is read as the message starts after the first blank. -/
theorem before_message {k : UInt32} (h : Problem.parse? line = some ⟨k, String.ofList message⟩) :
    line = line.takeWhile (fun c => !isBlank c) ++ ' ' :: message := by
  obtain ⟨digits, found, hfound, -, -, hp⟩ := parse?_cases h
  have hmessage : message = found := String.ofList_inj.mp (congrArg Problem.message hp)
  rw [hmessage, ← hfound, List.takeWhile_append_dropWhile]

/-! ## Lines that are written -/

/-- A number in decimal, with zeros in front of it. -/
def numeral (zeros n : ℕ) : List Char := List.replicate zeros '0' ++ Nat.toDigits 10 n

theorem numeral_ne_nil (zeros n : ℕ) : numeral zeros n ≠ [] :=
  List.append_ne_nil_of_right_ne_nil _ Nat.toDigits_ne_nil

theorem isDigit_of_mem_numeral {zeros n : ℕ} {c : Char} (h : c ∈ numeral zeros n) :
    c.isDigit = true := by
  rcases List.mem_append.mp h with h | h
  · rw [List.eq_of_mem_replicate h]
    rfl
  · exact Nat.isDigit_of_mem_toDigits (by decide) (by decide) h

theorem ofDigitChars_numeral (zeros n : ℕ) : Nat.ofDigitChars 10 (numeral zeros n) 0 = n := by
  rw [numeral, Nat.ofDigitChars_append, Nat.ofDigitChars_replicate_zero, Nat.mul_zero]
  exact Nat.ofDigitChars_ten_toDigits

/-- A line written from a path without blanks, a number and a message is read back. -/
theorem parse?_lineOf_numeral (zeros : ℕ) {n : ℕ} (hpath : path ≠ [])
    (hsolid : ∀ c ∈ path, isBlank c = false) (hpos : 1 ≤ n) (hle : n ≤ Nat.pow 2 32 - 1)
    (hmessage : '\n' ∉ message) :
    Problem.parse? (lineOf path (numeral zeros n) message) =
      some ⟨UInt32.ofNat (n - 1), String.ofList message⟩ := by
  have hparts : Composed (lineOf path (numeral zeros n) message) path (numeral zeros n) message :=
    ⟨hpath, hsolid, numeral_ne_nil zeros n, fun _ => isDigit_of_mem_numeral, hmessage, rfl⟩
  have hlt : n < Nat.pow 2 32 := lt_of_le_of_lt hle (by decide)
  rw [hparts.parse?_eq, decimal_eq, ofDigitChars_numeral, if_pos ⟨hpos, hlt⟩]

/-- A path with a blank is never read as the path of its line. -/
theorem parse?_lineOf_ne (hblank : ∃ c ∈ path, isBlank c = true) (k : UInt32) :
    Problem.parse? (lineOf path digits message) ≠ some ⟨k, String.ofList message⟩ := by
  intro h
  obtain ⟨c, hc, hblank⟩ := hblank
  have hline := before_message h
  rw [lineOf_eq] at hline
  have hlocation := List.append_cancel_right hline
  have hmem : c ∈ location path digits := List.mem_append_left _ hc
  rw [hlocation] at hmem
  have hsolid := List.mem_takeWhile_imp hmem
  rw [hblank] at hsolid
  cases hsolid

/-- Without line feeds in it, a line is read as a problem just if it is made up of a path, digits
and a message, with a number in range, and it is so in one way only. A line that is written from its
parts is read back if the path has no blank, also where path or message look like further parts, and
never if the path has one. -/
theorem lines_by_grammar :
    (∀ line : List Char, '\n' ∉ line →
      (∀ (k : UInt32) (text : String), Problem.parse? line = some ⟨k, text⟩ ↔
        ∃ path digits, Composed line path digits text.toList ∧
          Nat.ofDigitChars 10 digits 0 = k.toNat + 1 ∧ k.toNat + 1 ≤ Nat.pow 2 32 - 1) ∧
      ∀ path digits message path' digits' message', Composed line path digits message →
        Composed line path' digits' message' →
        path = path' ∧ digits = digits' ∧ message = message') ∧
    ∀ (path message : List Char) (n : ℕ), 1 ≤ n → n ≤ Nat.pow 2 32 - 1 → '\n' ∉ message →
      (path ≠ [] → (∀ c ∈ path, isBlank c = false) →
        Problem.parse? (lineOf path (Nat.toDigits 10 n) message) =
          some ⟨UInt32.ofNat (n - 1), String.ofList message⟩) ∧
      ((∃ c ∈ path, isBlank c = true) →
        Problem.parse? (lineOf path (Nat.toDigits 10 n) message) ≠
          some ⟨UInt32.ofNat (n - 1), String.ofList message⟩) := by
  refine ⟨fun line hline => ⟨fun k text => parse?_eq_some_iff hline, ?_⟩, ?_⟩
  · intro path digits message path' digits' message' h h'
    exact h.unique h'
  · intro path message n hpos hle hmessage
    constructor
    · intro hpath hsolid
      exact parse?_lineOf_numeral 0 hpath hsolid hpos hle hmessage
    · intro hblank
      exact parse?_lineOf_ne hblank _

/-- A path and a message with parts of their own. -/
def nested : List Char := "src:5:a.go:0012: see b.go:7: below".toList

theorem lines_by_grammar_nested :
    (∃ path digits, Composed nested path digits "see b.go:7: below".toList ∧
      Nat.ofDigitChars 10 digits 0 = 12) ∧
    Problem.parse? (lineOf "src:5:a.go".toList (Nat.toDigits 10 12) "see b.go:7: below".toList) =
      some ⟨11, "see b.go:7: below"⟩ ∧
    Problem.parse? (lineOf "my src/a.go".toList (Nat.toDigits 10 12) "long".toList) ≠
      some ⟨11, "long"⟩ := by
  have hflat : '\n' ∉ nested := by decide
  have hread : Problem.parse? nested = some ⟨11, "see b.go:7: below"⟩ := by decide
  obtain ⟨path, digits, hparts, hnumber, -⟩ :=
    ((lines_by_grammar.1 nested hflat).1 11 "see b.go:7: below").mp hread
  refine ⟨⟨path, digits, hparts, hnumber⟩, ?_, ?_⟩
  · exact (lines_by_grammar.2 "src:5:a.go".toList "see b.go:7: below".toList 12 (by decide)
      (by decide) (by decide)).1 (by decide) (solid_of_all (by decide))
  · exact (lines_by_grammar.2 "my src/a.go".toList "long".toList 12 (by decide) (by decide)
      (by decide)).2 ⟨' ', by decide, by decide⟩

end LineLint.Report
