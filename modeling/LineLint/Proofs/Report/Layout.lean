import LineLint.Proofs.Report.Grammar
import LineLint.Proofs.Text.Lines

/-!
# Reports that are written and read back

A report is a list of items, each on a line of its own. An item is an entry, which tells of a
problem, or anything else with too few colons to be one. Lines may end in a line feed or in a
carriage return and a line feed, as they come, and the last one may have no ending at all.

* `Entry`, `Item` — what can stand on a line.
* `Row` — an item with the ending of its line.
* `Layout` — a whole report, with its text and its entries.

Results:

* `count_colon_of_parse?`: a line that is read has at least two colons.
* `Row.lines_append`, `Row.parse?_line`: a row is one line, and is read as its item.
* `problems_of_layout`: reading a report gives its entries, up to the cap.
-/

namespace LineLint.Report

open Text (isBlank)

variable {line path digits message : List Char}

/-! ## Items -/

/-- What the checker prints for one problem. -/
structure Entry where
  path : List Char
  /-- How many zeros stand before the number. -/
  zeros : ℕ
  number : ℕ
  message : List Char
  path_ne : path ≠ []
  path_solid : ∀ c ∈ path, isBlank c = false
  number_pos : 1 ≤ number
  number_le : number ≤ Nat.pow 2 32 - 1
  message_flat : '\n' ∉ message

/-- The line of an entry. -/
def Entry.text (e : Entry) : List Char := lineOf e.path (numeral e.zeros e.number) e.message

/-- The problem that an entry tells of. -/
def Entry.problem (e : Entry) : Problem := ⟨UInt32.ofNat (e.number - 1), String.ofList e.message⟩

/-- What can stand on a line: an entry, or anything with fewer than two colons. -/
inductive Item where
  | entry (e : Entry)
  | noise (text : List Char) (flat : '\n' ∉ text) (colons : text.count ':' < 2)

/-- The line of an item. -/
def Item.text : Item → List Char
  | .entry e => e.text
  | .noise text _ _ => text

/-- The entry that an item is, if it is one. -/
def Item.entry? : Item → Option Entry
  | .entry e => some e
  | .noise _ _ _ => none

theorem lineFeed_notMem_lineOf (hsolid : ∀ c ∈ path, isBlank c = false)
    (hdecimal : ∀ c ∈ digits, c.isDigit = true) (hflat : '\n' ∉ message) :
    '\n' ∉ lineOf path digits message := by
  intro h
  simp only [lineOf, List.mem_append, List.mem_cons] at h
  rcases h with h | h | h | h | h | h
  · exact absurd (hsolid _ h) (by decide)
  · exact absurd h (by decide)
  · exact absurd (hdecimal _ h) (by decide)
  · exact absurd h (by decide)
  · exact absurd h (by decide)
  · exact hflat h

theorem Item.text_flat (i : Item) : '\n' ∉ i.text := by
  cases i with
  | entry e =>
    exact lineFeed_notMem_lineOf e.path_solid (fun _ => isDigit_of_mem_numeral) e.message_flat
  | noise text flat colons => exact flat

theorem Entry.parse?_text (e : Entry) : Problem.parse? e.text = some e.problem :=
  parse?_lineOf_numeral e.zeros e.path_ne e.path_solid e.number_pos e.number_le e.message_flat

/-! ## Lines with too few colons -/

/-- A line that is read has a colon before its number and one after it. -/
theorem count_colon_of_parse? {p : Problem} (h : Problem.parse? line = some p) :
    2 ≤ line.count ':' := by
  obtain ⟨digits, message, -, hdigits, -, -⟩ := parse?_cases h
  obtain ⟨-, -, path, -, hlocation⟩ := lineDigits?_eq_some_iff.mp hdigits
  calc 2 ≤ (location path digits).count ':' := by
        simp only [location, List.count_append, List.count_cons_self, List.count_nil]
        omega
    _ = (line.takeWhile fun c => !isBlank c).count ':' := by rw [List.reverse_inj.mp hlocation]
    _ ≤ line.count ':' := (List.takeWhile_sublist _).count_le ':'

theorem parse?_eq_none (h : line.count ':' < 2) : Problem.parse? line = none := by
  by_contra hread
  obtain ⟨p, hp⟩ := Option.ne_none_iff_exists'.mp hread
  exact absurd (count_colon_of_parse? hp) (Nat.not_le.mpr h)

theorem Item.parse?_text (i : Item) : Problem.parse? i.text = i.entry?.map Entry.problem := by
  cases i with
  | entry e => exact e.parse?_text
  | noise text flat colons => exact parse?_eq_none colons

/-! ## Rows -/

/-- How a line ends. -/
inductive Ending where
  | lf
  | crlf
  deriving DecidableEq, Repr

/-- What stands before the line feed of an ending. -/
def Ending.mark : Ending → List Char
  | lf => []
  | crlf => ['\r']

/-- An item with the ending of its line. An entry before a bare line feed has no message that ends
in a carriage return, for that would belong to the ending. -/
structure Row where
  item : Item
  ending : Ending
  clear : ∀ e, item = .entry e → ending = .lf → e.message.getLast? ≠ some '\r'

/-- A line with its ending. -/
def Row.text (r : Row) : List Char := r.item.text ++ r.ending.mark ++ ['\n']

/-- A row is one line of a report. -/
theorem Row.lines_append (r : Row) (rest : List Char) :
    Text.lines (r.text ++ rest) = Text.withoutEnding r.text :: Text.lines rest := by
  have hflat : '\n' ∉ r.item.text ++ r.ending.mark := by
    rw [List.mem_append]
    rintro (h | h)
    · exact r.item.text_flat h
    · revert h
      cases r.ending <;> decide
  rw [Row.text, List.append_assoc, List.singleton_append, Text.lines_append_lineFeed,
    Text.lines_flat_lineFeed hflat, List.singleton_append]

theorem getLast?_lineOf_ne (h : message.getLast? ≠ some '\r') :
    (lineOf path digits message).getLast? ≠ some '\r' := by
  rw [lineOf_eq, List.getLast?_append_cons, List.getLast?_cons]
  cases hlast : message.getLast? with
  | none => decide
  | some c => rwa [hlast] at h

/-- An entry is found on its line as it was written, whatever the ending is. -/
theorem Row.withoutEnding_entry {r : Row} {e : Entry} (h : r.item = .entry e) :
    Text.withoutEnding r.text = e.text := by
  have hclear := r.clear e h
  rw [Row.text, h]
  cases hending : r.ending with
  | lf =>
    rw [Ending.mark, List.append_nil]
    exact Text.withoutEnding_lf (getLast?_lineOf_ne (hclear hending))
  | crlf =>
    rw [Ending.mark, List.append_assoc]
    exact Text.withoutEnding_crlf e.text

/-- A row is read as its item. -/
theorem Row.parse?_line (r : Row) :
    Problem.parse? (Text.withoutEnding r.text) = r.item.entry?.map Entry.problem := by
  cases h : r.item with
  | entry e =>
    rw [Row.withoutEnding_entry h]
    exact e.parse?_text
  | noise text flat colons =>
    -- the ending may take a carriage return of the text with it, but no colon comes to it
    apply parse?_eq_none
    have hmark : r.ending.mark.count ':' = 0 := by cases r.ending <;> rfl
    calc (Text.withoutEnding r.text).count ':'
        ≤ r.text.count ':' := (Text.withoutEnding_prefix r.text).sublist.count_le ':'
      _ = text.count ':' := by
          rw [Row.text, h, List.count_append, List.count_append, hmark]
          rfl
      _ < 2 := colons

/-! ## Whole reports -/

/-- A whole report. What stands after the last row has no ending. -/
structure Layout where
  rows : List Row
  last : Option Item

/-- The text of a report. -/
def Layout.text (l : Layout) : List Char := l.rows.flatMap Row.text ++ l.last.elim [] Item.text

/-- The entries of a report, in order. -/
def Layout.entries (l : Layout) : List Entry :=
  (l.rows.map Row.item ++ l.last.toList).filterMap Item.entry?

theorem filterMap_last (last : Option Item) :
    (Text.lines (last.elim [] Item.text)).filterMap Problem.parse? =
      (last.toList.filterMap Item.entry?).map Entry.problem := by
  cases last with
  | none => rfl
  | some i =>
    have hread := i.parse?_text
    rw [Option.elim_some, Option.toList_some, List.map_filterMap, List.filterMap_cons,
      List.filterMap_nil]
    by_cases hempty : i.text = []
    · -- an empty text is no line at all, and no entry either
      rw [hempty] at hread ⊢
      rw [← hread]
      rfl
    · rw [Text.lines_flat i.text_flat hempty, List.filterMap_cons, List.filterMap_nil, hread]

/-- All problems of a report are those of its entries. -/
theorem filterMap_layout (rows : List Row) (last : Option Item) :
    (Text.lines (Layout.text ⟨rows, last⟩)).filterMap Problem.parse? =
      (Layout.entries ⟨rows, last⟩).map Entry.problem := by
  induction rows with
  | nil => exact filterMap_last last
  | cons r rows ih =>
    simp only [Layout.text, Layout.entries, List.flatMap_cons, List.map_cons,
      List.cons_append, List.append_assoc, List.map_filterMap] at ih ⊢
    rw [r.lines_append, List.filterMap_cons, List.filterMap_cons, r.parse?_line, ih]

/-- Reading a report gives its entries in order, as many as the cap allows, whatever else stands
between them and however its lines end. -/
theorem problems_of_layout (l : Layout) (cap : ℕ) :
    problems l.text cap = (l.entries.take (min cap l.entries.length)).map Entry.problem := by
  rw [problems, filterMap_layout, ← List.map_take, ← List.take_eq_take_min]

/-- A report with both endings, a carriage return in a message, noise between entries, the same
entry twice and a last line that is not ended. -/
def mixed : Layout where
  rows :=
    [⟨.noise "a:2\r".toList (by decide) (by decide), .lf, nofun⟩,
     ⟨.entry ⟨"/p:5:q".toList, 2, 7, "x\r".toList, by decide, solid_of_all (by decide), by decide,
        by decide, by decide⟩, .crlf, nofun⟩,
     ⟨.noise "warning: y".toList (by decide) (by decide), .crlf, nofun⟩,
     ⟨.entry ⟨"/p".toList, 0, 12, "z:3: ".toList, by decide, solid_of_all (by decide), by decide,
        by decide, by decide⟩, .lf, by rintro _ ⟨⟩ -; decide⟩,
     ⟨.entry ⟨"/p".toList, 0, 12, "z:3: ".toList, by decide, solid_of_all (by decide), by decide,
        by decide, by decide⟩, .lf, by rintro _ ⟨⟩ -; decide⟩]
  last := some (.entry ⟨"q".toList, 0, 4294967295, "\r".toList, by decide, solid_of_all (by decide),
    by decide, by decide, by decide⟩)

theorem problems_of_layout_mixed :
    mixed.text = ("a:2\r\n/p:5:q:007: x\r\r\nwarning: y\r\n/p:12: z:3: \n/p:12: z:3: \n" ++
      "q:4294967295: \r").toList ∧
    problems mixed.text 3 = [⟨6, "x\r"⟩, ⟨11, "z:3: "⟩, ⟨11, "z:3: "⟩] ∧
    problems mixed.text 9 =
      [⟨6, "x\r"⟩, ⟨11, "z:3: "⟩, ⟨11, "z:3: "⟩, ⟨4294967294, "\r"⟩] :=
  ⟨by decide, (problems_of_layout mixed 3).trans (by decide),
    (problems_of_layout mixed 9).trans (by decide)⟩

end LineLint.Report
