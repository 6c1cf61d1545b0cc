/-!
# Patterns of the shell

* `Glyph` — a character of an expanded word, with what may still be done to it.
* `pieces` — the pattern of an expanded word.
* `matchesAll` — whether a pattern fits a whole text.
-/

namespace LineLint.Host.Shell

/-- What may still be done to a character of an expanded word. -/
inductive Origin where
  /-- It stands for itself. -/
  | quoted
  /-- It was written without quotes. -/
  | written
  /-- It comes from an expansion without quotes, and is split at separators. -/
  | expanded
  deriving DecidableEq, Repr

/-- A part of an expanded word. -/
inductive Glyph where
  | char (c : Char) (origin : Origin)
  /-- Something quoted, be it empty, so there is a field here. -/
  | mark
  /-- A field ends here. -/
  | boundary
  deriving DecidableEq, Repr

/-- The characters of an expanded word that is not split. -/
def unsplit (glyphs : List Glyph) : List Char :=
  glyphs.filterMap fun
    | .char c _ => some c
    | .mark => none
    | .boundary => some ' '

/-- A part of a pattern. -/
inductive Piece where
  | exactly (c : Char)
  | any
  | many
  | oneOf (negated : Bool) (ranges : List (Char × Char))

/-- Reads the ranges of a bracket up to its end, if there is one. -/
def bracket : Nat → Bool → List (Char × Char) → List Glyph →
    Option (List (Char × Char) × List Glyph)
  | 0, _, _, _ => none
  | _, _, _, [] => none
  | fuel + 1, first, ranges, g :: rest =>
    match g, rest with
    | .char ']' .quoted, _ => bracket fuel false (ranges ++ [(']', ']')]) rest
    | .char ']' _, _ =>
      if first then bracket fuel false (ranges ++ [(']', ']')]) rest else some (ranges, rest)
    | .char low _, .char '-' .written :: .char high origin :: more =>
      if high = ']' ∧ origin ≠ .quoted then bracket fuel false (ranges ++ [(low, low)]) rest
      else bracket fuel false (ranges ++ [(low, high)]) more
    | .char c _, _ => bracket fuel false (ranges ++ [(c, c)]) rest
    | _, _ => bracket fuel first ranges rest

/-- The pattern of an expanded word. -/
def pieces : Nat → List Glyph → List Piece
  | 0, _ => []
  | _, [] => []
  | fuel + 1, .char c .quoted :: rest => .exactly c :: pieces fuel rest
  | fuel + 1, .char '*' _ :: rest => .many :: pieces fuel rest
  | fuel + 1, .char '?' _ :: rest => .any :: pieces fuel rest
  | fuel + 1, .char '[' _ :: rest =>
    let (negated, inside) := match rest with
      | .char '!' .written :: more => (true, more)
      | .char '^' .written :: more => (true, more)
      | _ => (false, rest)
    match bracket (inside.length + 1) true [] inside with
    | some (ranges, after) => .oneOf negated ranges :: pieces fuel after
    | none => .exactly '[' :: pieces fuel rest
  | fuel + 1, .char '\\' .expanded :: .char c _ :: rest => .exactly c :: pieces fuel rest
  | fuel + 1, .char c _ :: rest => .exactly c :: pieces fuel rest
  | fuel + 1, _ :: rest => pieces fuel rest

/-- Whether a pattern fits the whole of a text. -/
def matchesAll : List Piece → List Char → Bool
  | [], s => s.isEmpty
  | .many :: more, s => (List.range (s.length + 1)).any fun n => matchesAll more (s.drop n)
  | .any :: more, s =>
    match s with
    | _ :: rest => matchesAll more rest
    | [] => false
  | .exactly c :: more, s =>
    match s with
    | d :: rest => c == d && matchesAll more rest
    | [] => false
  | .oneOf negated ranges :: more, s =>
    match s with
    | d :: rest =>
      (ranges.any fun r => decide (r.1 ≤ d ∧ d ≤ r.2)) != negated && matchesAll more rest
    | [] => false

/-- The ways to cut a text in two, shortest first part first. -/
def cuts (s : List Char) : List (List Char × List Char) :=
  (List.range (s.length + 1)).map fun n => (s.take n, s.drop n)

/-- Takes the shortest or longest fitting start, or end, away from a text. -/
def stripped (pattern : List Glyph) (fromEnd longest : Bool) (s : List Char) : List Char :=
  let pattern := pieces (pattern.length + 1) pattern
  let ordered := if fromEnd == longest then cuts s else (cuts s).reverse
  if fromEnd then
    match ordered.find? fun cut => matchesAll pattern cut.2 with
    | some cut => cut.1
    | none => s
  else
    match ordered.find? fun cut => matchesAll pattern cut.1 with
    | some cut => cut.2
    | none => s

/-- Whether an expanded word fits a text as a pattern. -/
def fits (pattern : List Glyph) (s : List Char) : Bool :=
  matchesAll (pieces (pattern.length + 1) pattern) s

/-! ## Fields -/

/-- The state of splitting: finished fields, the field under way, and whether blanks have just ended
a field, so that one more separator belongs to the same gap. -/
structure Splitting where
  done : List (List Char)
  current : Option (List Char)
  gap : Bool

/-- Ends the field under way. -/
def Splitting.close (s : Splitting) : Splitting :=
  match s.current with
  | some field => { s with done := field.reverse :: s.done, current := none }
  | none => s

/-- Takes one part of an expanded word. -/
def Splitting.take (separators : List Char) (s : Splitting) (g : Glyph) : Splitting :=
  let plain (c : Char) : Splitting :=
    { s with current := some (c :: s.current.getD []), gap := false }
  match g with
  | .mark => { s with current := some (s.current.getD []), gap := false }
  | .boundary => { s.close with gap := false }
  | .char c .expanded =>
    if separators.contains c then
      if c = ' ' ∨ c = '\t' ∨ c = '\n' then
        { s.close with gap := s.gap || s.current.isSome }
      else if s.current.isSome then { s.close with gap := false }
      else if s.gap then { s with gap := false }
      else { s with done := [] :: s.done, gap := false }
    else plain c
  | .char c _ => plain c

/-- The fields of an expanded word. -/
def fieldsOf (separators : List Char) (glyphs : List Glyph) : List (List Char) :=
  (glyphs.foldl (Splitting.take separators) ⟨[], none, false⟩).close.done.reverse

end LineLint.Host.Shell
