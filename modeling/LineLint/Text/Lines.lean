/-!
# Lines of a text

A line feed ends a line, and a carriage return right before it belongs to the ending. What follows
the last line feed is a line of its own unless it is empty; a carriage return there is text.

* `pieces` — the text cut after each line feed, nothing lost.
* `withoutEnding` — a piece without its line ending.
* `lines` — the lines of a text, in order.
-/

namespace LineLint.Text

/-- The text cut after each line feed. The pieces concatenate to the text (`flatten_pieces`), and
only the last one may lack its line feed. -/
def pieces : List Char → List (List Char)
  | [] => []
  | c :: rest =>
    if c = '\n' then [c] :: pieces rest
    else match pieces rest with
      | [] => [[c]]
      | piece :: more => (c :: piece) :: more

/-- A piece without its line ending: a final line feed, and a carriage return right before it. -/
def withoutEnding (piece : List Char) : List Char :=
  match piece.reverse with
  | '\n' :: '\r' :: before => before.reverse
  | '\n' :: before => before.reverse
  | _ => piece

/-- The lines of a text, in order and without their endings. -/
def lines (s : List Char) : List (List Char) :=
  (pieces s).map withoutEnding

/-- Cutting a text into pieces loses nothing. -/
theorem flatten_pieces (s : List Char) : (pieces s).flatten = s := by
  induction s with
  | nil => rfl
  | cons c rest ih =>
    unfold pieces
    split
    · simp [ih]
    · split
      · rename_i h
        rw [h] at ih
        simp at ih
        simp [← ih]
      · rename_i h
        rw [h] at ih
        simp at ih
        simp [← ih]

end LineLint.Text
