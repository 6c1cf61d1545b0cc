import LineLint.Text.Lines
import Mathlib.Data.List.Basic

/-!
# Cutting a text into lines

A text falls apart at each of its line feeds: what stands before one and what stands after it are
cut into lines on their own.

Results:

* `lines_append_lineFeed`: the lines of a text are those up to a line feed and those after it.
* `lines_flat`, `lines_flat_lineFeed`: a text without line feeds is one line, with or without a line
  feed after it.
* `withoutEnding_crlf`, `withoutEnding_lf`, `withoutEnding_flat`: what an ending takes away.
-/

namespace LineLint.Text

variable {s piece : List Char}

theorem pieces_ne_nil (h : s ≠ []) : pieces s ≠ [] := by
  intro hnil
  have hs := flatten_pieces s
  rw [hnil] at hs
  exact h hs.symm

theorem pieces_lineFeed (s : List Char) : pieces ('\n' :: s) = ['\n'] :: pieces s := by
  simp [pieces]

theorem pieces_cons {c : Char} {more : List (List Char)} (hc : c ≠ '\n')
    (h : pieces s = piece :: more) : pieces (c :: s) = (c :: piece) :: more := by
  simp [pieces, hc, h]

/-- A text can be cut after any of its line feeds. -/
theorem pieces_append_lineFeed (s t : List Char) :
    pieces (s ++ '\n' :: t) = pieces (s ++ ['\n']) ++ pieces t := by
  induction s with
  | nil => exact pieces_lineFeed t
  | cons c s ih =>
    rw [List.cons_append, List.cons_append]
    by_cases hc : c = '\n'
    · rw [hc, pieces_lineFeed, pieces_lineFeed, ih, List.cons_append]
    · -- the first piece reaches up to the line feed at the latest
      obtain ⟨piece, more, hpieces⟩ :=
        List.exists_cons_of_ne_nil (pieces_ne_nil (s := s ++ ['\n']) (by simp))
      have hlong : pieces (s ++ '\n' :: t) = piece :: (more ++ pieces t) := by
        rw [ih, hpieces, List.cons_append]
      rw [pieces_cons hc hpieces, pieces_cons hc hlong, List.cons_append]

/-- The lines of a text are those up to a line feed and those after it. -/
theorem lines_append_lineFeed (s t : List Char) :
    lines (s ++ '\n' :: t) = lines (s ++ ['\n']) ++ lines t := by
  rw [lines, pieces_append_lineFeed, List.map_append]
  rfl

/-! ## Texts without line feeds -/

theorem pieces_flat (hflat : '\n' ∉ s) (hne : s ≠ []) : pieces s = [s] := by
  induction s with
  | nil => exact absurd rfl hne
  | cons c s ih =>
    have hc : c ≠ '\n' := fun h => hflat (h ▸ List.mem_cons_self)
    have hrest : '\n' ∉ s := fun h => hflat (List.mem_cons_of_mem _ h)
    cases s with
    | nil => simp [pieces, hc]
    | cons d s => exact pieces_cons hc (ih hrest (List.cons_ne_nil d s))

theorem pieces_flat_lineFeed (hflat : '\n' ∉ s) : pieces (s ++ ['\n']) = [s ++ ['\n']] := by
  induction s with
  | nil => rfl
  | cons c s ih =>
    have hc : c ≠ '\n' := fun h => hflat (h ▸ List.mem_cons_self)
    have hrest : '\n' ∉ s := fun h => hflat (List.mem_cons_of_mem _ h)
    exact pieces_cons hc (ih hrest)

/-! ## Endings -/

theorem withoutEnding_crlf (s : List Char) : withoutEnding (s ++ ['\r', '\n']) = s := by
  simp [withoutEnding]

theorem withoutEnding_lf (h : s.getLast? ≠ some '\r') : withoutEnding (s ++ ['\n']) = s := by
  have hreverse : (s ++ ['\n']).reverse = '\n' :: s.reverse := by simp
  rw [← List.head?_reverse] at h
  unfold withoutEnding
  rw [hreverse]
  split
  · rename_i before hbefore
    rw [List.tail_eq_of_cons_eq hbefore] at h
    exact absurd rfl h
  · rename_i before _ hbefore
    rw [← List.tail_eq_of_cons_eq hbefore, List.reverse_reverse]
  · rename_i hno
    exact absurd rfl (hno s.reverse)

theorem withoutEnding_flat (hflat : '\n' ∉ s) : withoutEnding s = s := by
  have hno : ∀ before, s.reverse ≠ '\n' :: before :=
    fun before h => hflat (List.mem_reverse.mp (h ▸ List.mem_cons_self))
  unfold withoutEnding
  split
  · rename_i h
    exact absurd h (hno _)
  · rename_i h
    exact absurd h (hno _)
  · rfl

theorem withoutEnding_prefix (piece : List Char) : withoutEnding piece <+: piece := by
  unfold withoutEnding
  split
  · rename_i before h
    exact ⟨['\r', '\n'], by simpa using (congrArg List.reverse h).symm⟩
  · rename_i before _ h
    exact ⟨['\n'], by simpa using (congrArg List.reverse h).symm⟩
  · exact List.prefix_rfl

/-- A text without line feeds is one line, if there is anything in it. -/
theorem lines_flat (hflat : '\n' ∉ s) (hne : s ≠ []) : lines s = [s] := by
  rw [lines, pieces_flat hflat hne, List.map_singleton, withoutEnding_flat hflat]

/-- A text without line feeds and a line feed are one line. -/
theorem lines_flat_lineFeed (hflat : '\n' ∉ s) :
    lines (s ++ ['\n']) = [withoutEnding (s ++ ['\n'])] := by
  rw [lines, pieces_flat_lineFeed hflat, List.map_singleton]

end LineLint.Text
