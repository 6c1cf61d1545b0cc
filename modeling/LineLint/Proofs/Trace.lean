import LineLint.Proofs.Lists
import Mathlib.Data.List.Induction

/-!
# Traces

A system is a step function that may refuse an action. What it has done is kept as a list of
moments, oldest first, so that a moment keeps its place while the trace goes on.

* `Moment` — a step that was taken.
* `Trace` — the moments between a first and a last state.
* `HappensAt` — something is the case at a place of a trace.
* `replay` — the trace of a list of actions, in which refused ones are passed over.

Results:

* `Trace.step_at`, `Trace.take_at`: every moment is a step, taken where the moments before it lead.
* `Trace.unique`: the actions determine a trace.
* `Trace.append`, `Trace.split`: traces can be put together and taken apart.
* `replay_trace`: a replay is a trace.
-/

namespace LineLint

variable {σ α ε : Type}

/-- A step that was taken: the state before it, what was done, its effects, and the state after it.
-/
structure Moment (σ α ε : Type) where
  before : σ
  action : α
  effects : List ε
  after : σ

/-- The moments by which a system comes from one state to another, in order. -/
inductive Trace (step : σ → α → Option (σ × List ε)) (start : σ) :
    List (Moment σ α ε) → σ → Prop
  | nil : Trace step start [] start
  | snoc {past : List (Moment σ α ε)} {s s' : σ} {a : α} {effects : List ε} :
      Trace step start past s → step s a = some (s', effects) →
      Trace step start (past ++ [⟨s, a, effects, s'⟩]) s'

section

variable {step : σ → α → Option (σ × List ε)} {start s : σ} {past : List (Moment σ α ε)}
  {m : Moment σ α ε} {i : ℕ}

/-- A moment is a step of the system. -/
theorem Trace.step_at (h : Trace step start past s) (hm : past[i]? = some m) :
    step m.before m.action = some (m.after, m.effects) := by
  induction h with
  | nil => simp at hm
  | snoc _ hs ih =>
    rcases getElem?_concat_iff.mp hm with hm | ⟨-, rfl⟩
    · exact ih hm
    · exact hs

/-- A moment comes after the moments before it. -/
theorem Trace.take_at (h : Trace step start past s) (hm : past[i]? = some m) :
    Trace step start (past.take i) m.before := by
  induction h with
  | nil => simp at hm
  | snoc h hs ih =>
    rcases getElem?_concat_iff.mp hm with hm | ⟨rfl, rfl⟩
    · have hi := (List.getElem?_eq_some_iff.mp hm).1
      rw [List.take_append_of_le_length (by omega)]
      exact ih hm
    · rw [List.take_left]
      exact h

/-- The actions determine a trace. -/
theorem Trace.unique {past' : List (Moment σ α ε)} {s' : σ} (h : Trace step start past s)
    (h' : Trace step start past' s')
    (ha : past.map Moment.action = past'.map Moment.action) : past = past' ∧ s = s' := by
  induction h generalizing past' s' with
  | nil =>
    cases h' with
    | nil => exact ⟨rfl, rfl⟩
    | snoc => simp at ha
  | snoc _ hs ih =>
    cases h' with
    | nil => simp at ha
    | snoc h' hs' =>
      rw [List.map_append, List.map_append] at ha
      obtain ⟨hearlier, hlast⟩ := List.append_inj' ha rfl
      obtain ⟨rfl, rfl⟩ := ih h' hearlier
      cases hlast
      rw [hs] at hs'
      cases hs'
      exact ⟨rfl, rfl⟩

/-- A trace goes on where another one has led. -/
theorem Trace.append {more : List (Moment σ α ε)} {s' : σ} (h : Trace step start past s)
    (hmore : Trace step s more s') : Trace step start (past ++ more) s' := by
  induction hmore with
  | nil =>
    rw [List.append_nil]
    exact h
  | snoc _ hs ih =>
    rw [← List.append_assoc]
    exact ih.snoc hs

/-- The last step of a trace. -/
theorem Trace.last (h : Trace step start (past ++ [m]) s) :
    Trace step start past m.before ∧ step m.before m.action = some (s, m.effects) ∧
      m.after = s := by
  generalize hl : past ++ [m] = l at h
  cases h with
  | nil => simp at hl
  | snoc h hs =>
    obtain ⟨rfl, hm⟩ := List.append_inj' hl rfl
    cases hm
    exact ⟨h, hs, rfl⟩

/-- A trace can be taken apart everywhere. -/
theorem Trace.split {more : List (Moment σ α ε)} (h : Trace step start (past ++ more) s) :
    ∃ mid, Trace step start past mid ∧ Trace step mid more s := by
  induction more using List.reverseRecOn generalizing s with
  | nil =>
    rw [List.append_nil] at h
    exact ⟨s, h, .nil⟩
  | append_singleton more m ih =>
    rw [← List.append_assoc] at h
    obtain ⟨hearlier, hs, hafter⟩ := h.last
    obtain ⟨mid, hfirst, hmore⟩ := ih hearlier
    obtain ⟨before, a, effects, after⟩ := m
    cases hafter
    exact ⟨mid, hfirst, hmore.snoc hs⟩

/-- The first step of a trace. -/
theorem Trace.first {more : List (Moment σ α ε)} (h : Trace step start (m :: more) s) :
    m.before = start ∧ step start m.action = some (m.after, m.effects) ∧
      Trace step m.after more s := by
  have hwhole : Trace step start ([m] ++ more) s := h
  obtain ⟨mid, hfirst, hmore⟩ := hwhole.split
  have hone : Trace step start ([] ++ [m]) mid := hfirst
  obtain ⟨hnone, hs, rfl⟩ := hone.last
  have hstart : m.before = start := by
    generalize hl : ([] : List (Moment σ α ε)) = l at hnone
    cases hnone with
    | nil => rfl
    | snoc => simp at hl
  rw [hstart] at hs
  exact ⟨hstart, hs, hmore⟩

end

/-- At a place there is a moment of which something holds. -/
def HappensAt (past : List (Moment σ α ε)) (i : ℕ) (P : Moment σ α ε → Prop) : Prop :=
  ∃ m, past[i]? = some m ∧ P m

section

variable {past : List (Moment σ α ε)} {m : Moment σ α ε} {i : ℕ} {P : Moment σ α ε → Prop}

/-- What happens once one more step is taken: what happened before, or what this step does. -/
theorem happensAt_concat :
    HappensAt (past ++ [m]) i P ↔ HappensAt past i P ∨ i = past.length ∧ P m := by
  unfold HappensAt
  constructor
  · rintro ⟨x, hx, hP⟩
    rcases getElem?_concat_iff.mp hx with hx | ⟨hi, rfl⟩
    · exact Or.inl ⟨x, hx, hP⟩
    · exact Or.inr ⟨hi, hP⟩
  · rintro (⟨x, hx, hP⟩ | ⟨hi, hP⟩)
    · exact ⟨x, getElem?_concat_iff.mpr (Or.inl hx), hP⟩
    · exact ⟨m, getElem?_concat_iff.mpr (Or.inr ⟨hi, rfl⟩), hP⟩

theorem HappensAt.concat (h : HappensAt past i P) : HappensAt (past ++ [m]) i P :=
  happensAt_concat.mpr (Or.inl h)

theorem HappensAt.last (h : P m) : HappensAt (past ++ [m]) past.length P :=
  happensAt_concat.mpr (Or.inr ⟨rfl, h⟩)

theorem HappensAt.lt_length (h : HappensAt past i P) : i < past.length := by
  obtain ⟨m, hm, -⟩ := h
  exact (List.getElem?_eq_some_iff.mp hm).1

/-- What happens in the first moments of a trace. -/
theorem happensAt_take {n : ℕ} : HappensAt (past.take n) i P ↔ i < n ∧ HappensAt past i P := by
  unfold HappensAt
  rw [List.getElem?_take]
  split_ifs with hi
  · simp [hi]
  · simp [hi]

/-- What happens at a place can be found by looking there. -/
theorem happensAt_of_elim (h : (past[i]?).elim False P) : HappensAt past i P := by
  cases hm : past[i]? with
  | none =>
    rw [hm] at h
    exact h.elim
  | some m =>
    rw [hm] at h
    exact ⟨m, hm, h⟩

theorem not_happensAt_nil : ¬HappensAt ([] : List (Moment σ α ε)) i P := by
  intro h
  have := h.lt_length
  simp at this

end

/-! ## Replaying actions -/

/-- Takes one more action, unless the system refuses it. -/
def replayOne (step : σ → α → Option (σ × List ε)) (run : List (Moment σ α ε) × σ) (a : α) :
    List (Moment σ α ε) × σ :=
  match step run.2 a with
  | some (s, effects) => (run.1 ++ [⟨run.2, a, effects, s⟩], s)
  | none => run

/-- The moments of a list of actions, and the state to which they lead. -/
def replay (step : σ → α → Option (σ × List ε)) (start : σ) (actions : List α) :
    List (Moment σ α ε) × σ :=
  actions.foldl (replayOne step) ([], start)

@[simp]
theorem replay_concat (step : σ → α → Option (σ × List ε)) (start : σ) (actions : List α) (a : α) :
    replay step start (actions ++ [a]) = replayOne step (replay step start actions) a := by
  rw [replay, List.foldl_append]
  rfl

theorem replayOne_trace {step : σ → α → Option (σ × List ε)} {start : σ}
    {run : List (Moment σ α ε) × σ} (h : Trace step start run.1 run.2) (a : α) :
    Trace step start (replayOne step run a).1 (replayOne step run a).2 := by
  unfold replayOne
  split
  · rename_i s effects hs
    exact h.snoc hs
  · exact h

theorem replay_trace (step : σ → α → Option (σ × List ε)) (start : σ) (actions : List α) :
    Trace step start (replay step start actions).1 (replay step start actions).2 := by
  have hfold : ∀ (l : List α) (run : List (Moment σ α ε) × σ), Trace step start run.1 run.2 →
      Trace step start (l.foldl (replayOne step) run).1 (l.foldl (replayOne step) run).2 := by
    intro l
    induction l with
    | nil => intro run h; exact h
    | cons a l ih => intro run h; exact ih _ (replayOne_trace h a)
  exact hfold actions ([], start) .nil

end LineLint
