import LineLint.Proofs.Lists
import LineLint.Settings.Cache

/-!
# Entries and cells

What each operation of the settings cache does to the entry of a document and to a cell. Entries and
cells are independent: forgetting an entry leaves its cell alone, and filling a cell leaves the
entries alone.

* `Settings.resolved` — what becomes of an answer to a request.

Results:

* `lookup_cases`: a lookup takes the global value, finds the cell of the entry, or makes both.
* `entry?_invalidate`, `entry?_lookup_of_eq_some`: the entries that stay.
* `cell_lookup`, `cell_join`, `cell_settle`: the cells after each operation.
* `turn_eq_ready_iff`, `turn_eq_ask_iff`: whose turn it is.
-/

namespace LineLint

/-- What becomes of an answer to a request for settings: the answer if it is usable, and the
defaults otherwise. -/
def Settings.resolved (answer : Except SettingsError Settings) : Settings :=
  match answer.bind Settings.validated with
  | .ok settings => settings
  | .error _ => Settings.standard

namespace Cache

variable {c : Cache} {u v : Uri} {i j who : ℕ} {settings : Settings}
  {answer : Except SettingsError Settings}

/-! ## Entries -/

@[simp]
theorem entry?_invalidate (c : Cache) (u v : Uri) :
    Cache.entry? (c.invalidate u).1 v = if v = u then none else c.entry? v :=
  find?_filter_ne c.entries u v

@[simp]
theorem entry?_invalidateAll (c : Cache) (v : Uri) : Cache.entry? c.invalidateAll.1 v = none := rfl

@[simp]
theorem entry?_update (c : Cache) (i : ℕ) (f : Cell → Cell) (v : Uri) :
    Cache.entry? (c.update i f) v = c.entry? v := rfl

@[simp]
theorem entry?_join (c : Cache) (i who : ℕ) (v : Uri) :
    Cache.entry? (c.join i who) v = c.entry? v := rfl

theorem lookup_global (h : c.perResource = false) (u : Uri) : c.lookup u = (c, ⟨u, none⟩) := by
  simp [lookup, h]

theorem lookup_known (h : c.perResource = true) (hu : c.entry? u = some i) :
    c.lookup u = (c, ⟨u, some i⟩) := by
  simp [lookup, h, hu]

theorem lookup_new (h : c.perResource = true) (hu : c.entry? u = none) :
    c.lookup u =
      ({ c with entries := c.entries ++ [(u, c.cells.length)], cells := c.cells ++ [Cell.empty] },
        ⟨u, some c.cells.length⟩) := by
  simp [lookup, h, hu]

/-- A lookup goes one of three ways: it uses the global value, or the cell of an entry that is
there, or a new one. -/
theorem lookup_cases (c : Cache) (u : Uri) :
    c.perResource = false ∧ c.lookup u = (c, ⟨u, none⟩) ∨
      (∃ i, c.perResource = true ∧ c.entry? u = some i ∧ c.lookup u = (c, ⟨u, some i⟩)) ∨
      c.perResource = true ∧ c.entry? u = none ∧ c.lookup u =
        ({ c with entries := c.entries ++ [(u, c.cells.length)], cells := c.cells ++ [Cell.empty] },
          ⟨u, some c.cells.length⟩) := by
  by_cases hp : c.perResource = true
  · cases hu : c.entry? u with
    | some i => exact Or.inr (Or.inl ⟨i, hp, rfl, lookup_known hp hu⟩)
    | none => exact Or.inr (Or.inr ⟨hp, rfl, lookup_new hp hu⟩)
  · have hp' : c.perResource = false := by simpa using hp
    exact Or.inl ⟨hp', lookup_global hp' u⟩

theorem entry?_append (c : Cache) (u v : Uri) (cells : List Cell) (hu : c.entry? u = none) :
    Cache.entry? { c with entries := c.entries ++ [(u, i)], cells } v =
      if v = u then some i else c.entry? v := by
  unfold entry? at hu ⊢
  rw [List.find?_append]
  by_cases hv : v = u
  · subst hv
    rw [Option.map_eq_none_iff] at hu
    simp [hu]
  · have hv' : ¬u = v := fun h => hv h.symm
    simp [hv, hv']

/-- A lookup has a cell exactly in per-resource mode. -/
@[simp]
theorem lookup_cell_isSome (c : Cache) (u : Uri) :
    (c.lookup u).2.cell.isSome = c.perResource := by
  rcases lookup_cases c u with ⟨hp, h⟩ | ⟨i, hp, -, h⟩ | ⟨hp, -, h⟩ <;> simp [h, hp]

@[simp]
theorem lookup_uri (c : Cache) (u : Uri) : (c.lookup u).2.uri = u := by
  rcases lookup_cases c u with ⟨-, h⟩ | ⟨i, -, -, h⟩ | ⟨-, -, h⟩ <;> simp [h]

@[simp]
theorem lookup_perResource (c : Cache) (u : Uri) :
    (c.lookup u).1.perResource = c.perResource := by
  rcases lookup_cases c u with ⟨-, h⟩ | ⟨i, -, -, h⟩ | ⟨-, -, h⟩ <;> simp [h]

@[simp]
theorem global_lookup (c : Cache) (u : Uri) : (c.lookup u).1.global = c.global := by
  rcases lookup_cases c u with ⟨-, h⟩ | ⟨i, -, -, h⟩ | ⟨-, -, h⟩ <;> simp [h]

/-- The entries after a lookup: in per-resource mode its document has one. -/
theorem entry?_lookup (c : Cache) (u v : Uri) : Cache.entry? (c.lookup u).1 v =
    if v = u ∧ c.perResource = true then (c.lookup u).2.cell else c.entry? v := by
  rcases lookup_cases c u with ⟨hp, h⟩ | ⟨i, hp, hu, h⟩ | ⟨hp, hu, h⟩
  · simp [h, hp]
  · by_cases hv : v = u <;> simp [h, hu, hv]
  · rw [h, entry?_append c u v _ hu]
    by_cases hv : v = u <;> simp [hp, hv]

/-- The cell of a lookup is that of the entry from then on. -/
theorem entry?_lookup_self (h : (c.lookup u).2.cell = some i) :
    Cache.entry? (c.lookup u).1 u = some i := by
  have hp : c.perResource = true := by rw [← lookup_cell_isSome c u, h]; rfl
  rw [entry?_lookup, if_pos ⟨rfl, hp⟩, h]

/-- A lookup takes no entry away. -/
theorem entry?_lookup_of_eq_some (h : c.entry? v = some i) (u : Uri) :
    Cache.entry? (c.lookup u).1 v = some i := by
  rcases lookup_cases c u with ⟨-, hl⟩ | ⟨j, -, -, hl⟩ | ⟨-, hu, hl⟩
  · rw [hl, h]
  · rw [hl, h]
  · rw [hl, entry?_append c u v _ hu, if_neg, h]
    rintro rfl
    rw [hu] at h
    cases h

/-- An entry that is there after a lookup was there before, or was made with a new cell. -/
theorem lookup_entry?_cases (h : Cache.entry? (c.lookup u).1 v = some i) :
    c.entry? v = some i ∨ u = v ∧ c.cells.length = i ∧ i < (c.lookup u).1.cells.length := by
  rcases lookup_cases c u with ⟨-, hl⟩ | ⟨j, -, -, hl⟩ | ⟨-, hu, hl⟩
  · rw [hl] at h
    exact Or.inl h
  · rw [hl] at h
    exact Or.inl h
  · rw [hl] at h ⊢
    rw [entry?_append c u v _ hu] at h
    split_ifs at h with hv
    · cases h
      exact Or.inr ⟨hv.symm, rfl, by simp⟩
    · exact Or.inl h

/-! ## Cells -/

@[simp]
theorem cell_lookup (c : Cache) (u : Uri) (j : ℕ) : (c.lookup u).1.cell j = c.cell j := by
  rcases lookup_cases c u with ⟨-, h⟩ | ⟨i, -, -, h⟩ | ⟨-, -, h⟩
  · rw [h]
  · rw [h]
  · rw [h]
    show (c.cells ++ [Cell.empty])[j]?.getD Cell.empty = c.cells[j]?.getD Cell.empty
    rw [getElem?_concat]
    split_ifs with hj
    · rw [hj, List.getElem?_eq_none (Nat.le_refl _)]
      rfl
    · rfl

/-- A cell that does not exist yet is empty. -/
@[simp]
theorem cell_length (c : Cache) : c.cell c.cells.length = Cell.empty := by
  rw [cell, List.getElem?_eq_none (Nat.le_refl _)]
  rfl

theorem cells_length_lookup_le (c : Cache) (u : Uri) :
    c.cells.length ≤ (c.lookup u).1.cells.length := by
  rcases lookup_cases c u with ⟨-, h⟩ | ⟨i, -, -, h⟩ | ⟨-, -, h⟩ <;> simp [h]

theorem cell_update (h : i < c.cells.length) (f : Cell → Cell) (j : ℕ) :
    (c.update i f).cell j = if j = i then f (c.cell i) else c.cell j := by
  show (c.cells.modify i f)[j]?.getD Cell.empty = _
  rw [List.getElem?_modify]
  by_cases hj : j = i
  · subst hj
    simp [cell, List.getElem?_eq_getElem h]
  · have hj' : ¬i = j := fun h => hj h.symm
    simp [cell, hj, hj']

@[simp]
theorem cells_length_update (c : Cache) (i : ℕ) (f : Cell → Cell) :
    (c.update i f).cells.length = c.cells.length :=
  List.length_modify ..

@[simp]
theorem cells_length_join (c : Cache) (i who : ℕ) :
    (c.join i who).cells.length = c.cells.length :=
  cells_length_update ..

/-- Who stands in line at a cell with a value is not noted. -/
theorem cell_join (h : i < c.cells.length) (who j : ℕ) :
    (c.join i who).cell j =
      if j = i ∧ (c.cell i).value = none then { c.cell i with line := (c.cell i).line ++ [who] }
      else c.cell j := by
  rw [join, cell_update h]
  by_cases hj : j = i
  · subst hj
    cases hv : (c.cell j).value <;> simp [hv]
  · simp [hj]

@[simp]
theorem value_join (c : Cache) (i who j : ℕ) :
    ((c.join i who).cell j).value = (c.cell j).value := by
  by_cases h : i < c.cells.length
  · rw [cell_join h]
    split_ifs with hj
    · rw [hj.1]
    · rfl
  · rw [join, update, List.modify_eq_self (by omega)]

/-- An answer changes its cell in a way that depends on nothing else. -/
theorem settle_eq_update (answer : Except SettingsError Settings) :
    ∃ f, ∀ (c : Cache) (i : ℕ), (c.settle i answer).1 = c.update i f := by
  unfold settle
  cases answer.bind Settings.validated with
  | ok settings => exact ⟨_, fun _ _ => rfl⟩
  | error e => exact ⟨_, fun _ _ => rfl⟩

/-- An answer fills the cell if it is usable; otherwise the first in line leaves. -/
theorem cell_settle (h : i < c.cells.length) (answer : Except SettingsError Settings) (j : ℕ) :
    (c.settle i answer).1.cell j =
      if j = i then
        match answer.bind Settings.validated with
        | .ok settings => ⟨some settings, []⟩
        | .error _ => { c.cell i with line := (c.cell i).line.tail }
      else c.cell j := by
  unfold settle
  cases hv : answer.bind Settings.validated with
  | ok settings => exact cell_update h _ j
  | error e => exact cell_update h _ j

/-- A cell has a value only if it had one, or this answer is one. -/
theorem value_settle (h : ((c.settle i answer).1.cell j).value = some settings) :
    (c.cell j).value = some settings ∨ j = i ∧ settings = Settings.resolved answer := by
  by_cases hi : i < c.cells.length
  · rw [cell_settle hi] at h
    split_ifs at h with hj
    · unfold Settings.resolved
      cases hv : answer.bind Settings.validated with
      | ok found =>
        rw [hv] at h
        exact Or.inr ⟨hj, (Option.some.inj h).symm⟩
      | error e =>
        rw [hv] at h
        exact Or.inl (hj ▸ h)
    · exact Or.inl h
  · refine Or.inl ?_
    rw [← h]
    unfold settle
    cases answer.bind Settings.validated with
    | ok found => simp only [update, List.modify_eq_self (Nat.le_of_not_lt hi)]
    | error e => simp only [update, List.modify_eq_self (Nat.le_of_not_lt hi)]

@[simp]
theorem settle_entries (c : Cache) (i : ℕ) (answer : Except SettingsError Settings) :
    (c.settle i answer).1.entries = c.entries := by
  unfold settle
  split <;> rfl

@[simp]
theorem entry?_settle (c : Cache) (i : ℕ) (answer : Except SettingsError Settings) (v : Uri) :
    Cache.entry? (c.settle i answer).1 v = c.entry? v := by
  rw [Cache.entry?, settle_entries]
  rfl

@[simp]
theorem settle_perResource (c : Cache) (i : ℕ) (answer : Except SettingsError Settings) :
    (c.settle i answer).1.perResource = c.perResource := by
  unfold settle
  split <;> rfl

@[simp]
theorem cells_length_settle (c : Cache) (i : ℕ) (answer : Except SettingsError Settings) :
    (c.settle i answer).1.cells.length = c.cells.length := by
  unfold settle
  split <;> exact cells_length_update ..

/-! ## Turns -/

@[simp]
theorem turn_eq_ready_iff : c.turn i who = .ready settings ↔ (c.cell i).value = some settings := by
  unfold turn
  cases (c.cell i).value with
  | some v => simp
  | none =>
    simp only
    split_ifs <;> simp

@[simp]
theorem turn_eq_ask_iff :
    c.turn i who = .ask ↔ (c.cell i).value = none ∧ (c.cell i).line.head? = some who := by
  unfold turn
  cases (c.cell i).value with
  | some v => simp
  | none =>
    simp only
    split_ifs with h <;> simp [h]

end Cache

end LineLint
