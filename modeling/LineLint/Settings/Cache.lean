import LineLint.Settings.Basic
import LineLint.Uri.Basic

/-!
# Settings of documents

In per-resource mode each document has an entry with a cell, which is filled by asking the editor
once. Whoever needs the settings stands in line at the cell: the first in line asks, and the others
are served by its answer, or ask in turn if it failed. A cell outlives its entry as long as someone
refers to it. In global mode there is one value for all documents.

`Cache` is the `SettingsCache` and `Lookup` a `SettingsLookup`. What one task does between two waits
is one operation: `join`, `turn` and `settle` are what `resolve` does at a cell that is filled once
(`get_or_try_init`), for which only one of those who wait may ask at a time.

* `Cell` — a value to come, and who stands in line for it.
* `Cache` — mode, global value, entries and cells.
* `Lookup` — where a document's settings will come from.
* `lookup`, `invalidate`, `invalidateAll` — the entries.
* `join`, `turn`, `settle` — how a cell is filled.
-/

namespace LineLint

/-- A value to come. `line` holds those who wait for it, in order of arrival; the first of them asks
the editor. -/
structure Cell where
  value : Option Settings
  line : List Nat
  deriving DecidableEq, Repr

/-- Nothing has been asked yet. -/
def Cell.empty : Cell := ⟨none, []⟩

/-- The settings of all documents: the `SettingsCache`. Cells are named by their place in `cells`.
-/
structure Cache where
  perResource : Bool
  global : Settings
  entries : List (Uri × Nat)
  cells : List Cell
  deriving DecidableEq, Repr

/-- Where a document's settings come from, a cell or the global value: a `SettingsLookup`. -/
structure Lookup where
  uri : Uri
  cell : Option Nat
  deriving DecidableEq, Repr

/-- What someone in line at a cell has to do. -/
inductive Turn where
  /-- Take this value. -/
  | ready (settings : Settings)
  /-- Ask the editor. -/
  | ask
  /-- Wait on. -/
  | wait
  deriving DecidableEq, Repr

namespace Cache

/-- Global mode, defaults for all. -/
def empty : Cache := ⟨false, Settings.standard, [], []⟩

/-- The cell of a document's entry. -/
def entry? (c : Cache) (uri : Uri) : Option Nat :=
  (c.entries.find? fun entry => entry.1 == uri).map Prod.snd

/-- Chooses the mode for the lookups to come: `set_per_resource`. -/
def setPerResource (c : Cache) (enabled : Bool) : Cache := { c with perResource := enabled }

/-- Sets the global value: `set_global`. -/
def setGlobal (c : Cache) (settings : Settings) : Cache := { c with global := settings }

/-- Claims the source of a document's settings: `lookup`. In per-resource mode that is the cell of
its entry, which is made if there is none. -/
def lookup (c : Cache) (uri : Uri) : Cache × Lookup :=
  if c.perResource then
    match c.entry? uri with
    | some cell => (c, ⟨uri, some cell⟩)
    | none =>
      let cell := c.cells.length
      ({ c with entries := c.entries ++ [(uri, cell)], cells := c.cells ++ [Cell.empty] },
        ⟨uri, some cell⟩)
  else (c, ⟨uri, none⟩)

/-- Forgets the entry of a document, and tells whether there was one: `invalidate`. -/
def invalidate (c : Cache) (uri : Uri) : Cache × Bool :=
  ({ c with entries := c.entries.filter fun entry => entry.1 != uri }, (c.entry? uri).isSome)

/-- Forgets all entries, and tells how many there were: `invalidate_all`. -/
def invalidateAll (c : Cache) : Cache × Nat :=
  ({ c with entries := [] }, c.entries.length)

/-- A cell by its name. -/
def cell (c : Cache) (i : Nat) : Cell := c.cells[i]?.getD Cell.empty

/-- Changes a cell. -/
def update (c : Cache) (i : Nat) (f : Cell → Cell) : Cache := { c with cells := c.cells.modify i f }

/-- Stands in line at a cell that has no value yet. -/
def join (c : Cache) (i : Nat) (who : Nat) : Cache :=
  c.update i fun cell =>
    if cell.value.isSome then cell else { cell with line := cell.line ++ [who] }

/-- What someone in line at a cell has to do now. -/
def turn (c : Cache) (i : Nat) (who : Nat) : Turn :=
  match (c.cell i).value with
  | some settings => .ready settings
  | none => if (c.cell i).line.head? = some who then .ask else .wait

/-- Settles the answer for which the first in line has asked: `fetch`, and then `validated`. A
usable value fills the cell for good; otherwise the asker leaves the line and the next one is the
first. -/
def settle (c : Cache) (i : Nat) (answer : Except SettingsError Settings) :
    Cache × Except SettingsError Settings :=
  match answer.bind Settings.validated with
  | .ok settings => (c.update i fun _ => ⟨some settings, []⟩, .ok settings)
  | .error e => (c.update i fun cell => { cell with line := cell.line.tail }, .error e)

end Cache

end LineLint
