/-!
# Scripts

What a scripted partner does, by the name of what it is asked about.

* `Script` — entries by name, and one for all other names.
-/

namespace LineLint.Simulation

/-- Entries by name, the latest first, and one for all names without an entry. -/
structure Script (κ α : Type) where
  named : List (κ × α)
  others : Option α

namespace Script

variable {κ α : Type}

/-- A script without any entry. -/
def empty : Script κ α := ⟨[], none⟩

/-- Sets the entry of a name, or that of all names without one. -/
def set (script : Script κ α) (name : Option κ) (entry : α) : Script κ α :=
  match name with
  | some name => { script with named := (name, entry) :: script.named }
  | none => { script with others := some entry }

/-- The entry of a name. -/
def get? [BEq κ] (script : Script κ α) (name : κ) : Option α :=
  match script.named.find? fun e => e.1 == name with
  | some e => some e.2
  | none => script.others

end Script

end LineLint.Simulation
