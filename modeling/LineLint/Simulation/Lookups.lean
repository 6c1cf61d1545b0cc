import LineLint.Settings.Resolver
import LineLint.Simulation.Script

/-!
# A settings cache with a scripted editor

Drives a settings cache by hand. Requests to the editor are answered from a script, or held back and
answered one by one. After each instruction everything that can go on does.

* `Lookups` — a cache with the lookups made so far, and the script.
* `Shown` — what can be seen of the effects of an instruction.
* `Instruction`, `Lookups.perform` — what can be done, and what it shows.
-/

namespace LineLint.Simulation

/-- An answer to a request for settings. -/
abbrev Answer := Except SettingsError Settings

/-- A cache under a script. `held` names the lookups whose requests are or were held back, in order;
an entry is `none` once it has been answered. -/
structure Lookups where
  resolver : Resolver
  script : Script String Answer
  holding : Bool
  held : List (Option Nat)

/-- What an instruction shows. -/
structure Shown where
  fetches : List Uri
  resolved : List (Nat × Settings)
  log : List Event

/-- The documents for which requests are made. -/
def requested (effects : List Resolver.Effect) : List Uri :=
  effects.filterMap fun
    | .fetch _ uri => some uri
    | _ => none

/-- What can be seen of effects. -/
def Shown.ofEffects (effects : List Resolver.Effect) : Shown where
  fetches := requested effects
  resolved := effects.filterMap fun
    | .resolved n settings => some (n, settings)
    | _ => none
  log := effects.filterMap fun
    | .log event => some event
    | _ => none

/-- What an instruction answers. -/
inductive Answered where
  | nothing
  | handle (n : Nat)
  | noSuchLookup
  | noSuchFetch

/-- What can be done. -/
inductive Instruction where
  | setPerResource (enabled : Bool)
  | setGlobal (settings : Settings)
  | source (uri : Option String) (answer : Answer)
  | hold (enabled : Bool)
  | answer (fetch : Nat) (answer : Answer)
  | lookup (uri : Uri)
  | resolve (handle : Nat)
  | invalidate (uri : Uri)
  | invalidateAll

namespace Lookups

/-- A fresh cache without a script. -/
def initial : Lookups := ⟨Resolver.initial, Script.empty, false, []⟩

/-- The cache that is driven. -/
def cache (l : Lookups) : Cache := l.resolver.cache

/-- The state so far and the effects so far. -/
abbrev Progress := Lookups × List Resolver.Effect

/-- Takes a step, if it is possible. -/
def take (l : Lookups) (action : Resolver.Action) : Option Progress :=
  (l.resolver.step action).map fun (resolver, effects) => ({ l with resolver }, effects)

/-- Meets the request of a lookup: it is held back, or answered from the script. -/
def meet (l : Lookups) (handle : Nat) (uri : Uri) : Progress :=
  if l.holding then ({ l with held := l.held ++ [some handle] }, [])
  else (l.take (.answer handle ((l.script.get? uri.text).getD (.error .missing)))).getD (l, [])

/-- Lets one lookup go on, if it can. -/
def advance (state : Progress) (handle : Nat) : Progress :=
  match state.1.take (.advance handle) with
  | none => state
  | some (l, effects) =>
    match requested effects with
    | [] => (l, state.2 ++ effects)
    | uri :: _ =>
      let (l, more) := l.meet handle uri
      (l, state.2 ++ effects ++ more)

/-- Lets all lookups go on, in the order in which they stand in line at a cell. Each round settles
at least the first in line, so as many rounds as there are lookups are enough. -/
def advanceAll : Nat → Nat → Progress → Progress
  | 0, _, state => state
  | rounds + 1, cell, state =>
    let lookups := state.1.resolver.lookups
    let waiting := (List.range lookups.length).filter fun handle =>
      match lookups[handle]? with
      | some (lookup, .inLine) => lookup.cell == some cell
      | _ => false
    advanceAll rounds cell (waiting.foldl advance state)

/-- Lets all lookups at the cell of a lookup go on as far as they can. -/
def settle (handle : Nat) (state : Progress) : Progress :=
  let lookups := state.1.resolver.lookups
  match (lookups[handle]?).bind fun entry => entry.1.cell with
  | some cell => advanceAll (lookups.length + 1) cell state
  | none => state

/-- Carries out a step that is always possible. -/
def carryOut (l : Lookups) (action : Resolver.Action) (answered : Answered) :
    Lookups × Answered × Shown :=
  let (l, effects) := (l.take action).getD (l, [])
  (l, answered, .ofEffects effects)

/-- Carries out an instruction and lets everything go on. -/
def perform (l : Lookups) : Instruction → Lookups × Answered × Shown
  | .setPerResource enabled => l.carryOut (.setPerResource enabled) .nothing
  | .setGlobal settings => l.carryOut (.setGlobal settings) .nothing
  | .source uri answer => ({ l with script := l.script.set uri answer }, .nothing, .ofEffects [])
  | .hold enabled => ({ l with holding := enabled }, .nothing, .ofEffects [])
  | .lookup uri => l.carryOut (.lookup uri) (.handle l.resolver.lookups.length)
  | .invalidate uri => l.carryOut (.invalidate uri) .nothing
  | .invalidateAll => l.carryOut .invalidateAll .nothing
  | .resolve handle =>
    match l.take (.resolve handle) with
    | none => (l, .noSuchLookup, .ofEffects [])
    | some state =>
      let (l, effects) := settle handle state
      (l, .nothing, .ofEffects effects)
  | .answer fetch answer =>
    match (l.held[fetch]?).join with
    | none => (l, .noSuchFetch, .ofEffects [])
    | some handle =>
      match { l with held := l.held.set fetch none }.take (.answer handle answer) with
      | none => (l, .noSuchFetch, .ofEffects [])
      | some state =>
        let (l, effects) := settle handle state
        (l, .nothing, .ofEffects effects)

end Lookups

end LineLint.Simulation
