import LineLint.Log
import LineLint.Settings.Cache

/-!
# Resolving lookups

Lookups of settings are resolved in steps between which anything else may happen to the cache: a
lookup takes its place in line at its cell; when its turn comes it takes the value of the cell, or
asks the editor; and it gets the answer. A step changes the state and has effects outside.

`resolve`, `advance` and `answer` are the parts of `resolve` between the points at which it waits:
for its turn at the cell, and for the answer of `fetch`.

* `LookupStatus`, `Resolver` — how far lookups have come, and the cache in which they were made.
* `Resolver.Effect` — what a step does outside.
* `lookup`, `invalidate`, `invalidateAll` — the steps that concern entries.
* `resolve`, `advance`, `answer` — the steps of a lookup.
* `Resolver.Action`, `Resolver.step` — all steps as one function.
-/

namespace LineLint

/-- How far a lookup has come. -/
inductive LookupStatus where
  /-- It knows where its settings come from. -/
  | claimed
  /-- It stands in line at its cell. -/
  | inLine
  /-- It has asked the editor. -/
  | fetching
  /-- It has its settings. -/
  | resolved
  deriving DecidableEq, Repr

/-- A cache and the lookups that were made in it. Lookups are named by their places. -/
structure Resolver where
  cache : Cache
  lookups : List (Lookup × LookupStatus)

namespace Resolver

/-- What a step does outside. -/
inductive Effect where
  /-- A lookup asks the editor for the settings of a document. -/
  | fetch (lookup : Nat) (uri : Uri)
  /-- A lookup has its settings. -/
  | resolved (lookup : Nat) (settings : Settings)
  /-- An event is logged. -/
  | log (event : Event)

/-- The new state of a step and its effects, in order. -/
abbrev Result := Resolver × List Effect

/-- A fresh cache without lookups. -/
def initial : Resolver := ⟨Cache.empty, []⟩

/-- Sets how far a lookup has come. -/
def setStatus (r : Resolver) (n : Nat) (status : LookupStatus) : Resolver :=
  { r with lookups := r.lookups.modify n fun entry => (entry.1, status) }

/-! ## Entries -/

/-- Makes a lookup for a document. -/
def lookup (r : Resolver) (uri : Uri) : Result :=
  let (cache, found) := r.cache.lookup uri
  (⟨cache, r.lookups ++ [(found, .claimed)]⟩, [])

/-- Forgets the entry of a document. -/
def invalidate (r : Resolver) (uri : Uri) : Result :=
  let (cache, removed) := r.cache.invalidate uri
  ({ r with cache }, if removed then [.log (.entryInvalidated uri)] else [])

/-- Forgets all entries. -/
def invalidateAll (r : Resolver) : Result :=
  let (cache, count) := r.cache.invalidateAll
  ({ r with cache }, [.log (.cacheCleared count)])

/-! ## Lookups -/

/-- Begins to resolve a lookup: it takes the global value, or stands in line at its cell. -/
def resolve (r : Resolver) (n : Nat) : Option Result :=
  match r.lookups[n]? with
  | some (⟨_, none⟩, .claimed) =>
    some (r.setStatus n .resolved, [.resolved n r.cache.global])
  | some (⟨_, some cell⟩, .claimed) =>
    some ({ r with cache := r.cache.join cell n }.setStatus n .inLine, [])
  | _ => none

/-- Takes the value of a filled cell, or asks the editor if it is this lookup's turn. -/
def advance (r : Resolver) (n : Nat) : Option Result :=
  match r.lookups[n]? with
  | some (⟨uri, some cell⟩, .inLine) =>
    match r.cache.turn cell n with
    | .ready settings => some (r.setStatus n .resolved, [.resolved n settings])
    | .ask => some (r.setStatus n .fetching, [.fetch n uri])
    | .wait => none
  | _ => none

/-- Takes the answer to a lookup's request; without usable settings the defaults apply. -/
def answer (r : Resolver) (n : Nat) (answer : Except SettingsError Settings) : Option Result :=
  match r.lookups[n]? with
  | some (⟨uri, some cell⟩, .fetching) =>
    match r.cache.settle cell answer with
    | (cache, .ok settings) =>
      some ({ r with cache }.setStatus n .resolved, [.resolved n settings])
    | (cache, .error e) =>
      some ({ r with cache }.setStatus n .resolved,
        [.log (.fetchFailed uri e), .resolved n Settings.standard])
  | _ => none

/-! ## All steps -/

/-- A step. -/
inductive Action where
  | setPerResource (enabled : Bool)
  | setGlobal (settings : Settings)
  | lookup (uri : Uri)
  | invalidate (uri : Uri)
  | invalidateAll
  | resolve (lookup : Nat)
  | advance (lookup : Nat)
  | answer (lookup : Nat) (answer : Except SettingsError Settings)

/-- Takes a step, if it is possible in this state. -/
def step (r : Resolver) : Action → Option Result
  | .setPerResource enabled => some ({ r with cache := r.cache.setPerResource enabled }, [])
  | .setGlobal settings => some ({ r with cache := r.cache.setGlobal settings }, [])
  | .lookup uri => some (r.lookup uri)
  | .invalidate uri => some (r.invalidate uri)
  | .invalidateAll => some r.invalidateAll
  | .resolve n => r.resolve n
  | .advance n => r.advance n
  | .answer n answer => r.answer n answer

end Resolver

end LineLint
