import LineLint.Log

/-!
# Log filters

Which events are written. A filter is a list of directives separated by commas: a level for all
events, an origin for all of its events, or a level for the events of an origin.

* `Directive`, `Filter` — filters.
* `Filter.parse?` — reads a filter.
* `Filter.allows` — whether an event is written.
-/

namespace LineLint

/-- How much is written of the events whose origin starts in a way; `none` is nothing. -/
structure Directive where
  origin : String
  upTo : Option Level
  deriving DecidableEq, Repr

/-- Which events are written. -/
abbrev Filter := List Directive

namespace Filter

/-- The levels by name, in small letters, with the one for nothing. -/
def levelNames : List (String × Option Level) :=
  [("off", none), ("error", some .error), ("warn", some .warn), ("info", some .info),
   ("debug", some .debug), ("trace", some .trace)]

/-- The levels by number. -/
def levelNumbers : List (Option Level) :=
  [none, some .error, some .warn, some .info, some .debug, some .trace]

/-- The level of a number, or of a name in letters of any case. -/
def level? (s : List Char) : Option (Option Level) :=
  let digits := if s.head? = some '+' then s.drop 1 else s
  if !digits.isEmpty && digits.all Char.isDigit then
    levelNumbers[digits.foldl (fun n c => n * 10 + (c.toNat - 48)) 0]?
  else (levelNames.find? fun l => l.1.toList == s.map Char.toLower).map Prod.snd

/-- Whether a directive can begin with a character. -/
def beginsDirective (c : Char) : Bool := c.isAlphanum || c == '_' || c == ':' || c == '-'

/-- Reads a directive. A level that is left out lets everything through. -/
def directive? (s : List Char) : Option Directive :=
  if (s.head?.map beginsDirective).getD false then
    let origin := s.takeWhile (· != '=')
    match s.dropWhile (· != '=') with
    | [] =>
      match level? s with
      | some upTo => some ⟨"", upTo⟩
      | none => some ⟨String.ofList s, some .trace⟩
    | [_] => some ⟨String.ofList origin, some .trace⟩
    | _ :: name => (level? name).map fun upTo => ⟨String.ofList origin, upTo⟩
  else none

/-- Reads a filter; empty directives do not count. Without any, errors are written. -/
def parse? (text : String) : Option Filter := do
  let parts := (text.toList.splitOn ',').filter fun s => !s.isEmpty
  let directives ← parts.mapM directive?
  return if directives.isEmpty then [⟨"", some .error⟩] else directives

/-- The filter of an environment: one that cannot be read, or is not there, lets `info` through. -/
def ofEnvironment (text : Option String) : Filter :=
  (text.bind parse?).getD [⟨"", some .info⟩]

/-- Whether a directive speaks of an event. -/
def speaksOf (e : Event) (d : Directive) : Bool := d.origin.toList.isPrefixOf e.origin.toList

/-- The longer of two directives, the later one if they are equally long. -/
def longer (a : Option Directive) (b : Directive) : Option Directive :=
  match a with
  | none => some b
  | some a => if a.origin.length ≤ b.origin.length then some b else some a

/-- Whether an event is written: the directive with the longest fitting origin decides. -/
def allows (f : Filter) (e : Event) : Bool :=
  match (f.filter (speaksOf e)).foldl longer none with
  | some ⟨_, some upTo⟩ => decide (e.level.rank ≤ upTo.rank)
  | _ => false

end Filter

end LineLint
