import LineLint.Options.Basic

/-!
# Scanning arguments

Arguments are taken one by one. An option that was named without a value waits for the next
argument; what has been gathered for an argument is settled only when something else begins, so that
a subcommand is read before the last option in front of it is looked at.

* `Arity`, `OptionSpec`, `Positional`, `Grammar` — what a command accepts.
* `Scan` — what has been gathered so far.
* `Scan.step` — takes one argument.
* `Grammar.scan` — takes arguments up to their end or to a subcommand.
* `Grammar.finish` — settles what is left and checks what is required.
-/

namespace LineLint.Options

/-- How often an option may be given, and whether it takes a value. -/
inductive Arity where
  | flag
  | once
  | repeated
  deriving DecidableEq, Repr

/-- An option: its name without dashes, and how its value is checked. `takesHyphens` lets any
argument at all be its value. -/
structure OptionSpec where
  name : String
  arity : Arity
  takesHyphens : Bool := false
  check : Bytes → Option UsageError := fun _ => none

/-- A place for arguments that belong to no option. -/
structure Positional where
  name : String
  many : Bool
  required : Bool
  check : Bytes → Option UsageError := fun _ => none

/-- What a command accepts. -/
structure Grammar where
  topic : HelpTopic
  options : List OptionSpec
  positional : Option Positional
  subcommands : List String
  hasVersion : Bool

/-- The option of a name. -/
def Grammar.option? (g : Grammar) (name : Bytes) : Option OptionSpec :=
  g.options.find? fun spec => textBytes spec.name == name

/-- The subcommand that an argument names. -/
def Grammar.subcommand? (g : Grammar) (arg : Bytes) : Option String :=
  g.subcommands.find? fun name => textBytes name == arg

/-- What is being gathered: an option with at most one value, or arguments for the positional
place. -/
inductive Pending where
  | option (spec : OptionSpec) (value : Option Bytes)
  | positional (place : Positional) (values : List Bytes)

/-- What has been gathered so far: settled values under their names in order, what is still being
gathered, the option that waits for the next argument, whether all that follows is positional, and
whether a single positional place is taken. -/
structure Scan where
  settled : List (String × Bytes)
  pending : Option Pending
  awaiting : Option OptionSpec
  trailing : Bool
  placeTaken : Bool

/-- Before the first argument. -/
def Scan.start : Scan := ⟨[], none, none, false, false⟩

/-- The values settled under a name, in order. -/
def Scan.values (s : Scan) (name : String) : List Bytes :=
  (s.settled.filter fun entry => entry.1 == name).map Prod.snd

/-- Settles an occurrence of an option. One that may be given once must not be there already, and
its value has to pass its check. -/
def Scan.settle (s : Scan) (spec : OptionSpec) (value : Bytes) : Except UsageError Scan :=
  if spec.arity ≠ .repeated ∧ s.values spec.name ≠ [] then .error .argumentConflict
  else
    match spec.check value with
    | some e => .error e
    | none => .ok { s with settled := s.settled ++ [(spec.name, value)] }

/-- Checks values in order and answers the first complaint. -/
def firstFault (check : Bytes → Option UsageError) : List Bytes → Option UsageError
  | [] => none
  | v :: more =>
    match check v with
    | some e => some e
    | none => firstFault check more

/-- Settles what is being gathered. An option without its value is an error. -/
def Scan.resolve (s : Scan) : Except UsageError Scan :=
  let rest := { s with pending := none }
  match s.pending with
  | none => .ok rest
  | some (.option _ none) => .error .invalidValue
  | some (.option spec (some value)) => rest.settle spec value
  | some (.positional place values) =>
    match firstFault place.check values with
    | some e => .error e
    | none => .ok { rest with settled := rest.settled ++ values.map fun v => (place.name, v) }

/-- Takes an occurrence of an option, with the value attached to it by an equals sign, if any. -/
def Scan.occur (s : Scan) (spec : OptionSpec) (attached : Option Bytes) : Except UsageError Scan :=
  match spec.arity, attached with
  | .flag, some _ => .error .tooManyValues
  | .flag, none => do
    let s ← s.resolve
    let s ← s.settle spec (textBytes "true")
    return { s with awaiting := none }
  | _, some value => do
    let s ← s.resolve
    let s ← s.settle spec value
    return { s with awaiting := none }
  | _, none => do
    let s ← s.resolve
    return { s with pending := some (.option spec none), awaiting := some spec }

/-- Takes an option by name, with the value attached to it by an equals sign, if any. -/
def Scan.long (g : Grammar) (s : Scan) (name : Bytes) (attached : Option Bytes) :
    Except UsageError Scan :=
  if name = textBytes "help" then
    if attached.isSome then .error .tooManyValues
    else do
      let _ ← s.resolve
      .error (.displayHelp g.topic)
  else if name = textBytes "version" ∧ g.hasVersion then
    if attached.isSome then .error .tooManyValues
    else do
      let _ ← s.resolve
      .error .displayVersion
  else
    match g.option? name with
    | none => .error .unknownArgument
    | some spec => s.occur spec attached

/-- Takes a cluster of short options; the first letter, `h` or `V`, decides, since each of them ends
the scan. -/
def Scan.short (g : Grammar) (s : Scan) (letter : UInt8) : Except UsageError Scan :=
  if letter = 0x68 then do
    let _ ← s.resolve
    .error (.displayHelp g.topic)
  else if letter = 0x56 ∧ g.hasVersion then do
    let _ ← s.resolve
    .error .displayVersion
  else .error .unknownArgument

/-- Takes an argument that belongs to no option. -/
def Scan.place (g : Grammar) (s : Scan) (arg : Bytes) : Except UsageError Scan :=
  match g.positional with
  | some place =>
    if s.placeTaken then .error .unknownArgument
    else
      match s.pending with
      | some (.positional _ values) =>
        .ok { s with pending := some (.positional place (values ++ [arg])) }
      | _ => do
        let s ← s.resolve
        return { s with pending := some (.positional place [arg]), placeTaken := !place.many }
  | none =>
    if g.subcommands = [] then .error .unknownArgument
    else if s.trailing ∧ (g.subcommand? arg).isSome then .error .unknownArgument
    else .error .invalidSubcommand

/-- Gives an argument to the option that waits for one. -/
def Scan.give (s : Scan) (spec : OptionSpec) (arg : Bytes) : Scan :=
  { s with pending := some (.option spec (some arg)), awaiting := none }

/-- How an argument looks. -/
inductive Form where
  | escape
  | long (name : Bytes) (attached : Option Bytes)
  | short (letter : UInt8)
  | plain
  deriving DecidableEq, Repr

/-- The byte of a dash. -/
def dash : UInt8 := 0x2D

/-- The byte of an equals sign. -/
def equals : UInt8 := 0x3D

/-- What follows two dashes: a name, and what stands behind the first equals sign. -/
def longForm (body : Bytes) : Form :=
  match body.dropWhile (· != equals) with
  | [] => .long body none
  | _ :: value => .long (body.takeWhile (· != equals)) (some value)

/-- The form of an argument: `--` alone, `--name` or `--name=value`, a dash with letters, or
anything else, a dash alone included. -/
def formOf (arg : Bytes) : Form :=
  match arg with
  | first :: second :: body =>
    if first ≠ dash then .plain
    else if second ≠ dash then .short second
    else if body = [] then .escape
    else longForm body
  | _ => .plain

/-- Takes one argument that is no subcommand. -/
def Scan.step (g : Grammar) (s : Scan) (arg : Bytes) : Except UsageError Scan :=
  if s.trailing then s.place g arg
  else
    match s.awaiting with
    | some spec =>
      if spec.takesHyphens then .ok (s.give spec arg)
      else
        match formOf arg with
        | .escape => .ok { s with trailing := true }
        | .long name attached => s.long g name attached
        | .short letter => s.short g letter
        | .plain => .ok (s.give spec arg)
    | none =>
      match formOf arg with
      | .escape => .ok { s with trailing := true }
      | .long name attached => s.long g name attached
      | .short letter => s.short g letter
      | .plain => s.place g arg

/-- Where a scan stops: at the end of the arguments, or at a subcommand with those after it. -/
structure Stop where
  scan : Scan
  subcommand : Option (String × List Bytes)

/-- Whether the next argument may be a subcommand. -/
def Scan.seeksSubcommand (s : Scan) : Bool := !s.trailing && s.awaiting.isNone

/-- Takes arguments up to their end or to a subcommand. -/
def Grammar.scan (g : Grammar) : Scan → List Bytes → Except UsageError Stop
  | s, [] => .ok ⟨s, none⟩
  | s, arg :: rest =>
    match if s.seeksSubcommand then g.subcommand? arg else none with
    | some name => .ok ⟨s, some (name, rest)⟩
    | none =>
      match s.step g arg with
      | .error e => .error e
      | .ok s => Grammar.scan g s rest

/-- Settles what is left at the end, and checks that a required place is taken. -/
def Grammar.finish (g : Grammar) (s : Scan) : Except UsageError Scan := do
  let s ← s.resolve
  match g.positional with
  | some place =>
    if place.required ∧ s.values place.name = [] then .error .missingRequiredArgument else return s
  | none => return s

end LineLint.Options
