import LineLint.Host.Shell.Arithmetic
import LineLint.Host.Shell.Builtins
import LineLint.Host.Shell.Pattern
import LineLint.Host.Shell.Reader
import LineLint.Host.Utilities

/-!
# Running shell scripts

Words are expanded and commands carried out, step by step on the state of a shell. Every function
has a bound on the number of nested calls and rounds; a script that exceeds it counts as one that
never ends.

* `glyphs`, `fields` — the expansion of words.
* `redirectAll` — redirections.
* `run` — commands.
* `invoke`, `execute` — a command by its words, and a program by its file.
* `source` — the text of a script.
-/

namespace LineLint.Host.Shell

/-- Gives up on a script that never ends. -/
def endless : Act Unit := pass none

/-- The characters of a value in an expanded word. -/
def valueGlyphs (quoted : Bool) (s : List Char) : List Glyph :=
  if quoted then
    if s.isEmpty then [.mark] else s.map fun c => .char c .quoted
  else s.map fun c => .char c .expanded

/-- All parameters in an expanded word, each a field of its own. -/
def paramGlyphs (quoted : Bool) (params : List (List Char)) : List Glyph :=
  let each (p : List Char) : List Glyph :=
    if quoted then .mark :: p.map fun c => .char c .quoted else p.map fun c => .char c .expanded
  (params.map each).intersperse [.boundary] |>.flatten

/-- All parameters as one text, joined by the first separator. -/
def joinedParams : Act (List Char) := do
  let first := (← separators).take 1
  return ((← get).params.intersperse first).flatten

/-- The expansion of a word that stands for a parameter's value. -/
def requote (quoted : Bool) (gs : List Glyph) : List Glyph :=
  let changed := gs.map fun
    | .char c .quoted => .char c .quoted
    | .char c _ => .char c (if quoted then .quoted else .expanded)
    | g => g
  if quoted && changed.isEmpty then [.mark] else changed

/-- How a redirection that cannot be opened is complained of. -/
def openFault (e : SystemError) : List Char :=
  if e = .noSuchFile then "No such file".toList else e.description.toList

/-- How a file that cannot be created is complained of. -/
def createFault (e : SystemError) : List Char :=
  if e = .noSuchFile then "Directory nonexistent".toList else e.description.toList

/-- Opens a file for reading. -/
def openInput (path : List Char) : Act (Except SystemError Channel) := do
  let s ← get
  match s.world.files.lookup s.cwd (bytesOf path) with
  | .ok (_, .data contents _) => return .ok (.input (← newInput (lettersOf contents)))
  | .ok (_, .sink) => return .ok .sink
  | .ok _ => return .ok (.input (← newInput []))
  | .error e => return .error e

/-- Opens a file for writing, empty unless text is to be added. -/
def openOutput (path : List Char) (add : Bool) : Act (Except SystemError Channel) := do
  let s ← get
  match writable s.world.files s.cwd path with
  | .error e => return .error e
  | .ok none => return .ok .sink
  | .ok (some place) =>
    let fresh := match s.world.files.get? place with
      | some (.data contents executable) => .data (if add then contents else []) executable
      | _ => .data [] false
    modifyWorld fun w => { w with files := w.files.put place fresh }
    return .ok (.file place)

/-- Lets a descriptor lead where a word says. The answer is whether that is possible. -/
def redirectTo (fd : Nat) (kind : RedirectKind) (target : List Char) : Act Bool := do
  match kind with
  | .here =>
    setChannel fd (some (.input (← newInput target)))
    return true
  | .duplicate =>
    if target = ['-'] then
      setChannel fd none
      return true
    else
      match natural? target with
      | none =>
        complain "Syntax error: Bad fd number".toList
        return false
      | some n =>
        match ← channel? n with
        | some channel =>
          setChannel fd (some channel)
          return true
        | none =>
          complain (target ++ ": Bad file descriptor".toList)
          return false
  | .input =>
    match ← openInput target with
    | .ok channel =>
      setChannel fd (some channel)
      return true
    | .error e =>
      complain ("cannot open ".toList ++ target ++ [':', ' '] ++ openFault e)
      return false
  | _ =>
    match ← openOutput target (kind == .append) with
    | .ok channel =>
      setChannel fd (some channel)
      return true
    | .error e =>
      complain ("cannot create ".toList ++ target ++ [':', ' '] ++ createFault e)
      return false

/-- The environment that programs are given. -/
def environment : Act (List (List Char × List Char)) := do
  return ((← get).bindings.filter fun v => v.2.exported).map fun v => (v.1, v.2.value)

/-- Ends the script after a failure, if that is wanted. -/
def heedFailure : Act Unit := do
  let s ← get
  if s.errexit && !s.guarded && s.status != 0 && s.flow == .normal then
    modify fun s => { s with flow := .exits }

/-- What is left of a jump out of loops at the end of a round: whether the loop goes on. -/
def endOfRound : Act Bool := do
  match (← get).flow with
  | .normal => return true
  | .breaks (n + 2) =>
    modify fun s => { s with flow := .breaks (n + 1) }
    return false
  | .breaks _ =>
    modify fun s => { s with flow := .normal }
    return false
  | .continues (n + 2) =>
    modify fun s => { s with flow := .continues (n + 1) }
    return false
  | .continues _ =>
    modify fun s => { s with flow := .normal }
    return true
  | _ => return false

/-- The names of the commands that the shell carries out itself with the help of others. -/
def composedNames : List String := ["eval", "exec", "command", "kill", "type", "."]

/-- Whether the shell carries a command out itself. -/
def isBuiltin (name : List Char) : Bool :=
  (builtin? name).isSome || composedNames.any fun s => s.toList == name

/-- The file of a program by name. -/
def findProgram (name : List Char) : Act (Except SystemError (List Char × Entry)) := do
  let s ← get
  match s.world.files.search s.cwd (← searchPath) (bytesOf name) with
  | .ok (path, entry) => return .ok (lettersOf path, entry)
  | .error e => return .error e

/-- The complaint about a program that cannot be run, and its status. -/
def programFault (e : SystemError) : List Char × Nat :=
  if e = .accessDenied then ("Permission denied".toList, 126) else ("not found".toList, 127)

/-- Where a name leads, as `command -v` and `type` tell. -/
def describeCommand (long : Bool) (name : List Char) : Act Unit := do
  let functions := (← get).functions
  if functions.any fun f => f.1 == name then
    write 1 (name ++ (if long then " is a shell function\n".toList else ['\n']))
  else if isBuiltin name then
    write 1 (name ++ (if long then " is a shell builtin\n".toList else ['\n']))
  else
    match ← findProgram name with
    | .ok (path, _) =>
      write 1 ((if long then name ++ " is ".toList else []) ++ path ++ ['\n'])
    | .error _ =>
      if long then write 1 (name ++ ": not found\n".toList)
      setStatus 127

/-- Runs a small program. -/
def runUtility (program : Given → Produced) (argv0 : List Char) (args : List (List Char)) :
    Act Unit := do
  let s ← get
  let piped := match ← channel? 1 with
    | some (.output n) => decide (2 ≤ n)
    | _ => false
  let produced := program ⟨argv0, args, ← unread 0, s.world.files, s.cwd, piped⟩
  if produced.tookInput then setUnread 0 []
  modifyWorld fun w => { w with files := produced.files }
  pass produced.nanos
  if ← running then
    write 1 produced.out
    write 2 produced.err
    setStatus produced.status

/-- A shell for a program of its own: it inherits the environment, the channels and the directory.
-/
def innerShell (s : Interpreter) (name : List Char) (params : List (List Char)) : Interpreter :=
  { s with
    bindings := s.bindings.filter fun v => v.2.exported
    functions := []
    name
    params
    line := 1
    status := 0
    substituted := none
    flow := .normal
    errexit := false
    nounset := false
    guarded := false
    traps := []
    loops := 0
    pid := s.pid + 1 }

/-- How a shell is called: by a command text, by a script's file, or to read its input. -/
inductive ShellCall where
  | text (s : List Char) (name : List Char) (params : List (List Char))
  | file (path : List Char) (params : List (List Char))
  | standardInput
  | misuse (complaint : List Char)

/-- Reads the arguments of a shell. -/
def shellCall (argv0 : List Char) (args : List (List Char)) : Act ShellCall := do
  let isCommand (a : List Char) : Bool := a.head? == some '-' && a.contains 'c' && a != ['-', '-']
  let options := args.takeWhile fun a =>
    (a.head? == some '-' || a.head? == some '+') && 1 < a.length && a != ['-', '-']
  let wantsText := options.any isCommand
  match ← readOptions (args.map fun a => if isCommand a && options.contains a
      then a.filter (· != 'c') else a) with
  | .error c => return .misuse ("Illegal option -".toList ++ [c])
  | .ok (_, rest) =>
    let rest := if rest.head? == some ['-'] then rest.drop 1 else rest
    if wantsText then
      match rest with
      | [] => return .misuse "-c requires an argument".toList
      | [text] => return .text text argv0 []
      | text :: name :: params => return .text text name params
    else
      match rest with
      | [] => return .standardInput
      | path :: params => return .file path params

mutual
/-- Expands a part of a word. -/
def partGlyphs : Nat → Part → Act (List Glyph)
  | 0, _ => do
    endless
    return []
  | fuel + 1, part => do
    match part with
    | .text s quoted =>
      if quoted then return valueGlyphs true s
      else return s.map fun c => .char c .written
    | .param name quoted =>
      if name = ['@'] then return paramGlyphs quoted (← get).params
      else if name = ['*'] then
        if quoted then return valueGlyphs true (← joinedParams)
        else return paramGlyphs false (← get).params
      else
        match ← parameter? name with
        | some value => return valueGlyphs quoted value
        | none =>
          if (← get).nounset && name != ['!'] then abort (name ++ ": parameter not set".toList)
          return valueGlyphs quoted []
    | .length name quoted =>
      let value := (← parameter? name).getD []
      return valueGlyphs quoted (decimal value.length)
    | .fallback name kind alsoEmpty word quoted =>
      let value ←
        if name = ['@'] ∨ name = ['*'] then do
          let joined ← joinedParams
          pure (if (← get).params.isEmpty then none else some joined)
        else parameter? name
      let missing := match value with
        | none => true
        | some v => alsoEmpty && v.isEmpty
      match kind with
      | .alternative =>
        if missing then return valueGlyphs quoted [] else requote quoted <$> glyphs fuel word
      | .use =>
        if missing then requote quoted <$> glyphs fuel word
        else return valueGlyphs quoted (value.getD [])
      | .assign =>
        if missing then
          let text := unsplit (← glyphs fuel word)
          setVariable name text false
          return valueGlyphs quoted text
        else return valueGlyphs quoted (value.getD [])
      | .complain =>
        if missing then
          let text := unsplit (← glyphs fuel word)
          abort (name ++ [':', ' '] ++
            (if text.isEmpty then "parameter not set".toList else text))
          return []
        else return valueGlyphs quoted (value.getD [])
    | .strip name fromEnd longest pattern quoted =>
      let value := (← parameter? name).getD []
      let pattern ← glyphs fuel pattern
      return valueGlyphs quoted (stripped pattern fromEnd longest value)
    | .substitution body quoted =>
      let n ← newOutput
      let before := (← get).status
      apart do
        setChannel 1 (some (.output n))
        run fuel body
      modify fun s => { s with substituted := some s.status, status := before }
      let text := dropLineEnds ((← written n).filter (· != '\x00'))
      return valueGlyphs quoted text
    | .arithmetic body quoted =>
      let text := unsplit (← glyphs fuel body)
      let s ← get
      let lookup (name : List Char) : List Char :=
        match s.bindings.find? fun v => v.1 == name with
        | some v => v.2.value
        | none => []
      match Arithmetic.evaluate lookup text with
      | .ok (n, changes) =>
        changes.reverse.forM fun c => setVariable c.1 c.2 false
        return valueGlyphs quoted (decimalInt n)
      | .error fault =>
        abort (fault.message text)
        return []

/-- Expands a word, part by part. -/
def glyphs : Nat → List Part → Act (List Glyph)
  | 0, _ => do
    endless
    return []
  | _ + 1, [] => return []
  | fuel + 1, part :: more => do
    let first ← partGlyphs fuel part
    let rest ← glyphs fuel more
    return first ++ rest

/-- Expands words to fields. -/
def fields : Nat → List Word → Act (List (List Char))
  | 0, _ => do
    endless
    return []
  | _ + 1, [] => return []
  | fuel + 1, word :: more => do
    let first := fieldsOf (← separators) (← glyphs fuel word)
    let rest ← fields fuel more
    return first ++ rest

/-- Carries redirections out in order. The answer is whether all are possible. -/
def redirectAll : Nat → List Redirect → Act Bool
  | 0, _ => do
    endless
    return false
  | _ + 1, [] => return true
  | fuel + 1, .mk fd kind target :: more => do
    let target := unsplit (← glyphs fuel target)
    if ← redirectTo fd kind target then redirectAll fuel more else return false

/-- Carries assignments out in order. -/
def assignAll : Nat → Bool → List (List Char × Word) → Act Unit
  | 0, _, _ => endless
  | _ + 1, _, [] => return
  | fuel + 1, exported, (name, word) :: more => do
    setVariable name (unsplit (← glyphs fuel word)) exported
    assignAll fuel exported more

/-- Carries a command out. -/
def run : Nat → Command → Act Unit
  | 0, _ => endless
  | fuel + 1, command => do
    match command with
    | .nothing => return
    | .simple line assigns words redirects =>
      modify fun s => { s with line }
      simple fuel assigns words redirects
      heedFailure
    | .pipeline negated parts =>
      match parts with
      | [one] => heeded fuel one
      | _ =>
        let start := (← get).world.clock
        runStages fuel start start (← channel? 0) parts
      if negated then
        modify fun s => { s with status := if s.status = 0 then 1 else 0 }
      else heedFailure
    | .both first second =>
      heeded fuel first
      if (← running) && (← get).status = 0 then run fuel second
    | .either first second =>
      heeded fuel first
      if (← running) && (← get).status != 0 then run fuel second
    | .sequence first second =>
      run fuel first
      if ← running then run fuel second
    | .background body =>
      let before := (← get).world
      let leadsOutside (channel : Option Channel) : Bool :=
        channel == some (.output 0) || channel == some (.output 1)
      let holds := leadsOutside (← channel? 1) || leadsOutside (← channel? 2)
      apart do
        setChannel 0 (some .sink)
        run fuel body
      modify fun s =>
        let ending := s.world.clock
        { s with
          flow := .normal
          status := 0
          world := { s.world with
            clock := before.clock
            backgroundEnd := max s.world.backgroundEnd ending
            heldUntil := if holds then max s.world.heldUntil ending else s.world.heldUntil } }
    | .branch condition yes no =>
      heeded fuel condition
      if ← running then
        if (← get).status = 0 then run fuel yes
        else
          setStatus 0
          run fuel no
    | .loop untilTrue condition body =>
      modify fun s => { s with loops := s.loops + 1 }
      rounds fuel untilTrue 0 condition body
      modify fun s => { s with loops := s.loops - 1 }
    | .each name words body =>
      let values ← match words with
        | some words => fields fuel words
        | none => do pure (← get).params
      setStatus 0
      if ← running then
        modify fun s => { s with loops := s.loops + 1 }
        eachValue fuel name values body
        modify fun s => { s with loops := s.loops - 1 }
    | .choose word clauses =>
      let text := unsplit (← glyphs fuel word)
      setStatus 0
      if ← running then choose fuel text clauses
    | .subshell body redirects =>
      apart do
        if ← redirectAll fuel redirects then run fuel body else setStatus 2
      heedFailure
    | .group body redirects =>
      let channels := (← get).channels
      if ← redirectAll fuel redirects then run fuel body else setStatus 2
      modify fun s => { s with channels }
    | .function name body =>
      modify fun s =>
        { s with functions := (name, body) :: s.functions.filter fun f => f.1 != name, status := 0 }

/-- Carries a command out whose failure someone looks at. -/
def heeded : Nat → Command → Act Unit
  | 0, _ => endless
  | fuel + 1, command => do
    let before := (← get).guarded
    modify fun s => { s with guarded := true }
    run fuel command
    modify fun s => { s with guarded := before }

/-- Carries the stages of a pipeline out, each from the given start; all together they take as long
as the longest. -/
def runStages : Nat → Nat → Nat → Option Channel → List Command → Act Unit
  | 0, _, _, _, _ => endless
  | _ + 1, _, _, _, [] => return
  | fuel + 1, start, latest, input, stage :: more => do
    modifyWorld fun w => { w with clock := start }
    let n ← newOutput
    apart do
      setChannel 0 input
      unless more.isEmpty do setChannel 1 (some (.output n))
      run fuel stage
    let latest := max latest (← get).world.clock
    modifyWorld fun w => { w with clock := latest }
    if ← running then
      unless more.isEmpty do
        let next ← newInput (← written n)
        runStages fuel start latest (some (.input next)) more

/-- Carries the rounds of a loop out. The status is that of the last body. -/
def rounds : Nat → Bool → Nat → Command → Command → Act Unit
  | 0, _, _, _, _ => endless
  | fuel + 1, untilTrue, last, condition, body => do
    heeded fuel condition
    if ← endOfRound then
      if ((← get).status = 0) != untilTrue then
        run fuel body
        let status := (← get).status
        if ← endOfRound then rounds fuel untilTrue status condition body
      else setStatus last

/-- Carries a body out for each value of a variable. -/
def eachValue : Nat → List Char → List (List Char) → Command → Act Unit
  | 0, _, _, _ => endless
  | _ + 1, _, [], _ => return
  | fuel + 1, name, value :: more, body => do
    setVariable name value false
    run fuel body
    if ← endOfRound then eachValue fuel name more body

/-- Carries out the first clause with a pattern that fits a text. -/
def choose : Nat → List Char → List (List Word × Command) → Act Unit
  | 0, _, _ => endless
  | _ + 1, _, [] => return
  | fuel + 1, text, (patterns, body) :: more => do
    if ← anyFits fuel text patterns then run fuel body else choose fuel text more

/-- Whether some pattern fits a text. -/
def anyFits : Nat → List Char → List Word → Act Bool
  | 0, _, _ => do
    endless
    return false
  | _ + 1, _, [] => return false
  | fuel + 1, text, pattern :: more => do
    if fits (← glyphs fuel pattern) text then return true else anyFits fuel text more

/-- Carries out a command of words, with its assignments and redirections. -/
def simple : Nat → List (List Char × Word) → List Word → List Redirect → Act Unit
  | 0, _, _, _ => endless
  | fuel + 1, assigns, words, redirects => do
    modify fun s => { s with substituted := none }
    let argv ← fields fuel words
    if ← running then
      let channels := (← get).channels
      match argv with
      | [] =>
        let possible ← redirectAll fuel redirects
        modify fun s => { s with channels }
        if ← running then assignAll fuel false assigns
        if ← running then
          -- Without a command the status is that of the last substitution.
          modify fun s => { s with status := if possible then s.substituted.getD 0 else 2 }
      | name :: args =>
        if ← redirectAll fuel redirects then
          if ← running then
            if isBuiltin name || ((← get).functions.any fun f => f.1 == name) then
              assignAll fuel false assigns
              if ← running then invoke fuel name args
            else
              let bindings := (← get).bindings
              assignAll fuel true assigns
              if ← running then invoke fuel name args
              modify fun s => { s with bindings }
        else
          setStatus 2
          if endsScript name then modify fun s => { s with flow := .exits }
        unless name = "exec".toList ∧ args.isEmpty do modify fun s => { s with channels }

/-- Carries out a command by its name and arguments. -/
def invoke : Nat → List Char → List (List Char) → Act Unit
  | 0, _, _ => endless
  | fuel + 1, name, args => do
    match (← get).functions.find? fun f => f.1 == name with
    | some (_, body) =>
      let before ← get
      if 1000 ≤ before.depth then
        abort "Maximum function recursion depth (1000) reached".toList
      else
        modify fun s => { s with params := args, depth := s.depth + 1, loops := 0 }
        run fuel body
        modify fun s =>
          { s with
            params := before.params
            depth := before.depth
            loops := before.loops
            flow := if s.flow == .returns then .normal else s.flow }
    | none =>
      match builtin? name with
      | some act => act args
      | none =>
        match String.ofList name with
        | "eval" => source fuel "eval: " (Format.spaced args) (← get).line
        | "kill" =>
          match ← kill args with
          | some text => source fuel "" text (← get).line
          | none => return
        | "type" =>
          setStatus 0
          for a in args do describeCommand true a
        | "." =>
          let path := args.headD []
          match ← openInput path with
          | .ok (.input n) =>
            source fuel "" (((← get).world.inputs[n]?).getD []) 1
          | .ok _ => setStatus 0
          | .error e =>
            abort (".: cannot open ".toList ++ path ++ [':', ' '] ++ openFault e)
        | "command" =>
          match args with
          | ['-', 'v'] :: names =>
            setStatus 0
            for a in names do describeCommand false a
          | ['-', 'V'] :: names =>
            setStatus 0
            for a in names do describeCommand true a
          | inner :: rest =>
            match builtin? inner with
            | some act => act rest
            | none => external fuel inner rest
          | [] => setStatus 0
        | "exec" =>
          match args with
          | [] => setStatus 0
          | inner :: rest =>
            match ← findProgram inner with
            | .error e =>
              let (text, status) := programFault e
              complain ("exec: ".toList ++ inner ++ [':', ' '] ++ text)
              modify fun s => { s with status, flow := .exits, traps := [] }
            | .ok (path, entry) =>
              modify fun s => { s with traps := [] }
              execute fuel path entry inner rest
              if ← running then modify fun s => { s with flow := .exits }
        | _ => external fuel name args

/-- Carries out a program by its name; one that a signal kills is noted. -/
def external : Nat → List Char → List (List Char) → Act Unit
  | 0, _, _ => endless
  | fuel + 1, name, args => do
    match ← findProgram name with
    | .error e =>
      let (text, status) := programFault e
      complain (name ++ [':', ' '] ++ text)
      setStatus status
    | .ok (path, entry) =>
      execute fuel path entry name args
      match (← get).flow with
      | .killed signal =>
        modify fun s => { s with flow := .normal }
        noteKilled signal
      | _ => return

/-- Runs a program by its file. A signal that kills it shows in the flow. -/
def execute : Nat → List Char → Entry → List Char → List (List Char) → Act Unit
  | 0, _, _, _, _ => endless
  | fuel + 1, path, entry, argv0, args => do
    match entry with
    | .data contents _ => inner fuel (lettersOf contents) path args false false
    | .program "sh" =>
      let before ← get
      set (innerShell before argv0 [])
      let call ← shellCall argv0 args
      let options ← get
      set before
      match call with
      | .text text name params => inner fuel text name params options.errexit options.nounset
      | .file script params =>
        match ← openInput script with
        | .ok (.input n) =>
          inner fuel (((← get).world.inputs[n]?).getD []) script params options.errexit
            options.nounset
        | .ok _ => setStatus 0
        | .error e =>
          write 2 (argv0 ++ ": 0: cannot open ".toList ++ script ++ [':', ' '] ++ openFault e ++
            ['\n'])
          setStatus 2
      | .standardInput =>
        let text ← unread 0
        setUnread 0 []
        inner fuel text argv0 [] options.errexit options.nounset
      | .misuse complaint =>
        write 2 (argv0 ++ ": 0: ".toList ++ complaint ++ ['\n'])
        setStatus 2
    | .program "env" =>
      let isOption (a : List Char) : Bool := a.head? == some '-' && 1 < a.length
      match args.find? fun a => isOption a || !a.contains '=' with
      | none =>
        let settings := args.map fun a => (atEquals a).1 ++ '=' :: ((atEquals a).2.getD [])
        let inherited := (← environment).map fun v => v.1 ++ '=' :: v.2
        write 1 ((inherited ++ settings).flatMap (· ++ ['\n']))
        setStatus 0
      | some first =>
        if isOption first then
          write 2 (argv0 ++ ": invalid option -- '".toList ++ (first.drop 1).take 1 ++
            "'\nTry '".toList ++ argv0 ++ " --help' for more information.\n".toList)
          setStatus 125
        else
          let settings := args.takeWhile (·.contains '=')
          let bindings := (← get).bindings
          settings.forM fun a => setVariable (atEquals a).1 ((atEquals a).2.getD []) true
          match ← findProgram first with
          | .ok (path, entry) =>
            execute fuel path entry first (args.drop (settings.length + 1))
          | .error e =>
            write 2 (argv0 ++ ": '".toList ++ first ++ "': ".toList ++ e.description.toList ++
              ['\n'])
            setStatus (if e = .accessDenied then 126 else 127)
          modify fun s => { s with bindings }
    | .program name =>
      if name = "test" ∨ name = "[" then
        let s ← get
        match condition s.world.files s.cwd (if name = "[" then args.dropLast else args) with
        | .ok v => setStatus (if v then 0 else 1)
        | .error e =>
          write 2 (argv0 ++ [':', ' '] ++ e.message ++ ['\n'])
          setStatus 2
      else
        match utility? name with
        | some program => runUtility program argv0 args
        | none => setStatus 127
    | _ => setStatus 126

/-- Runs a script in a shell of its own, with what it has to do at its end. -/
def inner : Nat → List Char → List Char → List (List Char) → Bool → Bool → Act Unit
  | 0, _, _, _, _, _ => endless
  | fuel + 1, text, name, params, errexit, nounset => do
    let before ← get
    set { innerShell before name params with errexit, nounset }
    setVariable "PWD".toList (lettersOf (Place.text before.cwd)) false
    source fuel "" text 1
    atEnd fuel
    let after ← get
    let flow := match after.flow with
      | .killed signal => .killed signal
      | .stopped => .stopped
      | _ => .normal
    set { before with world := after.world, status := after.status, flow }

/-- Carries out what a shell has to do at its end. -/
def atEnd : Nat → Act Unit
  | 0 => endless
  | fuel + 1 => do
    let s ← get
    match s.flow, s.traps.find? fun t => t.1 == 0 with
    | .killed _, _ => return
    | .stopped, _ => return
    | _, some (_, text) =>
      modify fun s => { s with flow := .normal, traps := [] }
      source fuel "" text s.line
      modify fun after => { after with
        status := if after.flow == .exits then after.status else s.status }
    | _, none => return

/-- Carries out the text of a script, line by line. -/
def source : Nat → String → List Char → Nat → Act Unit
  | 0, _, _, _ => endless
  | fuel + 1, who, text, line => do
    let (commands, fault) := readScript text line
    if commands.isEmpty then setStatus 0
    lines fuel commands
    if ← running then
      match fault with
      | some fault =>
        modify fun s => { s with line := fault.line }
        let kind := if fault.message = "Bad substitution" then "" else "Syntax error: "
        abort (who.toList ++ kind.toList ++ fault.message.toList)
      | none => return

/-- Carries out lines in order. -/
def lines : Nat → List Command → Act Unit
  | 0, _ => endless
  | _ + 1, [] => return
  | fuel + 1, line :: more => do
    run fuel line
    if ← running then lines fuel more
end

end LineLint.Host.Shell
