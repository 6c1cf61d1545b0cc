import LineLint.Host.Files
import LineLint.Host.Format

/-!
# Programs of a model machine

The small programs that scripts call. Each takes its arguments, the files and all of its standard
input, and gives what it writes, its status and the time it takes.

* `Given`, `Produced` — what a program works on and what it leaves.
* `scan` — options and operands of an argument list.
* `utility?` — the program of a name.
-/

namespace LineLint.Host

/-- What a program works on. -/
structure Given where
  /-- The name by which the program was called. -/
  name : List Char
  args : List (List Char)
  input : List Char
  files : Files
  cwd : Place
  /-- Whether its output goes to another program. -/
  piped : Bool

/-- What a program leaves. -/
structure Produced where
  out : List Char
  err : List Char
  status : Nat
  /-- The time it takes in nanoseconds, `none` if it never ends. -/
  nanos : Option Nat
  files : Files
  tookInput : Bool

namespace Given

/-- Success with some output. -/
def writes (g : Given) (out : List Char) : Produced := ⟨out, [], 0, some 0, g.files, false⟩

/-- Failure with a complaint. -/
def fails (g : Given) (status : Nat) (complaint : List Char) : Produced :=
  ⟨[], g.name ++ [':', ' '] ++ complaint ++ ['\n'], status, some 0, g.files, false⟩

/-- Failure with a complaint and a hint to the help text. -/
def misused (g : Given) (status : Nat) (complaint : List Char) : Produced :=
  g.fails status (complaint ++ "\nTry '".toList ++ g.name ++
    " --help' for more information.".toList)

/-- The text of a file; a dash stands for standard input. -/
def contents (g : Given) (path : List Char) : Except SystemError (List Char) :=
  if path = ['-'] then .ok g.input
  else
    match g.files.lookup g.cwd (bytesOf path) with
    | .error e => .error e
    | .ok (_, .directory) => .error .isDirectory
    | .ok (_, .data bytes _) => .ok (lettersOf bytes)
    | .ok _ => .ok []

end Given

/-! ## Options -/

/-- The options that a program takes: letters alone, letters with a value, and long names. -/
structure Accepts where
  flags : List Char
  valued : List Char
  long : List (String × Char)

/-- The options given, with their values, and the operands. -/
structure Scanned where
  options : List (Char × List Char)
  operands : List (List Char)

namespace Scanned

/-- Whether an option is given. -/
def has (s : Scanned) (c : Char) : Bool := s.options.any fun o => o.1 == c

end Scanned

/-- Reads the letters after a dash; the last one may want the next argument as its value. -/
def letterOptions (accepts : Accepts) : List Char →
    Except (List Char) (List (Char × List Char) × Option Char)
  | [] => .ok ([], none)
  | c :: rest =>
    if accepts.valued.contains c then
      if rest.isEmpty then .ok ([], some c) else .ok ([(c, rest)], none)
    else if accepts.flags.contains c then do
      let (more, wants) ← letterOptions accepts rest
      return ((c, []) :: more, wants)
    else .error ("invalid option -- '".toList ++ [c, '\''])

/-- Adds options before those found later. -/
def Scanned.add (s : Scanned) (found : List (Char × List Char)) : Scanned :=
  { s with options := found ++ s.options }

/-- Reads an argument list, given the option that still wants a value. -/
def scanFrom (accepts : Accepts) : Option Char → List (List Char) → Except (List Char) Scanned
  | none, [] => .ok ⟨[], []⟩
  | some wants, [] => .error ("option requires an argument -- '".toList ++ [wants, '\''])
  | some wants, value :: rest => do return (← scanFrom accepts none rest).add [(wants, value)]
  | none, ['-', '-'] :: rest => .ok ⟨[], rest⟩
  | none, ('-' :: '-' :: long) :: rest => do
    let name := long.takeWhile (· != '=')
    match accepts.long.find? fun l => l.1.toList == name with
    | some (_, c) =>
      return (← scanFrom accepts none rest).add [(c, (long.dropWhile (· != '=')).drop 1)]
    | none => .error ("unrecognized option '--".toList ++ long ++ ['\''])
  | none, ('-' :: c :: cs) :: rest => do
    let (found, wants) ← letterOptions accepts (c :: cs)
    return (← scanFrom accepts wants rest).add found
  | none, operand :: rest => do
    let more ← scanFrom accepts none rest
    return { more with operands := operand :: more.operands }

/-- Reads an argument list. -/
def scan (accepts : Accepts) (args : List (List Char)) : Except (List Char) Scanned :=
  scanFrom accepts none args

/-- Runs a program on its scanned arguments. -/
def Given.scanned (g : Given) (accepts : Accepts) (status : Nat) (run : Scanned → Produced) :
    Produced :=
  match scan accepts g.args with
  | .error complaint => g.misused status complaint
  | .ok s => run s

/-- A program without options. -/
def Given.operands (g : Given) (run : List (List Char) → Produced) : Produced :=
  g.scanned ⟨[], [], []⟩ 1 fun s => run s.operands

/-! ## Programs -/

/-- Writes its arguments. Options may be `n`, `e` and `E` together. -/
def echoProgram (g : Given) : Produced :=
  let isOption (a : List Char) : Bool :=
    match a with
    | '-' :: c :: cs => (c :: cs).all fun d => d == 'n' || d == 'e' || d == 'E'
    | _ => false
  let options := (g.args.takeWhile isOption).flatten
  let words := Format.spaced (g.args.dropWhile isOption)
  let escapes := (options.filter fun c => c == 'e' || c == 'E').getLast? == some 'e'
  let (text, ended) :=
    if escapes then Format.unescape (words.length + 1) words else (words, false)
  g.writes (if options.contains 'n' || ended then text else text ++ ['\n'])

/-- Writes its arguments in a format. -/
def printfProgram (g : Given) : Produced :=
  match (match g.args with
    | ['-', '-'] :: more => more
    | args => args) with
  | [] => g.misused 1 "missing operand".toList
  | format :: args =>
    let (out, complaints, status) := Format.formatted Format.programWording format args
    { g.writes out with
      err := complaints.flatMap fun c => g.name ++ [':', ' '] ++ c ++ ['\n']
      status := min status 1 }

/-- The texts of files in order, with a complaint about each that cannot be read. -/
def gather (g : Given) (complaint : List Char → SystemError → List Char)
    (paths : List (List Char)) : List (List Char × List Char) × List Char :=
  let paths := if paths.isEmpty then [['-']] else paths
  paths.foldl
    (fun (texts, err) path =>
      match g.contents path with
      | .ok text => (texts ++ [(path, text)], err)
      | .error e => (texts, err ++ g.name ++ [':', ' '] ++ complaint path e ++ ['\n']))
    ([], [])

/-- Whether operands make a program read its standard input. -/
def readsInput (paths : List (List Char)) : Bool := paths.isEmpty || paths.contains ['-']

/-- A path and what is wrong with it. -/
def plainComplaint (path : List Char) (e : SystemError) : List Char :=
  path ++ [':', ' '] ++ e.description.toList

/-- Writes files one after the other. -/
def catProgram (g : Given) : Produced :=
  g.scanned ⟨['u'], [], []⟩ 1 fun s =>
    let (texts, err) := gather g plainComplaint s.operands
    { g.writes (texts.flatMap Prod.snd) with
      err
      status := if err.isEmpty then 0 else 1
      tookInput := readsInput s.operands }

/-- A span of time in nanoseconds: a decimal number and possibly a unit. -/
def interval? (s : List Char) : Option Nat :=
  let whole := s.takeWhile Char.isDigit
  let rest := s.dropWhile Char.isDigit
  let (fraction, rest) := match rest with
    | '.' :: after => (after.takeWhile Char.isDigit, after.dropWhile Char.isDigit)
    | _ => ([], rest)
  let unit? : Option Nat := match rest with
    | [] => some 1
    | ['s'] => some 1
    | ['m'] => some 60
    | ['h'] => some 3600
    | ['d'] => some 86400
    | _ => none
  if whole.isEmpty && fraction.isEmpty then none
  else unit?.map fun unit =>
    let n := (takeDigits 10 0 (whole ++ fraction)).1
    n * unit * Nat.pow 10 9 / Nat.pow 10 fraction.length

/-- Waits. -/
def sleepProgram (g : Given) : Produced :=
  g.operands fun operands =>
    if operands.isEmpty then g.misused 1 "missing operand".toList
    else
      match operands.find? fun o => (interval? o).isNone with
      | some bad =>
        if bad = "infinity".toList then { g.writes [] with nanos := none }
        else g.misused 1 ("invalid time interval '".toList ++ bad ++ ['\''])
      | none => { g.writes [] with nanos := some ((operands.filterMap interval?).foldr (· + ·) 0) }

/-- The last name of a path, without slashes after it. -/
def lastPart (path : List Char) : List Char :=
  let bare := (path.reverse.dropWhile (· == '/')).reverse
  if bare.isEmpty then (if path.isEmpty then [] else ['/'])
  else (bare.reverse.takeWhile (· != '/')).reverse

/-- Writes the last name of a path, possibly without an ending. -/
def basenameProgram (g : Given) : Produced :=
  g.operands fun
    | [] => g.misused 1 "missing operand".toList
    | [path] => g.writes (lastPart path ++ ['\n'])
    | [path, ending] =>
      let last := lastPart path
      let cut := if ending.isSuffixOf last && last != ending
        then last.take (last.length - ending.length) else last
      g.writes (cut ++ ['\n'])
    | _ :: _ :: extra :: _ => g.misused 1 ("extra operand '".toList ++ extra ++ ['\''])

/-- Writes paths without their last names. -/
def dirnameProgram (g : Given) : Produced :=
  let noSlashes (s : List Char) : List Char := s.dropWhile (· == '/')
  let directory (path : List Char) : List Char :=
    let above := noSlashes ((noSlashes path.reverse).dropWhile (· != '/'))
    if above.isEmpty then (if path.head? == some '/' then ['/'] else ['.']) else above.reverse
  g.operands fun
    | [] => g.misused 1 "missing operand".toList
    | paths => g.writes (paths.flatMap fun p => directory p ++ ['\n'])

/-- Turns `-5` into `-n 5`. -/
def numbered (args : List (List Char)) : List (List Char) :=
  args.flatMap fun
    | '-' :: c :: cs =>
      if (c :: cs).all Char.isDigit then [['-', 'n'], c :: cs] else ['-' :: c :: cs]
    | a => [a]

/-- How much of a text to take: so many lines or bytes, from the start or the end, perhaps all but
them. -/
structure Amount where
  bytes : Bool
  sign : Option Char
  count : Nat

/-- The amount that options ask for. -/
def amount? (s : Scanned) : Except (List Char) Amount :=
  let bytes := s.options.getLast?.any fun o => o.1 == 'c'
  match s.options.getLast? with
  | none => .ok ⟨false, none, 10⟩
  | some (_, text) =>
    let (sign, digits) := match text with
      | '+' :: rest => (some '+', rest)
      | '-' :: rest => (some '-', rest)
      | _ => (none, text)
    if digits.isEmpty || digits.any (fun c => !c.isDigit) then
      let units := if bytes then "bytes" else "lines"
      .error ("invalid number of ".toList ++ units.toList ++ ": '".toList ++ text ++ ['\''])
    else .ok ⟨bytes, sign, (takeDigits 10 0 digits).1⟩

/-- The first or last part of each file. -/
def partProgram (select : Amount → List (List Char) → List (List Char)) (g : Given) : Produced :=
  let g := { g with args := numbered g.args }
  g.scanned ⟨['q'], ['n', 'c'], [("lines", 'n'), ("bytes", 'c')]⟩ 1 fun s =>
    match amount? { s with options := s.options.filter fun o => o.1 != 'q' } with
    | .error complaint => g.fails 1 complaint
    | .ok amount =>
      let cannotOpen (path : List Char) (e : SystemError) : List Char :=
        "cannot open '".toList ++ path ++ "' for reading: ".toList ++ e.description.toList
      let (texts, err) := gather g cannotOpen s.operands
      let part (text : List Char) : List Char :=
        (select amount (if amount.bytes then text.map fun c => [c] else linesOf text)).flatten
      let headed (entry : List Char × List Char) : List Char :=
        "==> ".toList ++ entry.1 ++ " <==\n".toList ++ part entry.2
      let out := if 1 < s.operands.length && !s.has 'q'
        then ((texts.map headed).intersperse ['\n']).flatten
        else texts.flatMap fun entry => part entry.2
      { g.writes out with
        err
        status := if err.isEmpty then 0 else 1
        tookInput := readsInput s.operands }

/-- Writes the first lines of files. -/
def headProgram : Given → Produced :=
  partProgram fun amount units =>
    if amount.sign = some '-' then units.take (units.length - amount.count)
    else units.take amount.count

/-- Writes the last lines of files. -/
def tailProgram : Given → Produced :=
  partProgram fun amount units =>
    if amount.sign = some '+' then units.drop (amount.count - 1)
    else units.drop (units.length - amount.count)

/-- How many words a text has. -/
def countWords (s : List Char) : Nat :=
  let blank (c : Char) : Bool := [' ', '\t', '\n', '\x0b', '\x0c', '\r'].contains c
  (s.foldl (fun (n, inside) c =>
    if blank c then (n, false) else (if inside then n else n + 1, true)) (0, false)).1

/-- Counts lines, words and bytes. -/
def wcProgram (g : Given) : Produced :=
  g.scanned ⟨['l', 'w', 'c', 'm'], [], []⟩ 1 fun s =>
    let (texts, err) := gather g plainComplaint s.operands
    let all := s.options.isEmpty
    let counts (text : List Char) : List Nat :=
      (if all || s.has 'l' then [text.count '\n'] else []) ++
      (if all || s.has 'w' then [countWords text] else []) ++
      (if all || s.has 'c' || s.has 'm' then [text.length] else [])
    let rows := texts.map fun (path, text) => (counts text, path)
    let total := texts.flatMap Prod.snd
    let rows := if 1 < s.operands.length then rows ++ [(counts total, "total".toList)] else rows
    let widest := (rows.flatMap Prod.fst).foldl (fun w n => max w (decimal n).length) 1
    let single := rows.length = 1 && (rows.all fun r => r.1.length = 1)
    let width := if single then 1 else if readsInput s.operands then 7 else widest
    let line (row : List Nat × List Char) : List Char :=
      Format.spaced (row.1.map fun n => Format.pad false ' ' width (decimal n)) ++
      (if s.operands.isEmpty then [] else ' ' :: row.2) ++ ['\n']
    { g.writes (rows.flatMap line) with
      err
      status := if err.isEmpty then 0 else 1
      tookInput := readsInput s.operands }

/-- Numbers from a first to a last in steps, at most so many. -/
def stepsFrom (step last : Int) : Nat → Int → List Int
  | 0, _ => []
  | fuel + 1, n =>
    if (0 < step ∧ last < n) ∨ (step < 0 ∧ n < last) then []
    else n :: stepsFrom step last fuel (n + step)

/-- Writes a range of whole numbers. -/
def seqProgram (g : Given) : Produced :=
  let numeric (a : List Char) : Bool := (integer? a).isSome
  let options := g.args.takeWhile fun a => a.head? == some '-' && !numeric a
  let operands := g.args.drop options.length
  if let some bad := options.find? fun o => o != ['-', 'w'] then
    g.misused 1 ("invalid option -- '".toList ++ (bad.drop 1).take 1 ++ ['\''])
  else if let some bad := operands.find? fun o => !numeric o then
    g.misused 1 ("invalid floating point argument: '".toList ++ bad ++ ['\''])
  else
    let range? : Option (Int × Int × Int) := match operands.filterMap integer? with
      | [last] => some (1, 1, last)
      | [first, last] => some (first, 1, last)
      | [first, step, last] => some (first, step, last)
      | _ => none
    match range?, operands[3]? with
    | _, some extra => g.misused 1 ("extra operand '".toList ++ extra ++ ['\''])
    | none, none => g.misused 1 "missing operand".toList
    | some (first, step, last), none =>
      if step = 0 then g.misused 1 "invalid Zero increment value: '0'".toList
      else
        let texts := (stepsFrom step last ((last - first).natAbs + 1) first).map decimalInt
        let width := if options.isEmpty then 0
          else texts.foldl (fun w t => max w t.length) 0
        g.writes (texts.flatMap fun t => Format.pad false '0' width t ++ ['\n'])

/-- The characters of a set: escapes and ranges written out. -/
def characterSet (s : List Char) : List Char :=
  let rec spread : List Char → List Char
    | a :: '-' :: b :: rest =>
      (List.range (b.toNat + 1 - a.toNat)).map (fun n => Char.ofNat (a.toNat + n)) ++ spread rest
    | a :: rest => a :: spread rest
    | [] => []
  spread (Format.unescape (s.length + 1) s).1

/-- Replaces or deletes characters. -/
def trProgram (g : Given) : Produced :=
  g.scanned ⟨['d', 's'], [], []⟩ 1 fun s =>
    let took (p : Produced) : Produced := { p with tookInput := true }
    match s.operands with
    | [] => g.misused 1 "missing operand".toList
    | [set] =>
      if s.has 'd' then
        took (g.writes (g.input.filter fun c => !(characterSet set).contains c))
      else g.misused 1 ("missing operand after '".toList ++ set ++ ['\''])
    | source :: target :: _ =>
      let source := characterSet source
      let target := characterSet target
      let change (c : Char) : Char :=
        match source.idxOf? c with
        | some i => (target[i]?).getD (target.getLastD c)
        | none => c
      took (g.writes (g.input.map change))

/-- Opens a file for writing: the place where it is to stand. -/
def writable (files : Files) (cwd : Place) (path : List Char) : Except SystemError (Option Place) :=
  match files.lookup cwd (bytesOf path) with
  | .ok (_, .directory) => .error .isDirectory
  | .ok (_, .sink) => .ok none
  | .ok (place, .data _ _) => .ok (some place)
  | .ok _ => .error .accessDenied
  | .error e =>
    match files.locate cwd (bytesOf path) with
    | .error e => .error e
    | .ok place =>
      match files.get? place.dropLast with
      | some .directory => .ok (some place)
      | some _ => .error .notDirectory
      | none => .error e

/-- Copies its input to its output and to files. -/
def teeProgram (g : Given) : Produced :=
  g.scanned ⟨['a', 'i'], [], []⟩ 1 fun s =>
    let start : Produced := { g.writes g.input with tookInput := true }
    s.operands.foldl
      (fun p path =>
        match writable p.files g.cwd path with
        | .ok (some place) => { p with files := p.files.put place (.data (bytesOf g.input) false) }
        | .ok none => p
        | .error e =>
          { p with
            err := p.err ++ g.name ++ [':', ' '] ++ plainComplaint path e ++ ['\n']
            status := 1 })
      start

/-- Creates files that are not there. -/
def touchProgram (g : Given) : Produced :=
  g.operands fun operands =>
    if operands.isEmpty then g.misused 1 "missing file operand".toList
    else operands.foldl
      (fun p path =>
        match g.files.lookup g.cwd (bytesOf path), writable p.files g.cwd path with
        | .ok _, _ => p
        | _, .ok (some place) => { p with files := p.files.put place (.data [] false) }
        | _, .ok none => p
        | _, .error e =>
          { p with
            err := p.err ++ g.name ++ ": cannot touch '".toList ++ path ++ "': ".toList ++
              e.description.toList ++ ['\n']
            status := 1 })
      (g.writes [])

/-- Creates directories. -/
def mkdirProgram (g : Given) : Produced :=
  g.scanned ⟨['p'], [], []⟩ 1 fun s =>
    if s.operands.isEmpty then g.misused 1 "missing operand".toList
    else s.operands.foldl
      (fun p path =>
        let refused (e : SystemError) : Produced :=
          { p with
            err := p.err ++ g.name ++ ": cannot create directory '".toList ++ path ++
              "': ".toList ++ e.description.toList ++ ['\n']
            status := 1 }
        match p.files.lookup g.cwd (bytesOf path) with
        | .ok (_, .directory) => if s.has 'p' then p else refused .fileExists
        | .ok _ => refused .fileExists
        | .error _ =>
          match writable p.files g.cwd path with
          | .ok (some place) => { p with files := p.files.put place .directory }
          | .ok none => refused .fileExists
          | .error e => refused e)
      (g.writes [])

/-- How much a program that never ends writes before its reader is gone. -/
def pipeSize : Nat := Nat.pow 2 17

/-- Writes a line again and again. -/
def yesProgram (g : Given) : Produced :=
  let line := (if g.args.isEmpty then ['y'] else Format.spaced g.args) ++ ['\n']
  if g.piped then
    { g.writes (List.replicate (pipeSize / line.length + 1) line).flatten with status := 141 }
  else { g.writes [] with nanos := none }

/-- Writes the current directory. -/
def pwdProgram (g : Given) : Produced :=
  g.scanned ⟨['L', 'P'], [], []⟩ 1 fun _ => g.writes (lettersOf (Place.text g.cwd) ++ ['\n'])

/-- The program of a name. -/
def utility? (name : String) : Option (Given → Produced) :=
  match name with
  | "true" => some fun g => g.writes []
  | "false" => some fun g => { g.writes [] with status := 1 }
  | "echo" => some echoProgram
  | "printf" => some printfProgram
  | "cat" => some catProgram
  | "sleep" => some sleepProgram
  | "basename" => some basenameProgram
  | "dirname" => some dirnameProgram
  | "head" => some headProgram
  | "tail" => some tailProgram
  | "wc" => some wcProgram
  | "seq" => some seqProgram
  | "tr" => some trProgram
  | "tee" => some teeProgram
  | "touch" => some touchProgram
  | "mkdir" => some mkdirProgram
  | "yes" => some yesProgram
  | "pwd" => some pwdProgram
  | _ => none

end LineLint.Host
