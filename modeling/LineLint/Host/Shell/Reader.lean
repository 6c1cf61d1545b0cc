import LineLint.Host.Shell.Script

/-!
# Reading shell scripts

A recursive descent over the characters of a script. Every function has a bound on the number of
calls, which the length of the script gives.

* `ScriptFault` — a script that cannot be read.
* `readScript` — reads a whole script.
-/

namespace LineLint.Host.Shell

/-- A script that cannot be read: the line, and what is wrong. -/
structure ScriptFault where
  line : Nat
  message : String

/-- What is left of a script, and the line it is on. -/
structure Cursor where
  rest : List Char
  line : Nat

/-- A step of reading. -/
abbrev Reading := StateT Cursor (Except ScriptFault)

/-- Gives up. -/
def unreadable {α : Type} (message : String) : Reading α := fun c => .error ⟨c.line, message⟩

/-- The next character. -/
def peek : Reading (Option Char) := do return (← get).rest.head?

/-- Passes over the next character. -/
def skip : Reading Unit :=
  modify fun c =>
    match c.rest with
    | [] => c
    | '\n' :: rest => ⟨rest, c.line + 1⟩
    | _ :: rest => ⟨rest, c.line⟩

/-- Whether the rest starts with some characters. -/
def ahead (s : String) : Reading Bool := do return s.toList.isPrefixOf (← get).rest

/-- Passes over blanks, comments and continued lines, and over line ends if asked to. -/
def gapFrom (lineEnds : Bool) : Bool → List Char → Nat → Cursor
  | _, [], line => ⟨[], line⟩
  | true, '\n' :: rest, line =>
    if lineEnds then gapFrom lineEnds false rest (line + 1) else ⟨'\n' :: rest, line⟩
  | true, _ :: rest, line => gapFrom lineEnds true rest line
  | false, '\\' :: '\n' :: rest, line => gapFrom lineEnds false rest (line + 1)
  | false, '#' :: rest, line => gapFrom lineEnds true rest line
  | false, '\n' :: rest, line =>
    if lineEnds then gapFrom lineEnds false rest (line + 1) else ⟨'\n' :: rest, line⟩
  | false, c :: rest, line =>
    if c = ' ' ∨ c = '\t' then gapFrom lineEnds false rest line else ⟨c :: rest, line⟩

/-- Passes over blanks. -/
def gap : Reading Unit := modify fun c => gapFrom false false c.rest c.line

/-- Passes over blanks and line ends. -/
def wideGap : Reading Unit := modify fun c => gapFrom true false c.rest c.line

/-- Whether a character can begin a name. -/
def beginsName (c : Char) : Bool := c.isAlpha || c == '_'

/-- Whether a character can stand in a name. -/
def inName (c : Char) : Bool := c.isAlphanum || c == '_'

/-- Takes the characters of a class. -/
def takeClass (p : Char → Bool) : Reading (List Char) := do
  let c ← get
  set (⟨c.rest.dropWhile p, c.line⟩ : Cursor)
  return c.rest.takeWhile p

/-- Whether a character ends an unquoted word. -/
def endsWord (c : Char) : Bool := [' ', '\t', '\n', ';', '&', '|', '<', '>', '(', ')'].contains c

/-- Takes quoted text up to and with a closing quote. -/
def singleQuoted : Reading (List Char) := do
  let c ← get
  let inside := c.rest.takeWhile (· != '\'')
  match c.rest.dropWhile (· != '\'') with
  | _ :: rest =>
    set (⟨rest, c.line + inside.count '\n'⟩ : Cursor)
    return inside
  | [] => unreadable "Unterminated quoted string"

/-- The text between backquotes: a backslash keeps the next character from ending it, and is dropped
before a dollar, a backquote or another backslash, and between quotes also before a quote. -/
def backquoted (quoted : Bool) : List Char → Option (List Char × List Char)
  | [] => none
  | '`' :: rest => some ([], rest)
  | '\\' :: c :: rest =>
    (backquoted quoted rest).map fun (inside, after) =>
      if c = '$' ∨ c = '`' ∨ c = '\\' ∨ (quoted ∧ c = '"') then (c :: inside, after)
      else ('\\' :: c :: inside, after)
  | c :: rest => (backquoted quoted rest).map fun (inside, after) => (c :: inside, after)

/-- Whether the rest starts with a reserved word as a whole word. -/
def aheadWord (word : String) : Reading Bool := do
  let c ← get
  if word.toList.isPrefixOf c.rest then
    match (c.rest.drop word.length).head? with
    | none => return true
    | some d => return endsWord d
  else return false

/-- The operators between commands, longer ones first. -/
def commandSigns : List String := [";;", "&&", "||", ";", "&", "|", "(", ")", "<", ">"]

/-- The words that end a list of commands. -/
def closingWords : List String := ["then", "else", "elif", "fi", "do", "done", "esac", "\x7d"]

/-- The words that structure commands. -/
def reservedWords : List String :=
  closingWords ++ ["if", "while", "until", "for", "case", "in", "!", "\x7b"]

/-- What stands first in a text, as a complaint names it. -/
def tokenShown (s : List Char) : String :=
  match s with
  | [] => "end of file"
  | '\n' :: _ => "newline"
  | _ =>
    match commandSigns.find? fun sign => sign.toList.isPrefixOf s with
    | some sign => "\"" ++ sign ++ "\""
    | none =>
      let word := String.ofList (s.takeWhile fun c => !endsWord c)
      if reservedWords.contains word then "\"" ++ word ++ "\"" else "word"

/-- Gives up because of what comes next. -/
def unexpectedHere {α : Type} (expecting : String) : Reading α := do
  let wanted := if expecting.isEmpty then "" else " (expecting \"" ++ expecting ++ "\")"
  unreadable (tokenShown (← get).rest ++ " unexpected" ++ wanted)

/-- Passes over a reserved word. -/
def passWord (word : String) : Reading Unit := do
  wideGap
  if ← aheadWord word then modify fun c => ⟨c.rest.drop word.length, c.line⟩
  else unexpectedHere word

/-- Cuts off the first line, without its end. -/
def firstLine (s : List Char) : List Char × List Char :=
  (s.takeWhile (· != '\n'), (s.dropWhile (· != '\n')).drop 1)

/-- Takes lines up to one that is a given word: the text of those before it and what follows. -/
def untilLine (word : List Char) (dropTabs : Bool) : Nat → List Char → List Char × List Char
  | 0, s => ([], s)
  | fuel + 1, s =>
    if s.isEmpty then ([], [])
    else
      let (line, rest) := firstLine s
      let line := if dropTabs then line.dropWhile (· == '\t') else line
      if line = word then ([], rest)
      else
        let (body, after) := untilLine word dropTabs fuel rest
        (line ++ '\n' :: body, after)

/-- Splits a word into the name and value of an assignment, if it is one. -/
def assignment? (word : Word) : Option (List Char × Word) :=
  match word with
  | .text s false :: more =>
    match s with
    | c :: _ =>
      if beginsName c then
        match s.dropWhile inName with
        | '=' :: value =>
          some (s.takeWhile inName, if value.isEmpty then more else .text value false :: more)
        | _ => none
      else none
    | [] => none
  | _ => none

/-- Adds unquoted text to the parts of a word, in reverse order, joining it with text before it. -/
def pushText (c : Char) : List Part → List Part
  | .text s false :: more => .text (s ++ [c]) false :: more
  | parts => .text [c] false :: parts

mutual
/-- Reads what follows a dollar sign. -/
def dollar : Nat → Bool → Reading Part
  | 0, _ => unreadable "too deeply nested"
  | fuel + 1, quoted => do
    match (← get).rest with
    | '(' :: '(' :: _ =>
      skip; skip
      let parts ← untilClose fuel 0 []
      return .arithmetic parts quoted
    | '(' :: _ =>
      skip
      let body ← commandList fuel
      wideGap
      match ← peek with
      | some ')' =>
        skip
        return .substitution body quoted
      | _ => unexpectedHere ")"
    | '\x7b' :: _ =>
      skip
      braced fuel quoted
    | c :: _ =>
      if beginsName c then return .param (← takeClass inName) quoted
      else if c.isDigit ∨ ['@', '*', '#', '?', '$', '!', '-'].contains c then
        skip
        return .param [c] quoted
      else return .text ['$'] quoted
    | [] => return .text ['$'] quoted

/-- Reads a parameter between braces. -/
def braced : Nat → Bool → Reading Part
  | 0, _ => unreadable "too deeply nested"
  | fuel + 1, quoted => do
    let close (part : Part) : Reading Part := do
      match ← peek with
      | some '\x7d' =>
        skip
        return part
      | none => unreadable "Missing '\x7d'"
      | _ => unreadable "Bad substitution"
    let nameOf : Reading (List Char) := do
      match ← peek with
      | some c =>
        if beginsName c then takeClass inName
        else if c.isDigit then takeClass Char.isDigit
        else if ['@', '*', '#', '?', '$', '!', '-'].contains c then
          skip
          return [c]
        else unreadable "Bad substitution"
      | none => unreadable "Bad substitution"
    if (← ahead "#") && !(← ahead "#\x7d") then
      skip
      let name ← nameOf
      close (.length name quoted)
    else
      let name ← nameOf
      match (← get).rest with
      | '\x7d' :: _ => close (.param name quoted)
      | '#' :: '#' :: _ =>
        skip; skip
        close (.strip name false true (← bracedWord fuel []) quoted)
      | '#' :: _ =>
        skip
        close (.strip name false false (← bracedWord fuel []) quoted)
      | '%' :: '%' :: _ =>
        skip; skip
        close (.strip name true true (← bracedWord fuel []) quoted)
      | '%' :: _ =>
        skip
        close (.strip name true false (← bracedWord fuel []) quoted)
      | c :: rest =>
        let alsoEmpty := c == ':'
        let mark := if alsoEmpty then rest.head? else some c
        if alsoEmpty then skip
        match mark with
        | some '-' => skip; close (.fallback name .use alsoEmpty (← bracedWord fuel []) quoted)
        | some '=' => skip; close (.fallback name .assign alsoEmpty (← bracedWord fuel []) quoted)
        | some '+' =>
          skip
          close (.fallback name .alternative alsoEmpty (← bracedWord fuel []) quoted)
        | some '?' => skip; close (.fallback name .complain alsoEmpty (← bracedWord fuel []) quoted)
        | _ => unreadable "Bad substitution"
      | [] => unreadable "Missing '\x7d'"

/-- Reads the word of a parameter up to its closing brace. -/
def bracedWord : Nat → List Part → Reading (List Part)
  | 0, _ => unreadable "too deeply nested"
  | fuel + 1, parts => do
    match ← peek with
    | none => unreadable "Missing '\x7d'"
    | some '\x7d' => return parts.reverse
    | some c =>
      let more ← wordPart fuel c parts
      bracedWord fuel more

/-- Reads the body of an arithmetic expansion up to its two closing brackets. -/
def untilClose : Nat → Nat → List Part → Reading (List Part)
  | 0, _, _ => unreadable "too deeply nested"
  | fuel + 1, depth, parts => do
    match (← get).rest with
    | [] => unreadable "Missing '))'"
    | ')' :: ')' :: _ =>
      if depth = 0 then
        skip; skip
        return parts.reverse
      else
        skip
        untilClose fuel (depth - 1) (pushText ')' parts)
    | ')' :: _ =>
      skip
      untilClose fuel (depth - 1) (pushText ')' parts)
    | '(' :: _ =>
      skip
      untilClose fuel (depth + 1) (pushText '(' parts)
    | '$' :: _ =>
      skip
      let part ← dollar fuel false
      untilClose fuel depth (part :: parts)
    | c :: _ =>
      skip
      untilClose fuel depth (pushText c parts)

/-- Reads one part of a word that starts with a given character. -/
def wordPart : Nat → Char → List Part → Reading (List Part)
  | 0, _, _ => unreadable "too deeply nested"
  | fuel + 1, c, parts => do
    skip
    if c = '\'' then return .text (← singleQuoted) true :: parts
    else if c = '"' then
      let inside ← doubleQuoted fuel [] []
      return (if inside.isEmpty then [.text [] true] else inside).reverse ++ parts
    else if c = '$' then return (← dollar fuel false) :: parts
    else if c = '`' then return (← backquote fuel false) :: parts
    else if c = '\\' then
      match ← peek with
      | none => return .text ['\\'] true :: parts
      | some '\n' =>
        skip
        return parts
      | some d =>
        skip
        return .text [d] true :: parts
    else return pushText c parts

/-- Reads a command substitution between backquotes. -/
def backquote : Nat → Bool → Reading Part
  | 0, _ => unreadable "too deeply nested"
  | fuel + 1, quoted => do
    let c ← get
    match backquoted quoted c.rest with
    | none => unreadable "EOF in backquote substitution"
    | some (inside, after) =>
      set (⟨inside, c.line⟩ : Cursor)
      let body ← commandList fuel
      set (⟨after, c.line⟩ : Cursor)
      return .substitution body quoted

/-- Reads text between double quotes up to and with the closing one: finished parts in order, then
the characters of the part under way in reverse. -/
def doubleQuoted : Nat → List Part → List Char → Reading (List Part)
  | 0, _, _ => unreadable "too deeply nested"
  | fuel + 1, parts, current => do
    let flushed := if current.isEmpty then parts else parts ++ [.text current.reverse true]
    match (← get).rest with
    | [] => unreadable "Unterminated quoted string"
    | '"' :: _ =>
      skip
      return flushed
    | '\\' :: d :: _ =>
      skip; skip
      if d = '\n' then doubleQuoted fuel parts current
      else if d = '$' ∨ d = '`' ∨ d = '"' ∨ d = '\\' then doubleQuoted fuel parts (d :: current)
      else doubleQuoted fuel parts (d :: '\\' :: current)
    | '$' :: _ =>
      skip
      let part ← dollar fuel true
      doubleQuoted fuel (flushed ++ [part]) []
    | '`' :: _ =>
      skip
      let part ← backquote fuel true
      doubleQuoted fuel (flushed ++ [part]) []
    | c :: _ =>
      skip
      doubleQuoted fuel parts (c :: current)

/-- Reads the expansions in a text to its end: finished parts in order, then the characters of the
part under way in reverse. -/
def hereText : Nat → List Part → List Char → Reading (List Part)
  | 0, _, _ => unreadable "too deeply nested"
  | fuel + 1, parts, current => do
    let flushed := if current.isEmpty then parts else parts ++ [.text current.reverse true]
    match (← get).rest with
    | [] => return flushed
    | '\\' :: d :: _ =>
      skip; skip
      if d = '\n' then hereText fuel parts current
      else if d = '$' ∨ d = '`' ∨ d = '\\' then hereText fuel parts (d :: current)
      else hereText fuel parts (d :: '\\' :: current)
    | '$' :: _ =>
      skip
      let part ← dollar fuel true
      hereText fuel (flushed ++ [part]) []
    | '`' :: _ =>
      skip
      let part ← backquote fuel true
      hereText fuel (flushed ++ [part]) []
    | c :: _ =>
      skip
      hereText fuel parts (c :: current)

/-- Reads the end mark of a text that stands in the following lines, and that text, which is taken
out of what is left to read. -/
def hereDocument : Nat → Bool → Reading Word
  | 0, _ => unreadable "too deeply nested"
  | fuel + 1, dropTabs => do
    gap
    let mark ← wordFrom fuel []
    let plain := mark.all fun
      | .text _ false => true
      | _ => false
    let word := mark.flatMap fun
      | .text s _ => s
      | _ => []
    let c ← get
    let (line, rest) := firstLine c.rest
    let (body, after) := untilLine word dropTabs (rest.length + 1) rest
    if plain then
      set (⟨body, c.line + 1⟩ : Cursor)
      let parts ← hereText fuel [] []
      set (⟨line ++ '\n' :: after, c.line⟩ : Cursor)
      return parts
    else
      set (⟨line ++ '\n' :: after, c.line⟩ : Cursor)
      return [.text body true]

/-- Reads a word; there has to be at least one character of it. -/
def wordFrom : Nat → List Part → Reading Word
  | 0, _ => unreadable "too deeply nested"
  | fuel + 1, parts => do
    match ← peek with
    | none => return parts.reverse
    | some c =>
      if endsWord c then return parts.reverse
      else
        let parts ← wordPart fuel c parts
        wordFrom fuel parts

/-- Reads a redirection, if there is one. -/
def redirect? : Nat → Reading (Option Redirect)
  | 0 => unreadable "too deeply nested"
  | fuel + 1 => do
    let c ← get
    let digits := c.rest.takeWhile Char.isDigit
    let after := c.rest.dropWhile Char.isDigit
    let fd? : Option Nat :=
      if digits.isEmpty then none
      else some (digits.foldl (fun n d => n * 10 + (d.toNat - 48)) 0)
    let target (fallback : Nat) (kind : RedirectKind) (rest : List Char) :
        Reading (Option Redirect) := do
      set (⟨rest, c.line⟩ : Cursor)
      gap
      let word ← wordFrom fuel []
      if word.isEmpty then unexpectedHere ""
      else return some (.mk (fd?.getD fallback) kind word)
    match after with
    | '>' :: '>' :: rest => target 1 .append rest
    | '>' :: '&' :: rest => target 1 .duplicate rest
    | '>' :: '|' :: rest => target 1 .output rest
    | '>' :: rest => target 1 .output rest
    | '<' :: '&' :: rest => target 0 .duplicate rest
    | '<' :: '<' :: '-' :: rest =>
      set (⟨rest, c.line⟩ : Cursor)
      return some (.mk (fd?.getD 0) .here (← hereDocument fuel true))
    | '<' :: '<' :: rest =>
      set (⟨rest, c.line⟩ : Cursor)
      return some (.mk (fd?.getD 0) .here (← hereDocument fuel false))
    | '<' :: rest => target 0 .input rest
    | _ => return none

/-- Reads the redirections after a compound command. -/
def redirects : Nat → List Redirect → Reading (List Redirect)
  | 0, _ => unreadable "too deeply nested"
  | fuel + 1, found => do
    gap
    match ← redirect? fuel with
    | some r => redirects fuel (found ++ [r])
    | none => return found

/-- Reads the words and redirections of a simple command. -/
def simpleFrom : Nat → Nat → List (List Char × Word) → List Word → List Redirect → Reading Command
  | 0, _, _, _, _ => unreadable "too deeply nested"
  | fuel + 1, line, assigns, words, found => do
    gap
    match ← redirect? fuel with
    | some r => simpleFrom fuel line assigns words (found ++ [r])
    | none =>
      let word ← wordFrom fuel []
      if word.isEmpty then
        if assigns.isEmpty && words.isEmpty && found.isEmpty then unexpectedHere ""
        else return .simple line assigns words found
      else
        match words, assignment? word with
        | [], some assign => simpleFrom fuel line (assigns ++ [assign]) words found
        | _, _ => simpleFrom fuel line assigns (words ++ [word]) found

/-- Reads the words of a `for` loop up to the end of the line. -/
def wordList : Nat → List Word → Reading (List Word)
  | 0, _ => unreadable "too deeply nested"
  | fuel + 1, words => do
    gap
    let word ← wordFrom fuel []
    if word.isEmpty then return words else wordList fuel (words ++ [word])

/-- Reads the patterns of a clause up to its closing bracket. -/
def patterns : Nat → List Word → Reading (List Word)
  | 0, _ => unreadable "too deeply nested"
  | fuel + 1, found => do
    gap
    let word ← wordFrom fuel []
    gap
    match ← peek with
    | some '|' =>
      skip
      patterns fuel (found ++ [word])
    | some ')' =>
      skip
      return found ++ [word]
    | _ => unexpectedHere ")"

/-- Reads the clauses of a `case` up to its end. -/
def clauses : Nat → List (List Word × Command) → Reading (List (List Word × Command))
  | 0, _ => unreadable "too deeply nested"
  | fuel + 1, found => do
    wideGap
    if ← aheadWord "esac" then
      passWord "esac"
      return found
    else
      if (← peek) == some '(' then skip
      let ps ← patterns fuel []
      let body ← commandList fuel
      wideGap
      if ← ahead ";;" then
        skip; skip
        clauses fuel (found ++ [(ps, body)])
      else
        passWord "esac"
        return found ++ [(ps, body)]

/-- Reads what follows the condition of a branch. -/
def branchRest : Nat → Command → Reading Command
  | 0, _ => unreadable "too deeply nested"
  | fuel + 1, condition => do
    passWord "then"
    let yes ← commandList fuel
    wideGap
    if ← aheadWord "elif" then
      passWord "elif"
      let condition' ← commandList fuel
      let no ← branchRest fuel condition'
      return .branch condition yes no
    else if ← aheadWord "else" then
      passWord "else"
      let no ← commandList fuel
      passWord "fi"
      return .branch condition yes no
    else
      passWord "fi"
      return .branch condition yes .nothing

/-- Adds redirections to a compound command. -/
def withRedirects : Nat → Command → Reading Command
  | 0, _ => unreadable "too deeply nested"
  | fuel + 1, command => do
    let found ← redirects fuel []
    if found.isEmpty then return command else return .group command found

/-- Reads one command. -/
def command : Nat → Reading Command
  | 0 => unreadable "too deeply nested"
  | fuel + 1 => do
    gap
    let line := (← get).line
    if (← peek) == some '(' then
      skip
      let body ← commandList fuel
      wideGap
      match ← peek with
      | some ')' =>
        skip
        return .subshell body (← redirects fuel [])
      | _ => unexpectedHere ")"
    else if ← aheadWord "\x7b" then
      skip
      let body ← commandList fuel
      passWord "\x7d"
      return .group body (← redirects fuel [])
    else if ← aheadWord "if" then
      passWord "if"
      let condition ← commandList fuel
      let branch ← branchRest fuel condition
      withRedirects fuel branch
    else if (← aheadWord "while") || (← aheadWord "until") then
      let untilTrue ← aheadWord "until"
      passWord (if untilTrue then "until" else "while")
      let condition ← commandList fuel
      passWord "do"
      let body ← commandList fuel
      passWord "done"
      withRedirects fuel (.loop untilTrue condition body)
    else if ← aheadWord "for" then
      passWord "for"
      gap
      let name ← takeClass inName
      if name.isEmpty then unreadable "Bad for loop variable"
      wideGap
      let words ←
        if ← aheadWord "in" then do
          passWord "in"
          pure (some (← wordList fuel []))
        else pure none
      gap
      if (← peek) == some ';' then skip
      passWord "do"
      let body ← commandList fuel
      passWord "done"
      withRedirects fuel (.each name words body)
    else if ← aheadWord "case" then
      passWord "case"
      gap
      let word ← wordFrom fuel []
      passWord "in"
      let found ← clauses fuel []
      withRedirects fuel (.choose word found)
    else if ← closingWords.anyM aheadWord then unexpectedHere ""
    else
      let c ← get
      let name := c.rest.takeWhile inName
      match (gapFrom false false (c.rest.dropWhile inName) c.line).rest with
      | '(' :: rest =>
        let inside := (gapFrom false false rest c.line).rest
        if !name.isEmpty && inside.head? == some ')' then
          set (⟨inside.tail, c.line⟩ : Cursor)
          wideGap
          return .function name (← command fuel)
        else unreadable "\"(\" unexpected"
      | _ => simpleFrom fuel line [] [] []

/-- Reads the stages of a pipeline. -/
def stages : Nat → List Command → Reading (List Command)
  | 0, _ => unreadable "too deeply nested"
  | fuel + 1, found => do
    let stage ← command fuel
    gap
    match (← get).rest with
    | '|' :: '|' :: _ => return found ++ [stage]
    | '|' :: _ =>
      skip
      wideGap
      stages fuel (found ++ [stage])
    | _ => return found ++ [stage]

/-- Reads a pipeline. -/
def pipeline : Nat → Reading Command
  | 0 => unreadable "too deeply nested"
  | fuel + 1 => do
    gap
    if ← aheadWord "!" then
      skip
      return .pipeline true (← stages fuel [])
    else
      match ← stages fuel [] with
      | [one] => return one
      | many => return .pipeline false many

/-- Reads pipelines joined by `&&` and `||`. -/
def andOr : Nat → Command → Reading Command
  | 0, _ => unreadable "too deeply nested"
  | fuel + 1, first => do
    gap
    if ← ahead "&&" then
      skip; skip
      wideGap
      let second ← pipeline fuel
      andOr fuel (.both first second)
    else if ← ahead "||" then
      skip; skip
      wideGap
      let second ← pipeline fuel
      andOr fuel (.either first second)
    else return first

/-- Reads commands up to the end or to something that belongs to an outer command. -/
def commandList : Nat → Reading Command
  | 0 => unreadable "too deeply nested"
  | fuel + 1 => do
    wideGap
    let ended ←
      match (← get).rest with
      | [] => pure true
      | ')' :: _ => pure true
      | ';' :: ';' :: _ => pure true
      | _ => closingWords.anyM aheadWord
    if ended then return .nothing
    else
      let first ← pipeline fuel
      let whole ← andOr fuel first
      gap
      match (← get).rest with
      | ';' :: ';' :: _ => return whole
      | ';' :: _ =>
        skip
        return .sequence whole (← commandList fuel)
      | '&' :: _ =>
        skip
        return .sequence (.background whole) (← commandList fuel)
      | '\n' :: _ => return .sequence whole (← commandList fuel)
      | _ => return whole
end

/-- Reads the commands of one line. -/
def lineOfCommands : Nat → Reading Command
  | 0 => unreadable "too deeply nested"
  | fuel + 1 => do
    let bound := 4 * (← get).rest.length + 64
    let first ← pipeline bound
    let whole ← andOr bound first
    gap
    match (← get).rest with
    | [] => return whole
    | '\n' :: _ => return whole
    | ';' :: ';' :: _ => unexpectedHere ""
    | ';' :: _ =>
      skip
      gap
      if (← peek).any (· != '\n') then return .sequence whole (← lineOfCommands fuel)
      else return whole
    | '&' :: _ =>
      skip
      gap
      if (← peek).any (· != '\n') then
        return .sequence (.background whole) (← lineOfCommands fuel)
      else return .background whole
    | _ => unexpectedHere ""

/-- The lines of a script that can be read, in order, and the fault that ends them. -/
def readLines : Nat → Cursor → List Command × Option ScriptFault
  | 0, _ => ([], none)
  | fuel + 1, c =>
    let c := gapFrom true false c.rest c.line
    if c.rest.isEmpty then ([], none)
    else
      match (lineOfCommands (c.rest.length + 1)).run c with
      | .error fault => ([], some fault)
      | .ok (line, after) =>
        let (more, fault) := readLines fuel after
        (line :: more, fault)

/-- Reads a script that starts on a line. A line that cannot be read ends it: what comes before is
still run. -/
def readScript (text : List Char) (line : Nat) : List Command × Option ScriptFault :=
  readLines (text.length + 1) ⟨text, line⟩

end LineLint.Host.Shell
