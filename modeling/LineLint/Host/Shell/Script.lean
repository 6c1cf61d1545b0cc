/-!
# Shell scripts

The commands of the shell in which checkers and tasks are written. Texts are lists of characters
that stand for bytes, so that a script can handle any output.

* `Part`, `Word` — words with their expansions.
* `Redirect` — where a file descriptor leads.
* `Command` — commands.
-/

namespace LineLint.Host.Shell

/-- What a redirection does with its descriptor. -/
inductive RedirectKind where
  | input
  | output
  | append
  | duplicate
  /-- The text itself is read. -/
  | here
  deriving DecidableEq, Repr

/-- How a parameter with a fallback looks at its value: what stands between name and word. -/
inductive FallbackKind where
  | use
  | assign
  | alternative
  | complain
  deriving DecidableEq, Repr

mutual
/-- A part of a word; `quoted` keeps its value from being split. -/
inductive Part where
  | text (s : List Char) (quoted : Bool)
  | param (name : List Char) (quoted : Bool)
  | length (name : List Char) (quoted : Bool)
  | fallback (name : List Char) (kind : FallbackKind) (alsoEmpty : Bool) (word : List Part)
      (quoted : Bool)
  | strip (name : List Char) (fromEnd : Bool) (longest : Bool) (pattern : List Part)
      (quoted : Bool)
  | substitution (body : Command) (quoted : Bool)
  | arithmetic (body : List Part) (quoted : Bool)

/-- A redirection of a descriptor. -/
inductive Redirect where
  | mk (fd : Nat) (kind : RedirectKind) (target : List Part)

/-- A command. -/
inductive Command where
  | nothing
  | simple (line : Nat) (assigns : List (List Char × List Part)) (words : List (List Part))
      (redirects : List Redirect)
  | pipeline (negated : Bool) (stages : List Command)
  | both (first second : Command)
  | either (first second : Command)
  | sequence (first second : Command)
  | background (body : Command)
  | branch (condition yes no : Command)
  | loop (untilTrue : Bool) (condition body : Command)
  | each (name : List Char) (words : Option (List (List Part))) (body : Command)
  | choose (word : List Part) (clauses : List (List (List Part) × Command))
  | subshell (body : Command) (redirects : List Redirect)
  | group (body : Command) (redirects : List Redirect)
  | function (name : List Char) (body : Command)
end

/-- A word of a command. -/
abbrev Word := List Part

instance : Inhabited Part := ⟨.text [] false⟩

instance : Inhabited Redirect := ⟨.mk 0 .input []⟩

instance : Inhabited Command := ⟨.nothing⟩

end LineLint.Host.Shell
