import LineLint.Host.Files
import LineLint.Host.Letters

/-!
# Conditions

What the program `test` finds out about texts, numbers and files.

* `Condition.Fault` — a list of words that is no condition.
* `condition` — the value of a condition.
-/

namespace LineLint.Host

namespace Condition

/-- A list of words that is no condition. -/
inductive Fault where
  | notNumber (s : List Char)
  | unexpected (s : List Char)
  | argumentExpected (s : List Char)
  | closingExpected
  deriving DecidableEq, Repr

/-- What is wrong with a condition. -/
def Fault.message : Fault → List Char
  | notNumber s => "Illegal number: ".toList ++ s
  | unexpected s => s ++ ": unexpected operator".toList
  | argumentExpected s => s ++ ": argument expected".toList
  | closingExpected => "closing paren expected".toList

/-- The number of a word. -/
def number (s : List Char) : Except Fault Int :=
  match integer? s with
  | some n => .ok n
  | none => .error (.notNumber s)

/-- Comparisons of numbers. -/
def comparisons : List (String × (Int → Int → Bool)) :=
  [("-eq", (· == ·)), ("-ne", (· != ·)), ("-lt", fun a b => a < b), ("-le", fun a b => a ≤ b),
   ("-gt", fun a b => b < a), ("-ge", fun a b => b ≤ a)]

/-- Comparisons of texts. -/
def textComparisons : List (String × (List Char → List Char → Bool)) :=
  [("=", (· == ·)), ("!=", (· != ·)), ("<", fun a b => a < b), (">", fun a b => b < a)]

/-- The value of a comparison, if the word between is one. -/
def compare? (a op b : List Char) : Option (Except Fault Bool) :=
  match textComparisons.find? fun c => c.1.toList == op with
  | some (_, f) => some (.ok (f a b))
  | none =>
    (comparisons.find? fun c => c.1.toList == op).map fun c => do
      return c.2 (← number a) (← number b)

/-- What a letter after a dash finds out about a word. -/
def examine? (files : Files) (cwd : Place) (op : List Char) (word : List Char) : Option Bool :=
  let entry := (files.lookup cwd (bytesOf word)).toOption.map Prod.snd
  match op with
  | ['-', 'n'] => some (!word.isEmpty)
  | ['-', 'z'] => some word.isEmpty
  | ['-', 'e'] => some entry.isSome
  | ['-', 'r'] => some entry.isSome
  | ['-', 'w'] => some entry.isSome
  | ['-', 'd'] => some (entry matches some .directory)
  | ['-', 'f'] => some (entry matches some (.data _ _) || entry matches some (.program _))
  | ['-', 's'] => some (match entry with
    | some (.data contents _) => !contents.isEmpty
    | some (.program _) => true
    | some .directory => true
    | _ => false)
  | ['-', 'x'] => some (match entry with
    | some (.data _ executable) => executable
    | some (.program _) => true
    | some .directory => true
    | _ => false)
  | ['-', 'c'] => some (entry matches some .sink)
  | ['-', 'b'] => some false
  | ['-', 'p'] => some false
  | ['-', 'h'] => some false
  | ['-', 'L'] => some false
  | ['-', 'S'] => some false
  | ['-', 't'] => some false
  | _ => none

/-- A value, the words left, and the last word that was used. -/
abbrev Found := Except Fault (Bool × List (List Char) × List Char)

mutual
/-- Conditions joined by `-o`. -/
def anyOf (files : Files) (cwd : Place) : Nat → List (List Char) → Found
  | 0, _ => .error .closingExpected
  | fuel + 1, words => do
    let (a, rest, last) ← allOf files cwd fuel words
    match rest with
    | ['-', 'o'] :: rest =>
      let (b, rest, last) ← anyOf files cwd fuel rest
      return (a || b, rest, last)
    | _ => return (a, rest, last)

/-- Conditions joined by `-a`. -/
def allOf (files : Files) (cwd : Place) : Nat → List (List Char) → Found
  | 0, _ => .error .closingExpected
  | fuel + 1, words => do
    let (a, rest, last) ← single files cwd fuel words
    match rest with
    | ['-', 'a'] :: rest =>
      let (b, rest, last) ← allOf files cwd fuel rest
      return (a && b, rest, last)
    | _ => return (a, rest, last)

/-- A condition without joints. -/
def single (files : Files) (cwd : Place) : Nat → List (List Char) → Found
  | 0, _ => .error .closingExpected
  | fuel + 1, words => do
    match words with
    | [] => return (false, [], [])
    | [a] => return (!a.isEmpty, [], a)
    | a :: b :: rest =>
      if a = ['!'] then
        let (v, rest, last) ← single files cwd fuel (b :: rest)
        return (!v, rest, last)
      else if a = ['('] then
        let (v, rest, _) ← anyOf files cwd fuel (b :: rest)
        match rest with
        | [')'] :: rest => return (v, rest, [')'])
        | _ => .error .closingExpected
      else
        match rest with
        | c :: rest' =>
          match compare? a b c with
          | some v => return (← v, rest', c)
          | none => one a b rest
        | [] => one a b rest
where
  /-- An examination of a word, or a word that is to be filled. -/
  one (a b : List Char) (rest : List (List Char)) : Found :=
    match examine? files cwd a b with
    | some v => .ok (v, rest, b)
    | none => .ok (!a.isEmpty, b :: rest, a)
end

end Condition

open Condition in
/-- The value of a condition. Three words with a comparison between are that comparison. -/
def condition (files : Files) (cwd : Place) (words : List (List Char)) :
    Except Condition.Fault Bool := do
  let general : Except Fault Bool := do
    let (v, rest, last) ← anyOf files cwd (4 * words.length + 8) words
    if rest.isEmpty then return v else .error (.unexpected last)
  match words with
  | [] => return false
  | [a] => return !a.isEmpty
  | [a, op, b] =>
    match compare? a op b with
    | some v => v
    | none => general
  | _ => general

end LineLint.Host
