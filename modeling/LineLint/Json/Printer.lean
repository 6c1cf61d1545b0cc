import LineLint.Json.Basic
import LineLint.Text.Quoted

/-!
# Writing JSON

Two layouts: one without any blanks, and one with a line for every item and entry, indented by two
spaces a level. Entries are written in the order in which the value holds them.

* `floatFormat` — the notation of floating point numbers.
* `escapedChar`, `stringLiteral` — characters inside a string.
* `Json.compact`, `Json.pretty` — the two layouts.
-/

namespace LineLint.Json

open Number (FloatFormat)

/-- Floating point numbers are positional from `0.00001` up to sixteen digits before the point,
whole ones end in `.0`, and an exponent always has its sign. -/
def floatFormat : FloatFormat :=
  { positionalFrom := -5
    positionalTo := 15
    wholeMark := ".0"
    positiveMark := "e+"
    negativeMark := "e-" }

/-- A whole number in decimal. -/
def intText (n : Int) : List Char :=
  if n < 0 then '-' :: Nat.toDigits 10 n.natAbs else Nat.toDigits 10 n.natAbs

/-- Two hexadecimal digits of a number below 256. -/
def twoHexDigits (n : Nat) : List Char :=
  [Nat.digitChar (n / 16), Nat.digitChar (n % 16)]

/-- A character inside a string: the quote, the backslash and the controls are escaped. -/
def escapedChar (c : Char) : List Char :=
  if c = '"' then ['\\', '"']
  else if c = '\\' then ['\\', '\\']
  else if c = '\x08' then ['\\', 'b']
  else if c = '\t' then ['\\', 't']
  else if c = '\n' then ['\\', 'n']
  else if c = '\x0c' then ['\\', 'f']
  else if c = '\r' then ['\\', 'r']
  else if c.toNat < 0x20 then ['\\', 'u', '0', '0'] ++ twoHexDigits c.toNat
  else [c]

/-- A string with its quotes. -/
def stringLiteral (s : String) : List Char :=
  '"' :: (s.toList.flatMap escapedChar ++ ['"'])

/-- A boolean as a literal. -/
def boolText (b : Bool) : List Char :=
  if b then ['t', 'r', 'u', 'e'] else ['f', 'a', 'l', 's', 'e']

mutual
/-- The text of a value without blanks. -/
def chars : Json → List Char
  | null => ['n', 'u', 'l', 'l']
  | bool b => boolText b
  | int n => intText n
  | float x => (floatFormat.write x).toList
  | str s => stringLiteral s
  | arr [] => ['[', ']']
  | arr (item :: more) => '[' :: (chars item ++ itemChars more)
  | obj [] => ['\x7b', '\x7d']
  | obj ((key, value) :: more) =>
    '\x7b' :: (stringLiteral key ++ ':' :: (chars value ++ entryChars more))

/-- The text after an item of an array, up to and with the closing bracket. -/
def itemChars : List Json → List Char
  | [] => [']']
  | item :: more => ',' :: (chars item ++ itemChars more)

/-- The text after an entry of an object, up to and with the closing brace. -/
def entryChars : List (String × Json) → List Char
  | [] => ['\x7d']
  | (key, value) :: more => ',' :: (stringLiteral key ++ ':' :: (chars value ++ entryChars more))
end

/-- The text of a value without blanks. -/
def compact (v : Json) : String := String.ofList v.chars

/-- A line break and the indentation of a level. -/
def newLine (level : Nat) : List Char := '\n' :: List.replicate (2 * level) ' '

mutual
/-- The text of a value at a level of indentation, a line for every item and entry. -/
def prettyChars (level : Nat) : Json → List Char
  | arr [] => ['[', ']']
  | arr (item :: more) =>
    '[' :: (newLine (level + 1) ++ prettyChars (level + 1) item ++ prettyItems level more)
  | obj [] => ['\x7b', '\x7d']
  | obj ((key, value) :: more) =>
    '\x7b' :: (newLine (level + 1) ++ stringLiteral key ++ ':' :: ' ' ::
      (prettyChars (level + 1) value ++ prettyEntries level more))
  | null => chars null
  | bool b => chars (bool b)
  | int n => chars (int n)
  | float x => chars (float x)
  | str s => chars (str s)

/-- The lines after an item of an array at a level. -/
def prettyItems (level : Nat) : List Json → List Char
  | [] => newLine level ++ [']']
  | item :: more =>
    ',' :: (newLine (level + 1) ++ prettyChars (level + 1) item ++ prettyItems level more)

/-- The lines after an entry of an object at a level. -/
def prettyEntries (level : Nat) : List (String × Json) → List Char
  | [] => newLine level ++ ['\x7d']
  | (key, value) :: more =>
    ',' :: (newLine (level + 1) ++ stringLiteral key ++ ':' :: ' ' ::
      (prettyChars (level + 1) value ++ prettyEntries level more))
end

/-- The text of a value over several lines. -/
def pretty (v : Json) : String := String.ofList (prettyChars 0 v)

end LineLint.Json
