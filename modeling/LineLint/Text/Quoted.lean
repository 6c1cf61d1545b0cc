import LineLint.Text.Printable

/-!
# Quoted text

How a text is shown inside an error message: between double quotes, with an escape for whatever
could not be read back from the page.

* `hexDigits` — a number in lower-case hexadecimal, no leading zeros.
* `quotedChar` — one character as it stands between the quotes.
* `quoted` — a whole text with its quotes.
-/

namespace LineLint.Text

/-- A number in lower-case hexadecimal, without leading zeros. -/
def hexDigits (n : Nat) : List Char :=
  Nat.toDigits 16 n

/-- One character as it stands between the quotes. Tab, return, line feed, NUL, the backslash and
the double quote have short escapes; a mark that would attach to its neighbour and anything without
a printed shape is written by its code point; all else stands for itself. -/
def quotedChar (c : Char) : List Char :=
  if c = '\x00' then ['\\', '0']
  else if c = '\t' then ['\\', 't']
  else if c = '\r' then ['\\', 'r']
  else if c = '\n' then ['\\', 'n']
  else if c = '\\' ∨ c = '"' then ['\\', c]
  else if isExtender c || isUnprintable c then
    ['\\', 'u', '\x7b'] ++ hexDigits c.toNat ++ ['\x7d']
  else [c]

/-- A text between double quotes, escaped. -/
def quoted (s : String) : String :=
  String.ofList ('"' :: (s.toList.flatMap quotedChar ++ ['"']))

end LineLint.Text
