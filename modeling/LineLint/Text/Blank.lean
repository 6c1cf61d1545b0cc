/-!
# Blank characters

The characters of the Unicode property `White_Space`, and trimming by them.

* `isBlank` — membership in the property.
* `trimStart`, `trimEnd`, `trim` — a text without the blanks at its ends.
-/

namespace LineLint.Text

/-- A closed interval of code points. -/
structure Range where
  first : Nat
  last : Nat
  deriving DecidableEq, Repr

/-- Whether a code point lies in one of the given intervals. -/
def Range.covers (ranges : List Range) (code : Nat) : Bool :=
  ranges.any fun r => r.first ≤ code && code ≤ r.last

/-- The code points of the property `White_Space`, ascending. -/
def blankRanges : List Range :=
  [⟨0x9, 0xD⟩, ⟨0x20, 0x20⟩, ⟨0x85, 0x85⟩, ⟨0xA0, 0xA0⟩, ⟨0x1680, 0x1680⟩, ⟨0x2000, 0x200A⟩,
   ⟨0x2028, 0x2029⟩, ⟨0x202F, 0x202F⟩, ⟨0x205F, 0x205F⟩, ⟨0x3000, 0x3000⟩]

/-- Whether a character is blank. -/
def isBlank (c : Char) : Bool :=
  Range.covers blankRanges c.toNat

/-- The text without the blanks it starts with. -/
def trimStart (s : List Char) : List Char :=
  s.dropWhile isBlank

/-- The text without the blanks it ends with. -/
def trimEnd (s : List Char) : List Char :=
  (s.reverse.dropWhile isBlank).reverse

/-- The text without the blanks at either end. -/
def trim (s : List Char) : List Char :=
  trimEnd (trimStart s)

end LineLint.Text
