/-!
# UTF-8

Bytes to characters by one machine that reads a byte at a time. It yields a character for every
well-formed sequence and one gap for every maximal ill-formed run, that is, for the longest start of
a sequence that the bytes still agree with, or for a byte that can start none.

* `units` — the characters and gaps of a byte string.
* `decode?` — the text of a byte string that has no gap.
* `decodeLossy` — the text with U+FFFD in place of each gap.
* `encode` — the bytes of a text.
-/

namespace LineLint

/-- A byte string: what a path, a process argument or a process's output is made of. -/
abbrev Bytes := List UInt8

namespace Text

/-- A sequence that has begun: the bits read so far, how many bytes are still to come, and the
interval in which the next one has to lie. -/
structure Pending where
  bits : Nat
  left : Nat
  low : UInt8
  high : UInt8
  deriving DecidableEq, Repr

/-- What a byte yields where a sequence may start: a character, a gap, or a sequence that begins. -/
inductive Start where
  | char (c : Char)
  | gap
  | more (pending : Pending)

/-- Reads a byte as the first of a sequence. The intervals after `E0`, `ED`, `F0` and `F4` keep out
overlong forms, surrogates and code points past U+10FFFF. -/
def start (b : UInt8) : Start :=
  let bits := b.toNat
  if b < 0x80 then .char (Char.ofNat bits)
  else if b < 0xC2 then .gap
  else if b < 0xE0 then .more ⟨bits - 0xC0, 1, 0x80, 0xBF⟩
  else if b = 0xE0 then .more ⟨0, 2, 0xA0, 0xBF⟩
  else if b = 0xED then .more ⟨0xD, 2, 0x80, 0x9F⟩
  else if b < 0xF0 then .more ⟨bits - 0xE0, 2, 0x80, 0xBF⟩
  else if b = 0xF0 then .more ⟨0, 3, 0x90, 0xBF⟩
  else if b < 0xF4 then .more ⟨bits - 0xF0, 3, 0x80, 0xBF⟩
  else if b = 0xF4 then .more ⟨4, 3, 0x80, 0x8F⟩
  else .gap

/-- The characters (`some`) and gaps (`none`) of the bytes that follow a sequence begun, if any. -/
def unitsFrom : Option Pending → Bytes → List (Option Char)
  | none, [] => []
  | some _, [] => [none]
  | none, b :: rest =>
    match start b with
    | .char c => some c :: unitsFrom none rest
    | .gap => none :: unitsFrom none rest
    | .more p => unitsFrom (some p) rest
  | some p, b :: rest =>
    if p.low ≤ b ∧ b ≤ p.high then
      let bits := p.bits * 64 + (b.toNat - 0x80)
      if p.left ≤ 1 then some (Char.ofNat bits) :: unitsFrom none rest
      else unitsFrom (some ⟨bits, p.left - 1, 0x80, 0xBF⟩) rest
    else
      match start b with
      | .char c => none :: some c :: unitsFrom none rest
      | .gap => none :: none :: unitsFrom none rest
      | .more q => none :: unitsFrom (some q) rest

/-- The characters and gaps of a byte string, in order. -/
def units (bytes : Bytes) : List (Option Char) :=
  unitsFrom none bytes

/-- The character that stands for a gap. -/
def replacement : Char := '\uFFFD'

/-- The text of a byte string, with U+FFFD in place of each maximal ill-formed run. -/
def decodeLossy (bytes : Bytes) : List Char :=
  (units bytes).map fun u => u.getD replacement

/-- The text of a byte string, if all of it is well formed. -/
def decode? (bytes : Bytes) : Option (List Char) :=
  (units bytes).mapM id

/-- The bytes of a text. -/
def encode (s : List Char) : Bytes :=
  s.flatMap String.utf8EncodeChar

/-- How many bytes a text takes. -/
def byteLength (s : List Char) : Nat :=
  (s.map Char.utf8Size).foldr (· + ·) 0

end Text

end LineLint
