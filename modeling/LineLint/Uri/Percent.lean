import LineLint.DataDir
import LineLint.Json.Reader

/-!
# Percent escapes

A byte may be written as a percent sign and two hexadecimal digits. Which characters have to be
written so depends on the part of the URI they stand in; a character beyond ASCII always is, byte by
byte.

* `EscapeSet` and the sets of the parts of a URI.
* `escapeText` — a text with the characters of a set escaped.
* `unescape` — the bytes that a text with escapes stands for.
-/

namespace LineLint.Uri

/-- The ASCII characters that a part of a URI escapes. -/
abbrev EscapeSet := Char → Bool

/-- Controls. -/
def controlSet : EscapeSet := fun c => c.toNat < 0x20 || c.toNat == 0x7F

/-- What a fragment escapes. -/
def fragmentSet : EscapeSet := fun c => controlSet c || [' ', '"', '<', '>', '`'].contains c

/-- What a path escapes. -/
def pathSet : EscapeSet := fun c => fragmentSet c || ['#', '?', '\x7b', '\x7d'].contains c

/-- What a user name or password escapes. -/
def userSet : EscapeSet := fun c =>
  pathSet c || ['/', ':', ';', '=', '@', '[', '\\', ']', '^', '|'].contains c

/-- What a query escapes. -/
def querySet : EscapeSet := fun c => controlSet c || [' ', '"', '#', '<', '>'].contains c

/-- What a query escapes in the schemes of the web. -/
def specialQuerySet : EscapeSet := fun c => querySet c || c == '\''

/-- A hexadecimal digit in upper case. -/
def upperHex (n : Nat) : Char := (Nat.digitChar n).toUpper

/-- The escape of a byte. -/
def escapeByte (b : UInt8) : List Char :=
  ['%', upperHex (b.toNat / 16), upperHex (b.toNat % 16)]

/-- A character as it stands in a part of a URI. -/
def escapeChar (set : EscapeSet) (c : Char) : List Char :=
  if c.toNat < 0x80 ∧ ¬ set c then [c] else (String.utf8EncodeChar c).flatMap escapeByte

/-- A text as it stands in a part of a URI. -/
def escapeText (set : EscapeSet) (s : List Char) : List Char := s.flatMap (escapeChar set)

/-- The bytes that a text with escapes stands for. A percent sign without two hexadecimal digits
stands for itself. -/
def unescape : List Char → Bytes
  | [] => []
  | '%' :: a :: b :: rest =>
    match Json.hexValue? a, Json.hexValue? b with
    | some high, some low => UInt8.ofNat (high * 16 + low) :: unescape rest
    | _, _ => String.utf8EncodeChar '%' ++ unescape (a :: b :: rest)
  | c :: rest => String.utf8EncodeChar c ++ unescape rest

end LineLint.Uri
