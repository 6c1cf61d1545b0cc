import LineLint.DataDir

/-!
# Bytes as characters

Scripts and the output of programs are byte strings. They are handled as lists of characters, one
for each byte, so that the usual operations on characters apply.

* `lettersOf`, `bytesOf` — from bytes and back.
* `letters` — the bytes of a text as characters.
* `decimal` — a number in digits.
-/

namespace LineLint.Host

/-- The characters that stand for bytes. -/
def lettersOf (bytes : Bytes) : List Char := bytes.map fun b => Char.ofNat b.toNat

/-- The bytes that characters stand for. -/
def bytesOf (s : List Char) : Bytes := s.map fun c => UInt8.ofNat c.toNat

/-- The bytes of a text as characters. -/
def letters (s : String) : List Char := lettersOf (textBytes s)

/-- A number in decimal digits. -/
def decimal (n : Nat) : List Char := Nat.toDigits 10 n

/-- An integer in decimal digits. -/
def decimalInt (n : Int) : List Char :=
  if n < 0 then '-' :: decimal n.natAbs else decimal n.toNat

/-- The value of digits in a base of at most sixteen, as far as they reach, and what follows them.
-/
def takeDigits (base : Nat) : Nat → List Char → Nat × List Char
  | n, [] => (n, [])
  | n, c :: rest =>
    let value :=
      if c.isDigit then c.toNat - 48
      else if 'a' ≤ c ∧ c ≤ 'f' then c.toNat - 87
      else if 'A' ≤ c ∧ c ≤ 'F' then c.toNat - 55
      else 99
    if value < base then takeDigits base (n * base + value) rest else (n, c :: rest)

/-- Reads a number as programs do: `0x` for base sixteen, a leading zero for base eight, else base
ten. Without any digit there is none. -/
def numeral? (s : List Char) : Option (Nat × List Char) :=
  match s with
  | '0' :: x :: d :: rest =>
    if (x = 'x' ∨ x = 'X') ∧ (takeDigits 16 0 [d]).2.isEmpty then some (takeDigits 16 0 (d :: rest))
    else some (takeDigits 8 0 s)
  | '0' :: _ => some (takeDigits 8 0 s)
  | c :: _ => if c.isDigit then some (takeDigits 10 0 s) else none
  | [] => none

/-- An integer in decimal, with blanks around it and a sign allowed. -/
def integer? (s : List Char) : Option Int :=
  let blank (c : Char) : Bool := c == ' ' || c == '\t' || c == '\n'
  let s := ((s.dropWhile blank).reverse.dropWhile blank).reverse
  let (negative, digits) := match s with
    | '-' :: rest => (true, rest)
    | '+' :: rest => (false, rest)
    | _ => (false, s)
  if digits.isEmpty || digits.any (fun c => !c.isDigit) then none
  else
    let n := (takeDigits 10 0 digits).1
    some (if negative then -(n : Int) else n)

/-- An integer brought into 64 bits by wrapping around. -/
def wrap64 (n : Int) : Int := Int.bmod n (Nat.pow 2 64)

/-- The lines of a text, each with its end. -/
def linesOf (s : List Char) : List (List Char) :=
  let (done, current) := s.foldl
    (fun (done, current) c => if c = '\n' then ((c :: current).reverse :: done, [])
      else (done, c :: current))
    (([], []) : List (List Char) × List Char)
  (if current.isEmpty then done else current.reverse :: done).reverse

/-- A text without the line ends at its end. -/
def dropLineEnds (s : List Char) : List Char := (s.reverse.dropWhile (· == '\n')).reverse

end LineLint.Host
