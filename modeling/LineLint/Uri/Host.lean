import LineLint.Uri.Percent

/-!
# Hosts

The host of a URI: a name, an address in either of its two formats, or nothing.

* `Host`, `Host.text` — a host and its normal form.
* `UriError` — why a text is no URI, with its wording.
* `Host.parse` — hosts of the schemes of the web and of files.
* `Host.parseOpaque` — hosts of all other schemes.
-/

namespace LineLint

/-- Why a text is no URI. -/
inductive UriError where
  | relative
  | emptyHost
  | invalidPort
  | invalidDomain
  | invalidDomainCharacter
  | invalidIpv4
  | invalidIpv6
  deriving DecidableEq, Repr

/-- The wording of an error. -/
def UriError.message : UriError → String
  | relative => "relative URL without a base"
  | emptyHost => "empty host"
  | invalidPort => "invalid port number"
  | invalidDomain => "invalid international domain name"
  | invalidDomainCharacter => "invalid domain character"
  | invalidIpv4 => "invalid IPv4 address"
  | invalidIpv6 => "invalid IPv6 address"

namespace Uri

/-- The host of a URI. -/
inductive Host where
  | empty
  | name (text : String)
  | ipv4 (address : Nat)
  | ipv6 (pieces : List Nat)
  deriving DecidableEq, Repr

/-! ## Addresses of 32 bits -/

/-- The parts of a text between dots. -/
def dotParts : List Char → List (List Char)
  | [] => [[]]
  | c :: rest =>
    if c = '.' then [] :: dotParts rest
    else match dotParts rest with
      | [] => [[c]]
      | part :: more => (c :: part) :: more

/-- The value of digits in a base. -/
def digitsValue (base : Nat) (digits : List Char) : Nat :=
  digits.foldl (fun n c => n * base + (Json.hexValue? c).getD 0) 0

/-- A part of an address: hexadecimal after `0x`, octal after another leading zero, else decimal. -/
def ipv4Number? (part : List Char) : Option Nat :=
  let read (base : Nat) (digits : List Char) : Option Nat :=
    if digits.all fun c => (Json.hexValue? c).any (· < base) then some (digitsValue base digits)
    else none
  match part with
  | [] => none
  | '0' :: 'x' :: digits => read 16 digits
  | '0' :: 'X' :: digits => read 16 digits
  | '0' :: d :: digits => read 8 (d :: digits)
  | digits => read 10 digits

/-- The parts of a domain without the empty one after a final dot. -/
def addressParts (domain : List Char) : List (List Char) :=
  let parts := dotParts domain
  if parts.getLast? = some [] then parts.dropLast else parts

/-- Whether a domain has to be an address, since its last part is a number. -/
def endsInNumber (domain : List Char) : Bool :=
  match dotParts domain with
  | [[]] => false
  | _ =>
    match (addressParts domain).getLast? with
    | none => false
    | some part => (!part.isEmpty && part.all Char.isDigit) || (ipv4Number? part).isSome

/-- Puts the parts of an address together: each but the last is a byte from the top, and the last
fills what is left. -/
def ipv4Value? (numbers : List Nat) : Option Nat :=
  match numbers.getLast? with
  | none => none
  | some last =>
    let leading := numbers.dropLast
    if 3 < leading.length then none
    else if Nat.pow 256 (4 - leading.length) ≤ last then none
    else if leading.any (255 < ·) then none
    else
      let weighted := leading.zipIdx.map fun (n, i) => n * Nat.pow 256 (3 - i)
      some (weighted.foldr (· + ·) last)

/-- Reads an address of 32 bits. -/
def parseIpv4 (domain : List Char) : Except UriError Nat :=
  match (addressParts domain).mapM ipv4Number? with
  | none => .error .invalidIpv4
  | some numbers =>
    match ipv4Value? numbers with
    | none => .error .invalidIpv4
    | some address => .ok address

/-- An address of 32 bits in its normal form. -/
def ipv4Text (address : Nat) : String :=
  let byte (i : Nat) : String := toString (address / Nat.pow 256 i % 256)
  byte 3 ++ "." ++ byte 2 ++ "." ++ byte 1 ++ "." ++ byte 0

/-! ## Addresses of 128 bits -/

/-- The pieces of 16 bits read so far, and how many of them stand before the gap of zeros, the one
zero that the gap holds at least included. -/
structure Pieces where
  read : List Nat
  gap : Option Nat

/-- A decimal byte without leading zeros, with what follows it. -/
def decimalByte? (s : List Char) : Option (Nat × List Char) :=
  let digits := s.takeWhile Char.isDigit
  let value := digitsValue 10 digits
  let padded := 1 < digits.length && digits.head? == some '0'
  if digits.isEmpty || 3 < digits.length || 255 < value || padded
  then none
  else some (value, s.dropWhile Char.isDigit)

/-- Four decimal bytes between dots, as two pieces; nothing may follow. -/
def dottedTail? (s : List Char) : Option (List Nat) := do
  let (a, s) ← decimalByte? s
  let s ← if s.head? = some '.' then some s.tail else none
  let (b, s) ← decimalByte? s
  let s ← if s.head? = some '.' then some s.tail else none
  let (c, s) ← decimalByte? s
  let s ← if s.head? = some '.' then some s.tail else none
  let (d, s) ← decimalByte? s
  if s.isEmpty then some [a * 256 + b, c * 256 + d] else none

/-- Reads pieces between colons up to the end. The first argument bounds their number. -/
def ipv6Pieces : Nat → Pieces → List Char → Option Pieces
  | _, p, [] => some p
  | 0, _, _ => none
  | fuel + 1, p, c :: rest =>
    if 8 ≤ p.read.length then none
    else if c = ':' then
      if p.gap.isSome then none
      else ipv6Pieces fuel ⟨p.read ++ [0], some (p.read.length + 1)⟩ rest
    else
      let s := c :: rest
      let digits := (s.take 4).takeWhile fun d => (Json.hexValue? d).isSome
      let next := { p with read := p.read ++ [digitsValue 16 digits] }
      match s.drop digits.length with
      | [] => some next
      | '.' :: _ =>
        if digits.isEmpty || 6 < p.read.length then none
        else (dottedTail? s).map fun tail => { p with read := p.read ++ tail }
      | ':' :: more => if more.isEmpty then none else ipv6Pieces fuel next more
      | _ => none

/-- Fills the gap with zeros up to eight pieces. -/
def Pieces.filled? (p : Pieces) : Option (List Nat) :=
  match p.gap with
  | none => if p.read.length = 8 then some p.read else none
  | some k =>
    if 8 < p.read.length then none
    else some (p.read.take k ++ List.replicate (8 - p.read.length) 0 ++ p.read.drop k)

/-- Reads an address of 128 bits. -/
def parseIpv6 (s : List Char) : Except UriError (List Nat) :=
  let pieces :=
    match s with
    | ':' :: ':' :: rest => ipv6Pieces 9 ⟨[0], some 1⟩ rest
    | ':' :: _ => none
    | [] => none
    | [_] => none
    | s => ipv6Pieces 9 ⟨[], none⟩ s
  match pieces.bind Pieces.filled? with
  | none => .error .invalidIpv6
  | some pieces => .ok pieces

/-- How many zeros a list starts with. -/
def zeroRun (pieces : List Nat) : Nat := (pieces.takeWhile (· == 0)).length

/-- Start and length of the first longest run of zeros. -/
def longestZeroRun (pieces : List Nat) : Nat × Nat :=
  (List.range pieces.length).foldl
    (fun best i => let n := zeroRun (pieces.drop i); if best.2 < n then (i, n) else best) (0, 0)

/-- An address of 128 bits in its normal form: the first longest run of at least two zeros is left
out. -/
def ipv6Text (pieces : List Nat) : String :=
  let (start, length) := longestZeroRun pieces
  let join (ps : List Nat) : String :=
    String.intercalate ":" (ps.map fun p => String.ofList (Nat.toDigits 16 p))
  if length < 2 then "[" ++ join pieces ++ "]"
  else "[" ++ join (pieces.take start) ++ "::" ++ join (pieces.drop (start + length)) ++ "]"

/-! ## Names -/

/-- The normal form of a host. -/
def Host.text : Host → String
  | empty => ""
  | name text => text
  | ipv4 address => ipv4Text address
  | ipv6 pieces => ipv6Text pieces

/-- The characters that no domain may hold. -/
def forbiddenInDomain (c : Char) : Bool :=
  c.toNat ≤ 0x20 || 0x7F ≤ c.toNat ||
    ['%', '#', '/', ':', '<', '>', '?', '@', '[', '\\', ']', '^', '|'].contains c

/-- The characters that no other host may hold. -/
def forbiddenInHost (c : Char) : Bool :=
  ['\x00', '\t', '\n', '\r', ' ', '#', '/', ':', '<', '>', '?', '@', '[', '\\', ']', '^',
    '|'].contains c

/-- Reads an address in brackets, if the text starts with one. -/
def bracketed? (s : List Char) : Option (Except UriError Host) :=
  match s with
  | '[' :: rest =>
    some <|
      if rest.getLast? = some ']' then (parseIpv6 rest.dropLast).map .ipv6 else .error .invalidIpv6
  | _ => none

/-- Reads the host of a scheme of the web or of a file. Escapes are undone, letters become small,
and a name whose last part is a number has to be an address.

International names are left out: a name with a letter beyond ASCII is refused, where the full rules
(IDNA) would write it with `xn--`, and labels that start with `xn--` are taken as they are, without
a look at what they stand for. -/
def Host.parse (s : List Char) : Except UriError Host :=
  match bracketed? s with
  | some result => result
  | none =>
    match Text.decode? (unescape s) with
    | none => .error .invalidDomain
    | some domain =>
      if domain.any forbiddenInDomain then .error .invalidDomain
      else if domain.isEmpty then .error .emptyHost
      else
        let domain := domain.map Char.toLower
        if endsInNumber domain then (parseIpv4 domain).map .ipv4
        else .ok (.name (String.ofList domain))

/-- Reads the host of any other scheme: its characters are kept. -/
def Host.parseOpaque (s : List Char) : Except UriError Host :=
  match bracketed? s with
  | some result => result
  | none =>
    if s.any forbiddenInHost then .error .invalidDomainCharacter
    else if s.isEmpty then .ok .empty
    else .ok (.name (String.ofList (escapeText controlSet s)))

end Uri

end LineLint
