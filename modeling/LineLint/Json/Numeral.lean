import LineLint.Json.Basic
import LineLint.Json.Fault

/-!
# Reading numbers

Digits are gathered in a 64-bit significand. A whole number that fits stays whole, except for a
negative zero; anything else becomes a floating point number, computed from the significand and a
power of ten with one rounding for each step.

* `Parts.value` — the floating point number of a significand and a power of ten.
* `numeral` — reads an unsigned numeral whose sign is already known.
-/

namespace LineLint.Json

open Number (Binary64)

/-- The greatest significand. -/
def maxSignificand : Nat := Nat.pow 2 64 - 1

/-- The greatest size of an exponent that is read exactly. -/
def maxExponentDigits : Nat := Nat.pow 2 31 - 1

/-- The greatest power of ten that is used in one step. -/
def maxPower : Nat := 308

/-- The value of a decimal digit. -/
def digitValue (c : Char) : Nat := c.toNat - 48

/-- Divides a magnitude by a power of ten beyond `maxPower` in steps of `10 ^ 308`, each rounded.
The first argument bounds the number of steps; a magnitude that has become zero needs no more. -/
def scaleDown : Nat → Binary64 → Nat → Binary64
  | 0, x, _ => x
  | steps + 1, x, power =>
    let divide (p : Nat) : Binary64 :=
      ((Binary64.ofNat? (Nat.pow 10 p)).bind x.div?).getD (Binary64.zero false)
    if power ≤ maxPower then divide power
    else if x.isZero then x
    else scaleDown steps (divide maxPower) (power - maxPower)

/-- The magnitude of `significand · 10 ^ exponent`, or `none` if it is past the largest value. -/
def magnitude? (significand : Nat) (exponent : Int) : Option Binary64 :=
  match Binary64.ofNat? significand with
  | none => none
  | some x =>
    if 0 ≤ exponent then
      if exponent ≤ maxPower then (Binary64.ofNat? (Nat.pow 10 exponent.toNat)).bind x.mul?
      else if x.isZero then some x
      else none
    else some (scaleDown 4 x (-exponent).toNat)

/-- A floating point number from its parts, with the characters that follow it. -/
def floatFrom (positive : Bool) (significand : Nat) (exponent : Int) (rest : List Char) :
    Except (Located Reason) (Parsed Json) :=
  match magnitude? significand exponent with
  | none => failAt .numberOutOfRange rest
  | some x => .ok (.float (if positive then x else x.neg), rest)

/-- Reads the remaining digits of an exponent and puts the number together. An exponent past 31 bits
makes a number zero or too large. -/
def exponentDigits (positive : Bool) (significand : Nat) (base : Int) (up : Bool) :
    Nat → List Char → Except (Located Reason) (Parsed Json)
  | exponent, [] =>
    floatFrom positive significand (if up then base + exponent else base - exponent) []
  | exponent, c :: rest =>
    if c.isDigit then
      let exponent' := exponent * 10 + digitValue c
      if maxExponentDigits < exponent' then
        if significand ≠ 0 ∧ up then failAt .numberOutOfRange rest
        else .ok (.float (Binary64.zero (!positive)), rest.dropWhile Char.isDigit)
      else exponentDigits positive significand base up exponent' rest
    else
      floatFrom positive significand (if up then base + exponent else base - exponent) (c :: rest)

/-- Reads an exponent after its mark: an optional sign, then at least one digit. -/
def exponentPart (positive : Bool) (significand : Nat) (base : Int) (s : List Char) :
    Except (Located Reason) (Parsed Json) :=
  let (up, s) : Bool × List Char :=
    match s with
    | '+' :: rest => (true, rest)
    | '-' :: rest => (false, rest)
    | _ => (true, s)
  match s with
  | [] => failAt .endOfValue []
  | c :: rest =>
    if c.isDigit then exponentDigits positive significand base up (digitValue c) rest
    else failOn .invalidNumber s

/-- What follows all digits: an exponent, or the end of the number. -/
def afterDigits (positive : Bool) (significand : Nat) (exponent : Int) (s : List Char) :
    Except (Located Reason) (Parsed Json) :=
  match s with
  | 'e' :: rest => exponentPart positive significand exponent rest
  | 'E' :: rest => exponentPart positive significand exponent rest
  | _ => floatFrom positive significand exponent s

/-- Reads the digits after a decimal point. Digits for which the significand has no room are passed
over. -/
def fractionDigits (positive : Bool) (empty : Bool) :
    Nat → Int → List Char → Except (Located Reason) (Parsed Json)
  | significand, exponent, [] =>
    if empty then failOn .endOfValue [] else floatFrom positive significand exponent []
  | significand, exponent, c :: rest =>
    if c.isDigit then
      let significand' := significand * 10 + digitValue c
      if maxSignificand < significand' then
        afterDigits positive significand exponent (rest.dropWhile Char.isDigit)
      else fractionDigits positive false significand' (exponent - 1) rest
    else if empty then failOn .invalidNumber (c :: rest)
    else afterDigits positive significand exponent (c :: rest)

/-- What follows the digits of a whole number too long for the significand: each further digit
raises the power of ten. -/
def longInteger (positive : Bool) (significand : Nat) :
    Int → List Char → Except (Located Reason) (Parsed Json)
  | exponent, [] => floatFrom positive significand exponent []
  | exponent, c :: rest =>
    if c.isDigit then longInteger positive significand (exponent + 1) rest
    else if c = '.' then fractionDigits positive true significand exponent rest
    else afterDigits positive significand exponent (c :: rest)

/-- A whole number that fits the significand. A negative one below `-2 ^ 63`, and a negative zero,
are floating point numbers. -/
def whole (positive : Bool) (significand : Nat) : Json :=
  if positive then .int significand
  else if significand = 0 ∨ Nat.pow 2 63 < significand then
    .float ((Binary64.ofNat? significand).getD (Binary64.zero false)).neg
  else .int (-(significand : Int))

/-- What follows the integer digits when they fit the significand. -/
def afterInteger (positive : Bool) (significand : Nat) (s : List Char) :
    Except (Located Reason) (Parsed Json) :=
  match s with
  | '.' :: rest => fractionDigits positive true significand 0 rest
  | 'e' :: rest => exponentPart positive significand 0 rest
  | 'E' :: rest => exponentPart positive significand 0 rest
  | _ => .ok (whole positive significand, s)

/-- Reads the integer digits after the first one. -/
def integerDigits (positive : Bool) : Nat → List Char → Except (Located Reason) (Parsed Json)
  | significand, [] => afterInteger positive significand []
  | significand, c :: rest =>
    if c.isDigit then
      let significand' := significand * 10 + digitValue c
      if maxSignificand < significand' then longInteger positive significand 0 (c :: rest)
      else integerDigits positive significand' rest
    else afterInteger positive significand (c :: rest)

/-- Reads an unsigned numeral; `positive` tells whether a minus sign stood before it. A zero may not
be followed by another digit. -/
def numeral (positive : Bool) (s : List Char) : Except (Located Reason) (Parsed Json) :=
  match s with
  | [] => failAt .endOfValue []
  | c :: rest =>
    if c = '0' then
      match rest with
      | d :: _ =>
        if d.isDigit then failOn .invalidNumber rest else afterInteger positive 0 rest
      | [] => afterInteger positive 0 rest
    else if c.isDigit then integerDigits positive (digitValue c) rest
    else failOn .invalidNumber s

end LineLint.Json
