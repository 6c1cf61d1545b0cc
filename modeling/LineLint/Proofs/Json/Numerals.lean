import LineLint.Json.Reader
import Mathlib.Data.List.TakeWhile

/-!
# Numerals in JSON texts

How a number is written, as a grammar of its own: a sign, integer digits that do not start with a
zero unless they are one, a fraction, an exponent. Each part of the reader is followed along the
part of a literal that it takes, so the reader takes just the literals, and gives what their digits
say.

* `Exponent`, `Literal` — the parts of a literal, which carry that they are well formed.
* `Literal.text` — how a literal is written.
* `gather`, `Literal.significand`, `Literal.power` — the digits for which there is room, and the
  power of ten that is left.
* `Literal.value?` — the number that a literal stands for, if it is in range.
* `Starts`, `Ends` — how what follows a numeral can start.
* `Gives` — a number that is read, or the refusal of one out of range.
* `Numeral` — a whole text that is a literal, and its number.

Results:

* `Literal.gives`: a literal is read as its number, or refused as out of range.
* `exists_literal`: what is read as a number starts with a literal.
* `exists_numeral`, `Numeral.reads`: both for numerals in the middle of a text.
-/

namespace LineLint.Json

open Number (Binary64)

/-! ## Literals -/

/-- Decimal digits. -/
abbrev Digits (ds : List Char) : Prop := ∀ c ∈ ds, c.isDigit = true

/-- An exponent: its mark, a sign if there is one, and digits. -/
structure Exponent where
  mark : Char
  sign : List Char
  digits : List Char
  isMark : mark = 'e' ∨ mark = 'E'
  isSign : sign = [] ∨ sign = ['+'] ∨ sign = ['-']
  isDigits : Digits digits
  ne_nil : digits ≠ []

namespace Exponent

def text (e : Exponent) : List Char := e.mark :: (e.sign ++ e.digits)

/-- Whether the exponent is not negative. -/
def up (e : Exponent) : Bool := e.sign ≠ ['-']

/-- The exponent without its sign. -/
def number (e : Exponent) : ℕ := Nat.ofDigitChars 10 e.digits 0

def value (e : Exponent) : ℤ := if e.up then e.number else -e.number

end Exponent

/-- The parts of a number as it is written. A literal without a fraction has none of its digits. -/
structure Literal where
  negative : Bool
  integer : List Char
  fraction : List Char
  exponent : Option Exponent
  isInteger : Digits integer
  isFraction : Digits fraction
  ne_nil : integer ≠ []
  zero : integer.head? = some '0' → integer = ['0']

/-- A fraction with its point. -/
def fractionText (ds : List Char) : List Char := if ds = [] then [] else '.' :: ds

/-- An exponent, if there is one. -/
def exponentText (e : Option Exponent) : List Char := e.elim [] Exponent.text

/-- Digits are gathered from the left while there is room for them; the others are left over. -/
def gather : ℕ → List Char → ℕ × List Char
  | n, [] => (n, [])
  | n, c :: ds =>
    if maxSignificand < n * 10 + digitValue c then (n, c :: ds)
    else gather (n * 10 + digitValue c) ds

/-- The power of ten after a fraction: one less for each of its digits that has been gathered. -/
def powerAfter (power : ℤ) (n : ℕ) (ds : List Char) : ℤ :=
  power - (ds.length - (gather n ds).2.length)

/-- The magnitude of `significand · 10 ^ base` with an exponent applied to it, if it is in range.
One past 31 bits makes a number zero or too large. -/
def scaled? (significand : ℕ) (base : ℤ) (e : Option Exponent) : Option Binary64 :=
  e.elim (magnitude? significand base) fun e =>
    if maxExponentDigits < e.number then
      if significand ≠ 0 ∧ e.up then none else some (.zero false)
    else magnitude? significand (base + e.value)

/-- A floating point number of a magnitude and a sign. -/
def signed (positive : Bool) (x : Binary64) : Json := .float (if positive then x else x.neg)

namespace Literal

/-- A literal without its sign. -/
def unsigned (l : Literal) : List Char :=
  l.integer ++ (fractionText l.fraction ++ exponentText l.exponent)

def text (l : Literal) : List Char := if l.negative then '-' :: l.unsigned else l.unsigned

/-- The significand and the digits left over once the integer digits have been gathered. -/
def head (l : Literal) : ℕ × List Char := gather 0 l.integer

def significand (l : Literal) : ℕ := (gather l.head.1 l.fraction).1

/-- The power of ten for the significand, before the exponent. -/
def power (l : Literal) : ℤ := powerAfter l.head.2.length l.head.1 l.fraction

/-- A whole number for whose digits there is room. -/
def IsWhole (l : Literal) : Prop := l.fraction = [] ∧ l.exponent = none ∧ l.head.2 = []

instance (l : Literal) : Decidable l.IsWhole :=
  decidable_of_iff (l.fraction = [] ∧ l.exponent.isNone = true ∧ l.head.2 = [])
    (by rw [Option.isNone_iff_eq_none, IsWhole])

/-- The number that a literal stands for, if it is in range. -/
def value? (l : Literal) : Option Json :=
  if l.IsWhole then some (whole (!l.negative) l.significand)
  else (scaled? l.significand l.power l.exponent).map (signed !l.negative)

end Literal

/-! ## What follows a numeral -/

variable {s ds rest sign : List Char} {c : Char} {v : Json} {positive up : Bool}
  {significand n : ℕ} {base exponent : ℤ} {P Q : Char → Prop} {e : Option Exponent}
  {a : Parsed Json}

/-- A text that is empty or starts with a character of some kind. -/
def Starts (P : Char → Prop) (s : List Char) : Prop := ∀ c ∈ s.head?, P c

/-- A character with which a numeral does not go on. -/
structure Cuts (c : Char) : Prop where
  noDigit : c.isDigit = false
  ne_point : c ≠ '.'
  ne_small : c ≠ 'e'
  ne_large : c ≠ 'E'

/-- What can follow any numeral. -/
abbrev Ends : List Char → Prop := Starts Cuts

/-- A character that is not a digit. -/
abbrev NoDigit (c : Char) : Prop := c.isDigit = false

/-- The mark of an exponent. -/
abbrev IsMark (c : Char) : Prop := c = 'e' ∨ c = 'E'

/-- A character with which a number does not go on after such a fraction and such an exponent. -/
structure Stops (fraction : List Char) (e : Option Exponent) (c : Char) : Prop where
  noDigit : NoDigit c
  noMark : e = none → ¬IsMark c
  noPoint : fraction = [] → e = none → c ≠ '.'

@[simp]
theorem starts_nil : Starts P [] := nofun

theorem starts_cons (hc : P c) (s : List Char) : Starts P (c :: s) := by
  intro d hd
  cases hd
  exact hc

theorem Starts.imp (h : Starts P s) (hPQ : ∀ c, P c → Q c) : Starts Q s :=
  fun c hc => hPQ c (h c hc)

theorem noDigit_of_isMark (h : IsMark c) : NoDigit c := by
  rcases h with rfl | rfl <;> decide

/-- What follows integer digits, or a fraction, does not go on with digits. -/
theorem starts_exponentText (e : Option Exponent) (hrest : Starts NoDigit rest) :
    Starts NoDigit (exponentText e ++ rest) := by
  cases e with
  | none => exact hrest
  | some e => exact starts_cons (noDigit_of_isMark e.isMark) _

theorem starts_fractionText (ds : List Char) (hrest : Starts NoDigit rest) :
    Starts NoDigit (fractionText ds ++ rest) := by
  unfold fractionText
  split_ifs
  · exact hrest
  · exact starts_cons (by decide) _

/-- Every text starts with all the digits that it starts with. -/
theorem exists_digits (s : List Char) :
    ∃ ds rest, Digits ds ∧ Starts NoDigit rest ∧ s = ds ++ rest := by
  refine ⟨s.takeWhile Char.isDigit, s.dropWhile Char.isDigit, fun _ => List.mem_takeWhile_imp, ?_,
    List.takeWhile_append_dropWhile.symm⟩
  intro c hc
  have hhead := List.head?_dropWhile_not Char.isDigit s
  rw [Option.mem_def.mp hc] at hhead
  simpa using hhead

theorem dropWhile_digits (hds : Digits ds) (hrest : Starts NoDigit rest) :
    (ds ++ rest).dropWhile Char.isDigit = rest := by
  rw [List.dropWhile_append_of_pos hds]
  cases rest with
  | nil => rfl
  | cons c rest => exact List.dropWhile_cons_of_neg (by simp [hrest c rfl])

/-! ## Digits -/

theorem ofDigitChars_cons (c : Char) (ds : List Char) (n : ℕ) :
    Nat.ofDigitChars 10 (c :: ds) n = Nat.ofDigitChars 10 ds (n * 10 + digitValue c) := by
  rw [Nat.ofDigitChars_cons, Nat.mul_comm]
  rfl

theorem le_ofDigitChars (ds : List Char) (n : ℕ) : n ≤ Nat.ofDigitChars 10 ds n := by
  induction ds generalizing n with
  | nil => exact Nat.le_refl n
  | cons c ds ih =>
    rw [ofDigitChars_cons]
    exact le_trans (by omega) (ih (n * 10 + digitValue c))

theorem digitValue_lt (hc : c.isDigit = true) : digitValue c < 10 := by
  simp only [Char.isDigit, Bool.and_eq_true, decide_eq_true_eq, UInt32.le_iff_toNat_le] at hc
  have hle : c.toNat ≤ 57 := hc.2
  unfold digitValue
  omega

/-! ## Parts of the reader -/

/-- A number that is read, or the refusal of one that is out of range. -/
inductive Gives : Except (Located Reason) (Parsed Json) → Option Json → List Char → Prop
  | read (v : Json) (rest : List Char) : Gives (.ok (v, rest)) (some v) rest
  | outOfRange (s rest : List Char) : Gives (failAt .numberOutOfRange s) none rest

theorem gives_floatFrom (positive : Bool) (significand : ℕ) (exponent : ℤ) (rest : List Char) :
    Gives (floatFrom positive significand exponent rest)
      ((magnitude? significand exponent).map (signed positive)) rest := by
  unfold floatFrom
  cases magnitude? significand exponent with
  | none => exact .outOfRange rest rest
  | some x => exact .read (signed positive x) rest

theorem exponentDigits_stop (hrest : Starts NoDigit rest) :
    exponentDigits positive significand base up n rest =
      floatFrom positive significand (if up then base + n else base - n) rest := by
  cases rest with
  | nil => rfl
  | cons c rest => rw [exponentDigits, if_neg (by simp [hrest c rfl])]

theorem gives_exponentDigits (positive : Bool) (significand : ℕ) (base : ℤ) (up : Bool)
    (hds : Digits ds) (hn : n ≤ maxExponentDigits) (hrest : Starts NoDigit rest) :
    Gives (exponentDigits positive significand base up n (ds ++ rest))
      ((if maxExponentDigits < Nat.ofDigitChars 10 ds n then
          if significand ≠ 0 ∧ up then none else some (.zero false)
        else magnitude? significand (if up then base + (Nat.ofDigitChars 10 ds n : ℕ)
          else base - (Nat.ofDigitChars 10 ds n : ℕ))).map (signed positive)) rest := by
  induction ds generalizing n with
  | nil =>
    rw [Nat.ofDigitChars_nil, if_neg (Nat.not_lt.mpr hn), List.nil_append,
      exponentDigits_stop hrest]
    exact gives_floatFrom _ _ _ _
  | cons c ds ih =>
    have hc := hds c List.mem_cons_self
    have hds := fun d hd => hds d (List.mem_cons_of_mem c hd)
    rw [List.cons_append, exponentDigits, if_pos hc, ofDigitChars_cons]
    by_cases hlarge : maxExponentDigits < n * 10 + digitValue c
    · simp only [if_pos hlarge, if_pos (hlarge.trans_le (le_ofDigitChars ds _))]
      by_cases hup : significand ≠ 0 ∧ up = true
      · rw [if_pos hup, if_pos hup]
        exact .outOfRange _ rest
      · -- an exponent this large makes the number zero, and its other digits do not count
        have hzero : signed positive (.zero false) = .float (.zero !positive) := by
          cases positive <;> rfl
        rw [if_neg hup, if_neg hup, dropWhile_digits hds hrest, ← hzero]
        exact .read _ rest
    · simp only [if_neg hlarge]
      exact ih hds (Nat.le_of_not_lt hlarge)

/-- An exponent is read by its digits once its sign is known. -/
theorem exponentPart_sign (hsign : sign = [] ∨ sign = ['+'] ∨ sign = ['-']) (hc : c.isDigit = true)
    (s : List Char) : exponentPart positive significand base (sign ++ c :: s) =
      exponentDigits positive significand base (sign ≠ ['-']) (digitValue c) s := by
  have hplus : c ≠ '+' := by
    rintro rfl
    exact absurd hc (by decide)
  have hminus : c ≠ '-' := by
    rintro rfl
    exact absurd hc (by decide)
  rcases hsign with rfl | rfl | rfl <;> simp [exponentPart, hc, hplus, hminus]

theorem gives_exponentPart (e : Exponent) (hrest : Starts NoDigit rest) :
    Gives (exponentPart positive significand base (e.sign ++ (e.digits ++ rest)))
      ((scaled? significand base (some e)).map (signed positive)) rest := by
  obtain ⟨c, ds, hdigits⟩ := List.exists_cons_of_ne_nil e.ne_nil
  have hds : Digits (c :: ds) := hdigits ▸ e.isDigits
  have hc := hds c List.mem_cons_self
  have hlt := digitValue_lt hc
  have hn : digitValue c ≤ maxExponentDigits := by
    simp only [maxExponentDigits, Nat.pow_eq]
    omega
  have hnumber : Nat.ofDigitChars 10 ds (digitValue c) = e.number := by
    rw [Exponent.number, hdigits, ofDigitChars_cons, Nat.zero_mul, Nat.zero_add]
  have hvalue : (if e.up then base + (e.number : ℤ) else base - e.number) = base + e.value := by
    unfold Exponent.value
    split_ifs
    · rfl
    · exact Int.sub_eq_add_neg
  have hgives := gives_exponentDigits positive significand base e.up
    (fun d hd => hds d (List.mem_cons_of_mem c hd)) hn hrest
  rw [hnumber, hvalue] at hgives
  rw [hdigits, List.cons_append, exponentPart_sign e.isSign hc]
  exact hgives

theorem afterDigits_mark (hc : IsMark c) (s : List Char) :
    afterDigits positive significand exponent (c :: s) =
      exponentPart positive significand exponent s := by
  rcases hc with rfl | rfl <;> rfl

theorem afterDigits_stop (hrest : Starts (fun c => ¬IsMark c) rest) :
    afterDigits positive significand exponent rest =
      floatFrom positive significand exponent rest := by
  unfold afterDigits
  split
  · exact absurd (.inl rfl) (hrest _ rfl)
  · exact absurd (.inr rfl) (hrest _ rfl)
  · rfl

theorem gives_afterDigits (hrest : Starts NoDigit rest)
    (hmark : e = none → Starts (fun c => ¬IsMark c) rest) :
    Gives (afterDigits positive significand exponent (exponentText e ++ rest))
      ((scaled? significand exponent e).map (signed positive)) rest := by
  cases e with
  | none =>
    change Gives (afterDigits positive significand exponent rest) _ rest
    rw [afterDigits_stop (hmark rfl)]
    exact gives_floatFrom positive significand exponent rest
  | some e =>
    have htext : exponentText (some e) ++ rest = e.mark :: (e.sign ++ (e.digits ++ rest)) := by
      simp [exponentText, Exponent.text]
    rw [htext, afterDigits_mark e.isMark]
    exact gives_exponentPart e hrest

/-- A fraction is gathered while there is room for its digits, and the others are passed over. -/
theorem fractionDigits_digits {empty : Bool} (hds : Digits ds) (hne : empty = true → ds ≠ [])
    (hrest : Starts NoDigit rest) :
    fractionDigits positive empty n exponent (ds ++ rest) =
      afterDigits positive (gather n ds).1 (powerAfter exponent n ds) rest := by
  induction ds generalizing empty n exponent with
  | nil =>
    have hempty : empty = false := by simpa using hne
    have hpower : powerAfter exponent n [] = exponent := by simp [powerAfter, gather]
    rw [hempty, hpower]
    cases rest with
    | nil => rfl
    | cons c rest =>
      rw [List.nil_append, fractionDigits, if_neg (by simp [hrest c rfl])]
      rfl
  | cons c ds ih =>
    have hc := hds c List.mem_cons_self
    have hds := fun d hd => hds d (List.mem_cons_of_mem c hd)
    rw [List.cons_append, fractionDigits, if_pos hc, powerAfter, gather]
    by_cases hfull : maxSignificand < n * 10 + digitValue c
    · simp only [if_pos hfull, dropWhile_digits hds hrest, Int.sub_self, Int.sub_zero]
    · simp only [if_neg hfull]
      rw [ih hds (by simp), powerAfter]
      congr 1
      simp only [List.length_cons]
      omega

theorem longInteger_digits (hds : Digits ds) (rest : List Char) :
    longInteger positive n exponent (ds ++ rest) =
      longInteger positive n (exponent + ds.length) rest := by
  induction ds generalizing exponent with
  | nil => simp
  | cons c ds ih =>
    rw [List.cons_append, longInteger, if_pos (hds c List.mem_cons_self),
      ih fun d hd => hds d (List.mem_cons_of_mem c hd)]
    congr 1
    simp only [List.length_cons]
    omega

theorem longInteger_point (s : List Char) : longInteger positive n exponent ('.' :: s) =
    fractionDigits positive true n exponent s := rfl

theorem longInteger_mark (hc : IsMark c) (s : List Char) :
    longInteger positive n exponent (c :: s) = exponentPart positive n exponent s := by
  rcases hc with rfl | rfl <;> rfl

theorem longInteger_stop (hdigit : Starts NoDigit rest) (hpoint : Starts (· ≠ '.') rest) :
    longInteger positive n exponent rest = afterDigits positive n exponent rest := by
  cases rest with
  | nil => rfl
  | cons c rest =>
    rw [longInteger, if_neg (by simp [hdigit c rfl]), if_neg (hpoint c rfl)]

/-- Whatever follows the integer digits of a number that is not whole. -/
theorem gives_longInteger (positive : Bool) (n : ℕ) (exponent : ℤ) (hds : Digits ds)
    (hrest : Starts (Stops ds e) rest) :
    Gives (longInteger positive n exponent (fractionText ds ++ (exponentText e ++ rest)))
      ((scaled? (gather n ds).1 (powerAfter exponent n ds) e).map (signed positive)) rest := by
  have hdigit : Starts NoDigit rest := hrest.imp fun _ hc => hc.noDigit
  have hmark : e = none → Starts (fun c => ¬IsMark c) rest :=
    fun he => hrest.imp fun _ hc => hc.noMark he
  have hgives : ∀ n exponent, Gives (afterDigits positive n exponent (exponentText e ++ rest))
      ((scaled? n exponent e).map (signed positive)) rest :=
    fun n exponent => gives_afterDigits hdigit hmark
  have hfollow := starts_exponentText e hdigit
  by_cases hempty : ds = []
  · subst hempty
    have hpoint : Starts (· ≠ '.') (exponentText e ++ rest) := by
      cases e with
      | none => exact hrest.imp fun _ hc => hc.noPoint rfl rfl
      | some e =>
        refine starts_cons ?_ _
        rcases e.isMark with heq | heq <;> rw [heq] <;> decide
    have hpower : powerAfter exponent n [] = exponent := by simp [powerAfter, gather]
    rw [hpower]
    exact longInteger_stop hfollow hpoint ▸ hgives n exponent
  · rw [fractionText, if_neg hempty, List.cons_append, longInteger_point,
      fractionDigits_digits hds (fun _ => hempty) hfollow]
    exact hgives _ _

/-- A number that is not whole is read in the same way whether all its integer digits fit or not. -/
theorem afterInteger_eq_longInteger (h : c = '.' ∨ IsMark c) (s : List Char) :
    afterInteger positive n (c :: s) = longInteger positive n 0 (c :: s) := by
  rcases h with rfl | rfl | rfl <;> rfl

theorem afterInteger_stop (hrest : Starts (Stops [] none) rest) :
    afterInteger positive n rest = .ok (whole positive n, rest) := by
  unfold afterInteger
  split
  · exact absurd rfl ((hrest _ rfl).noPoint rfl rfl)
  · exact absurd (.inl rfl) ((hrest _ rfl).noMark rfl)
  · exact absurd (.inr rfl) ((hrest _ rfl).noMark rfl)
  · rfl

theorem integerDigits_digits (hds : Digits ds) (hrest : Starts NoDigit rest) :
    integerDigits positive n (ds ++ rest) =
      if (gather n ds).2 = [] then afterInteger positive (gather n ds).1 rest
      else longInteger positive (gather n ds).1 (gather n ds).2.length rest := by
  induction ds generalizing n with
  | nil =>
    cases rest with
    | nil => rfl
    | cons c rest =>
      rw [List.nil_append, integerDigits, if_neg (by simp [hrest c rfl])]
      rfl
  | cons c ds ih =>
    have hc := hds c List.mem_cons_self
    rw [List.cons_append, integerDigits, if_pos hc, gather]
    by_cases hfull : maxSignificand < n * 10 + digitValue c
    · simp only [if_pos hfull, if_neg (List.cons_ne_nil c ds)]
      rw [← List.cons_append, longInteger_digits hds, Int.zero_add]
    · simp only [if_neg hfull]
      exact ih fun d hd => hds d (List.mem_cons_of_mem c hd)

/-! ## Reading literals -/

/-- The integer digits of a literal. -/
theorem numeral_integer (positive : Bool) (l : Literal) (hrest : Starts NoDigit rest) :
    numeral positive (l.integer ++ rest) =
      if l.head.2 = [] then afterInteger positive l.head.1 rest
      else longInteger positive l.head.1 l.head.2.length rest := by
  obtain ⟨c, ds, hinteger⟩ := List.exists_cons_of_ne_nil l.ne_nil
  have hds : Digits (c :: ds) := hinteger ▸ l.isInteger
  have hc := hds c List.mem_cons_self
  by_cases hzero : c = '0'
  · have hsingle : l.integer = ['0'] := l.zero (by rw [hinteger, hzero]; rfl)
    have hhead : l.head = (0, []) := by rw [Literal.head, hsingle]; rfl
    rw [hsingle, hhead, if_pos rfl]
    cases rest with
    | nil => rfl
    | cons d rest => simp [numeral, hrest d rfl]
  · have hfits : ¬maxSignificand < 0 * 10 + digitValue c := by
      have hlt := digitValue_lt hc
      simp only [maxSignificand, Nat.pow_eq]
      omega
    have hhead : l.head = gather (digitValue c) ds := by
      rw [Literal.head, hinteger, gather, if_neg hfits, Nat.zero_mul, Nat.zero_add]
    have hnumeral : numeral positive (c :: (ds ++ rest)) =
        integerDigits positive (digitValue c) (ds ++ rest) := by
      simp [numeral, hzero, hc]
    rw [hinteger, List.cons_append, hnumeral, hhead]
    exact integerDigits_digits (fun d hd => hds d (List.mem_cons_of_mem c hd)) hrest

/-- A literal is read as its number, or refused as out of range. -/
theorem Literal.gives (l : Literal) (hrest : Starts (Stops l.fraction l.exponent) rest) :
    Gives (numeral (!l.negative) (l.unsigned ++ rest)) l.value? rest := by
  have hdigit : Starts NoDigit rest := hrest.imp fun _ hc => hc.noDigit
  have hfollow := starts_fractionText l.fraction (starts_exponentText l.exponent hdigit)
  have hlong := gives_longInteger (!l.negative) l.head.1 l.head.2.length l.isFraction hrest
  rw [Literal.unsigned, List.append_assoc, List.append_assoc, numeral_integer _ l hfollow,
    Literal.value?]
  by_cases hwhole : l.IsWhole
  · obtain ⟨hfraction, hexponent, hleft⟩ := hwhole
    rw [hfraction, hexponent] at hrest
    have hsignificand : l.significand = l.head.1 := by
      rw [Literal.significand, hfraction]
      rfl
    rw [if_pos hleft, if_pos ⟨hfraction, hexponent, hleft⟩, hsignificand, hfraction, hexponent]
    exact afterInteger_stop hrest ▸ .read _ _
  · rw [if_neg hwhole]
    by_cases hleft : l.head.2 = []
    · -- there is a fraction or an exponent, so what follows starts with a point or a mark
      have hstart : ∃ c s, (c = '.' ∨ IsMark c) ∧
          fractionText l.fraction ++ (exponentText l.exponent ++ rest) = c :: s := by
        by_cases hfraction : l.fraction = []
        · cases hexponent : l.exponent with
          | none => exact absurd ⟨hfraction, hexponent, hleft⟩ hwhole
          | some e =>
            rw [hfraction]
            exact ⟨_, _, .inr e.isMark, rfl⟩
        · rw [fractionText, if_neg hfraction]
          exact ⟨_, _, .inl rfl, rfl⟩
      obtain ⟨c, s, hc, heq⟩ := hstart
      have hpower : (l.head.2.length : ℤ) = 0 := by rw [hleft]; rfl
      rw [if_pos hleft, heq, afterInteger_eq_longInteger hc, ← hpower, ← heq]
      exact hlong
    · rw [if_neg hleft]
      exact hlong

/-! ## Finding literals -/

/-- What is read as an exponent is one, up to where its digits end. -/
theorem exists_exponent (hc : IsMark c)
    (h : exponentPart positive significand base s = .ok a) :
    ∃ e rest, c :: s = exponentText (some e) ++ rest ∧ Starts NoDigit rest := by
  have hfirst : ∃ sign d t, (sign = [] ∨ sign = ['+'] ∨ sign = ['-']) ∧ d.isDigit = true ∧
      s = sign ++ d :: t := by
    unfold exponentPart at h
    split at h
    rename_i up t ht
    split at h
    · cases h
    · rename_i d t
      split_ifs at h with hd
      · split at ht <;> cases ht
        · exact ⟨['+'], d, t, .inr (.inl rfl), hd, rfl⟩
        · exact ⟨['-'], d, t, .inr (.inr rfl), hd, rfl⟩
        · exact ⟨[], d, t, .inl rfl, hd, rfl⟩
      · cases h
  obtain ⟨sign, d, t, hsign, hd, rfl⟩ := hfirst
  obtain ⟨ds, rest, hds, hrest, rfl⟩ := exists_digits t
  refine ⟨⟨c, sign, d :: ds, hc, hsign, List.forall_mem_cons.mpr ⟨hd, hds⟩, List.cons_ne_nil d ds⟩,
    rest, ?_, hrest⟩
  simp [exponentText, Exponent.text]

/-- What can follow the digits of a number: an exponent, or something else. -/
theorem exists_exponentText (positive : Bool) (hs : Starts NoDigit s)
    (hmark : ∀ c t, s = c :: t → IsMark c →
      ∃ n base a, exponentPart positive n base t = .ok a) :
    ∃ e rest, s = exponentText e ++ rest ∧ Starts NoDigit rest ∧
      (e = none → Starts (fun c => ¬IsMark c) rest) := by
  cases s with
  | nil => exact ⟨none, [], rfl, starts_nil, fun _ => starts_nil⟩
  | cons c s =>
    by_cases hc : IsMark c
    · obtain ⟨n, base, a, ha⟩ := hmark c s rfl hc
      obtain ⟨e, rest, heq, hrest⟩ := exists_exponent hc ha
      exact ⟨some e, rest, heq, hrest, nofun⟩
    · exact ⟨none, c :: s, rfl, hs, fun _ => starts_cons hc s⟩

theorem exists_fraction (h : fractionDigits positive true n exponent s = .ok a) :
    ∃ ds rest, Digits ds ∧ ds ≠ [] ∧ Starts NoDigit rest ∧ s = ds ++ rest := by
  obtain ⟨ds, rest, hds, hrest, rfl⟩ := exists_digits s
  refine ⟨ds, rest, hds, ?_, hrest, rfl⟩
  rintro rfl
  cases rest with
  | nil => cases h
  | cons c rest =>
    rw [List.nil_append, fractionDigits, if_neg (by simp [hrest c rfl])] at h
    cases h

/-- What can follow the integer digits of a number: a fraction, an exponent, or something else. -/
theorem exists_parts (hs : Starts NoDigit s)
    (hpoint : ∀ t, s = '.' :: t → ∃ n exponent a,
      fractionDigits positive true n exponent t = .ok a)
    (hmark : ∀ c t, s = c :: t → IsMark c →
      ∃ n base a, exponentPart positive n base t = .ok a) :
    ∃ ds e rest, Digits ds ∧ Starts (Stops ds e) rest ∧
      s = fractionText ds ++ (exponentText e ++ rest) := by
  by_cases hfraction : ∃ t, s = '.' :: t
  · obtain ⟨t, rfl⟩ := hfraction
    obtain ⟨n, exponent, a, ha⟩ := hpoint t rfl
    obtain ⟨ds, u, hds, hne, hu, rfl⟩ := exists_fraction ha
    rw [fractionDigits_digits hds (fun _ => hne) hu] at ha
    obtain ⟨e, rest, rfl, hrest, hnone⟩ := exists_exponentText positive hu
      fun c t hct hc => ⟨_, _, a, by rwa [hct, afterDigits_mark hc] at ha⟩
    refine ⟨ds, e, rest, hds, ?_, by rw [fractionText, if_neg hne]; rfl⟩
    exact fun c hc => ⟨hrest c hc, fun he => hnone he c hc, fun hempty => absurd hempty hne⟩
  · obtain ⟨e, rest, rfl, hrest, hnone⟩ := exists_exponentText positive hs hmark
    refine ⟨[], e, rest, nofun, ?_, rfl⟩
    intro c hc
    refine ⟨hrest c hc, fun he => hnone he c hc, fun _ he hcpoint => ?_⟩
    subst he hcpoint
    cases rest with
    | nil => cases hc
    | cons d rest =>
      cases hc
      exact hfraction ⟨rest, rfl⟩

/-- What is read as a number starts with integer digits. -/
theorem exists_integer (h : numeral positive s = .ok a) :
    ∃ ds rest, Digits ds ∧ ds ≠ [] ∧ (ds.head? = some '0' → ds = ['0']) ∧ Starts NoDigit rest ∧
      s = ds ++ rest := by
  cases s with
  | nil => cases h
  | cons c s =>
    by_cases hzero : c = '0'
    · subst hzero
      refine ⟨['0'], s, List.forall_mem_singleton.mpr rfl, by decide, fun _ => rfl, ?_, rfl⟩
      cases s with
      | nil => exact starts_nil
      | cons d s =>
        refine starts_cons ?_ s
        by_contra hd
        have hdigit : d.isDigit = true := by simpa using hd
        simp only [numeral, if_true, if_pos hdigit] at h
        cases h
    · simp only [numeral, if_neg hzero] at h
      split_ifs at h with hc
      · obtain ⟨ds, rest, hds, hrest, rfl⟩ := exists_digits s
        refine ⟨c :: ds, rest, List.forall_mem_cons.mpr ⟨hc, hds⟩, List.cons_ne_nil c ds, ?_, hrest,
          rfl⟩
        exact fun hhead => absurd (Option.some.inj hhead) hzero
      · cases h

/-- What is read as a number starts with a literal. -/
theorem exists_literal (h : numeral positive s = .ok a) :
    ∃ l : Literal, ∃ rest, l.negative = (!positive) ∧ s = l.unsigned ++ rest ∧
      Starts (Stops l.fraction l.exponent) rest := by
  obtain ⟨integer, t, hinteger, hne, hzero, ht, rfl⟩ := exists_integer h
  -- the integer digits alone are a literal, which tells how the rest is read
  have hrest := numeral_integer positive
    ⟨!positive, integer, [], none, hinteger, nofun, hne, hzero⟩ ht
  have hlong : ∀ c u, (c = '.' ∨ IsMark c) → t = c :: u →
      ∃ n exponent, longInteger positive n exponent (c :: u) = .ok a := by
    rintro c u hc rfl
    rw [h] at hrest
    split_ifs at hrest
    · exact ⟨_, 0, (afterInteger_eq_longInteger hc u).symm.trans hrest.symm⟩
    · exact ⟨_, _, hrest.symm⟩
  have hpoint : ∀ u, t = '.' :: u →
      ∃ n exponent a, fractionDigits positive true n exponent u = .ok a := by
    intro u hu
    obtain ⟨n, exponent, ha⟩ := hlong '.' u (.inl rfl) hu
    exact ⟨n, exponent, a, ha⟩
  have hmark : ∀ c u, t = c :: u → IsMark c →
      ∃ n base a, exponentPart positive n base u = .ok a := by
    intro c u hu hc
    obtain ⟨n, exponent, ha⟩ := hlong c u (.inr hc) hu
    exact ⟨n, exponent, a, (longInteger_mark hc u).symm.trans ha⟩
  obtain ⟨ds, e, rest, hds, hstops, rfl⟩ := exists_parts ht hpoint hmark
  refine ⟨⟨!positive, integer, ds, e, hinteger, hds, hne, hzero⟩, rest, rfl, ?_, hstops⟩
  simp [Literal.unsigned]

/-! ## Numerals -/

/-- A whole text that is a literal, and the number it stands for. -/
inductive Numeral : List Char → Json → Prop
  | of {l : Literal} {v : Json} (h : l.value? = some v) : Numeral l.text v

/-- A number of either kind. -/
inductive IsNumber : Json → Prop
  | int (n : ℤ) : IsNumber (.int n)
  | float (x : Binary64) : IsNumber (.float x)

theorem isNumber_whole (positive : Bool) (n : ℕ) : IsNumber (whole positive n) := by
  unfold whole
  split_ifs <;> constructor

theorem Numeral.isNumber (h : Numeral s v) : IsNumber v := by
  obtain @⟨l, _, hvalue⟩ := h
  unfold Literal.value? at hvalue
  split_ifs at hvalue
  · cases hvalue
    exact isNumber_whole _ _
  · obtain ⟨x, -, rfl⟩ := Option.map_eq_some_iff.mp hvalue
    exact .float _

/-- A numeral with its sign, if it has one. -/
def signText (positive : Bool) (s : List Char) : List Char := if positive then s else '-' :: s

theorem Literal.text_eq_signText (l : Literal) : l.text = signText (!l.negative) l.unsigned := by
  cases hnegative : l.negative <;> simp [Literal.text, signText, hnegative]

/-- What is read as a number from the start of a text is a numeral by itself. -/
theorem exists_numeral (h : numeral positive s = .ok (v, rest)) :
    ∃ t, Numeral (signText positive t) v ∧ s = t ++ rest := by
  obtain ⟨l, rest', hnegative, rfl, hrest⟩ := exists_literal h
  have hgives := l.gives hrest
  have hpositive : (!l.negative) = positive := by rw [hnegative, Bool.not_not]
  rw [hpositive, h] at hgives
  generalize hvalue : l.value? = value at hgives
  cases hgives
  exact ⟨l.unsigned, hpositive ▸ l.text_eq_signText ▸ .of hvalue, rfl⟩

/-- A literal starts with a digit, a sign apart. -/
theorem Literal.unsigned_cons (l : Literal) : ∃ c s, c.isDigit = true ∧ l.unsigned = c :: s := by
  obtain ⟨c, ds, hinteger⟩ := List.exists_cons_of_ne_nil l.ne_nil
  refine ⟨c, ds ++ (fractionText l.fraction ++ exponentText l.exponent), ?_, ?_⟩
  · exact l.isInteger c (hinteger ▸ List.mem_cons_self)
  · rw [Literal.unsigned, hinteger, List.cons_append]

/-- A numeral is a sign, if it has one, and what starts with a digit and is read in full if what
follows does not go on with it. -/
theorem Numeral.reads (h : Numeral s v) : ∃ positive c t, s = signText positive (c :: t) ∧
    c.isDigit = true ∧
      ∀ rest, Ends rest → numeral positive (c :: t ++ rest) = .ok (v, rest) := by
  obtain @⟨l, _, hvalue⟩ := h
  obtain ⟨c, t, hc, heq⟩ := l.unsigned_cons
  refine ⟨!l.negative, c, t, heq ▸ l.text_eq_signText, hc, fun rest hrest => ?_⟩
  have hstops : Starts (Stops l.fraction l.exponent) rest := hrest.imp fun c hc =>
    ⟨hc.noDigit, fun _ hmark => hmark.elim hc.ne_small hc.ne_large, fun _ _ => hc.ne_point⟩
  have hgives := l.gives hstops
  rw [hvalue, heq] at hgives
  generalize numeral (!l.negative) (c :: t ++ rest) = r at hgives
  cases hgives
  rfl

end LineLint.Json
