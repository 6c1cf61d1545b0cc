import LineLint.Host.Letters

/-!
# Formatted output

What the programs `echo` and `printf` write.

* `unescape` — backslash sequences in an argument.
* `Directive` — a place in a format that takes an argument.
* `formatted` — a format with its arguments.
-/

namespace LineLint.Host.Format

/-! ## Backslash sequences -/

/-- The value of up to so many octal digits. -/
def octal : Nat → Nat → List Char → Nat × List Char
  | 0, n, s => (n, s)
  | _, n, [] => (n, [])
  | left + 1, n, c :: rest =>
    if '0' ≤ c ∧ c ≤ '7' then octal left (n * 8 + (c.toNat - 48)) rest else (n, c :: rest)

/-- The characters that a backslash and a letter stand for. -/
def escapes : List (Char × Char) :=
  [('a', '\x07'), ('b', '\x08'), ('e', '\x1b'), ('f', '\x0c'), ('n', '\n'), ('r', '\r'),
   ('t', '\t'), ('v', '\x0b'), ('\\', '\\')]

/-- The character of a byte value. -/
def byteChar (n : Nat) : Char := Char.ofNat (n % 256)

/-- What stands after a backslash in a format: a character and the rest, if it is a sequence. -/
def escaped? (s : List Char) : Option (Char × List Char) :=
  match s with
  | [] => none
  | c :: rest =>
    if '0' ≤ c ∧ c ≤ '7' then
      let (n, after) := octal 3 0 s
      some (byteChar n, after)
    else (escapes.find? fun e => e.1 == c).map fun e => (e.2, rest)

/-- The backslash sequences of an argument replaced, and whether `\c` has ended all output. A zero
may stand before three octal digits. -/
def unescape : Nat → List Char → List Char × Bool
  | 0, s => (s, false)
  | _, [] => ([], false)
  | fuel + 1, '\\' :: rest =>
    match rest with
    | 'c' :: _ => ([], true)
    | '0' :: digits =>
      let (n, after) := octal 3 0 digits
      let (more, ended) := unescape fuel after
      (byteChar n :: more, ended)
    | _ =>
      match escaped? rest with
      | some (c, after) =>
        let (more, ended) := unescape fuel after
        (c :: more, ended)
      | none =>
        let (more, ended) := unescape fuel rest
        ('\\' :: more, ended)
  | fuel + 1, c :: rest =>
    let (more, ended) := unescape fuel rest
    (c :: more, ended)

/-- Words with blanks between them. -/
def spaced (words : List (List Char)) : List Char := (words.intersperse [' ']).flatten

/-- What the shell's `echo` writes: it knows backslash sequences, and `-n` for no line end. -/
def echo (args : List (List Char)) : List Char :=
  let (lineEnd, words) := match args with
    | ['-', 'n'] :: more => (false, more)
    | _ => (true, args)
  let whole := spaced words
  let (text, ended) := unescape (whole.length + 1) whole
  if lineEnd && !ended then text ++ ['\n'] else text

/-! ## Directives -/

/-- A number in a directive: given, or taken from the arguments. -/
inductive Size where
  | given (n : Nat)
  | argument

/-- A place in a format that takes an argument. -/
structure Directive where
  flags : List Char
  width : Option Size
  precision : Option Size
  conversion : Char

/-- A part of a format. -/
inductive Item where
  | text (c : Char)
  | directive (d : Directive)
  /-- Something that looks like a directive and is none. -/
  | invalid (s : List Char)
  /-- A directive that the format ends in the midst of. -/
  | unfinished

/-- Reads a size, if there is one. -/
def size? (s : List Char) : Option Size × List Char :=
  match s with
  | '*' :: rest => (some .argument, rest)
  | c :: _ =>
    if c.isDigit then
      let (n, rest) := takeDigits 10 0 s
      (some (.given n), rest)
    else (none, s)
  | [] => (none, s)

/-- Reads what follows a per cent sign. -/
def directive (s : List Char) : Item × List Char :=
  let isFlag (c : Char) : Bool := ['-', '+', ' ', '#', '0'].contains c
  let flags := s.takeWhile isFlag
  let (width, rest) := size? (s.dropWhile isFlag)
  let (precision, rest) := match rest with
    | '.' :: after =>
      let (p, after) := size? after
      (some (p.getD (.given 0)), after)
    | _ => (none, rest)
  match rest with
  | [] => (.unfinished, [])
  | c :: after =>
    if ['d', 'i', 'o', 'u', 'x', 'X', 'c', 's', 'b'].contains c then
      (.directive ⟨flags, width, precision, c⟩, after)
    else (.invalid ('%' :: s.take (s.length - after.length)), after)

/-- Cuts a format into its parts. -/
def items : Nat → List Char → List Item
  | 0, _ => []
  | _, [] => []
  | fuel + 1, '%' :: '%' :: rest => .text '%' :: items fuel rest
  | fuel + 1, '%' :: rest =>
    let (item, after) := directive rest
    item :: items fuel after
  | fuel + 1, '\\' :: rest =>
    match escaped? rest with
    | some (c, after) => .text c :: items fuel after
    | none => .text '\\' :: items fuel rest
  | fuel + 1, c :: rest => .text c :: items fuel rest

/-! ## Arguments -/

/-- How faults in arguments are put into words. -/
structure Wording where
  notNumber : List Char → List Char
  notWhole : List Char → List Char
  tooLarge : List Char → List Char
  invalid : List Char → List Char
  unfinished : List Char

/-- The integer that an argument stands for, and what is wrong with it. A quote stands before a
character whose code is meant. -/
def integerOf (wording : Wording) (arg : List Char) : Int × Option (List Char) :=
  match arg with
  | [] => (0, none)
  | '\'' :: c :: _ => ((c.toNat : Int), none)
  | '"' :: c :: _ => ((c.toNat : Int), none)
  | _ =>
    let body := arg.dropWhile fun c => c == ' ' || c == '\t' || c == '\n'
    let (negative, digits) := match body with
      | '-' :: rest => (true, rest)
      | '+' :: rest => (false, rest)
      | _ => (false, body)
    match numeral? digits with
    | none => (0, some (wording.notNumber arg))
    | some (n, rest) =>
      let value : Int := if negative then -(n : Int) else n
      if Int.pow 2 63 ≤ value then (Int.pow 2 63 - 1, some (wording.tooLarge arg))
      else if value < -Int.pow 2 63 then (-Int.pow 2 63, some (wording.tooLarge arg))
      else if rest.isEmpty then (value, none)
      else (value, some (wording.notWhole arg))

/-- Fills a text up to a width. -/
def pad (left : Bool) (fill : Char) (width : Nat) (s : List Char) : List Char :=
  let missing := List.replicate (width - s.length) fill
  if left then s ++ missing else missing ++ s

/-- A number as a directive wants it. -/
def number (d : Directive) (width : Nat) (precision : Option Nat) (value : Int) : List Char :=
  let signed := d.conversion == 'd' || d.conversion == 'i'
  let magnitude := if signed then value.natAbs else (value % Int.pow 2 64).toNat
  let base := match d.conversion with
    | 'o' => 8
    | 'x' => 16
    | 'X' => 16
    | _ => 10
  let digits := if magnitude = 0 ∧ precision = some 0 then [] else Nat.toDigits base magnitude
  let digits := if d.conversion == 'X' then digits.map Char.toUpper else digits
  let digits := pad false '0' (precision.getD 0) digits
  let digits := if d.flags.contains '#' && d.conversion == 'o' && digits.head? != some '0'
    then '0' :: digits else digits
  let sign : List Char :=
    if signed then
      if value < 0 then ['-']
      else if d.flags.contains '+' then ['+']
      else if d.flags.contains ' ' then [' '] else []
    else if d.flags.contains '#' && magnitude != 0 then
      if d.conversion == 'x' then ['0', 'x'] else if d.conversion == 'X' then ['0', 'X'] else []
    else []
  if d.flags.contains '-' then pad true ' ' width (sign ++ digits)
  else if d.flags.contains '0' && precision.isNone then
    sign ++ pad false '0' (width - sign.length) digits
  else pad false ' ' width (sign ++ digits)

/-- Output under way: what is written, in reverse, the complaints, the arguments left, whether the
last pass took any, and whether output has been ended. -/
structure Progress where
  out : List Char
  complaints : List (List Char)
  args : List (List Char)
  took : Bool
  ended : Bool
  status : Nat

namespace Progress

/-- Writes a text. -/
def write (p : Progress) (s : List Char) : Progress := { p with out := s.reverseAux p.out }

/-- Takes the next argument, the empty one if there is none. -/
def argument (p : Progress) : List Char × Progress :=
  match p.args with
  | [] => ([], p)
  | a :: more => (a, { p with args := more, took := true })

/-- Adds a complaint. -/
def complain (p : Progress) (status : Nat) (text : Option (List Char)) : Progress :=
  match text with
  | some text => { p with complaints := p.complaints ++ [text], status }
  | none => p

/-- The value of a size. -/
def measure (p : Progress) (wording : Wording) : Option Size → Option Int × Progress
  | none => (none, p)
  | some (.given n) => (some n, p)
  | some .argument =>
    let (a, p) := p.argument
    let (n, fault) := integerOf wording a
    (some n, p.complain 1 fault)

/-- Writes a part of a format. -/
def item (wording : Wording) (p : Progress) (i : Item) : Progress :=
  if p.ended then p
  else
    match i with
    | .text c => p.write [c]
    | .invalid s => { p.complain 2 (some (wording.invalid s)) with ended := true }
    | .unfinished => { p.complain 2 (some wording.unfinished) with ended := true }
    | .directive d =>
      let (width, p) := p.measure wording d.width
      let (precision, p) := p.measure wording d.precision
      let d := if width.any (· < 0) then { d with flags := '-' :: d.flags } else d
      let width := (width.map Int.natAbs).getD 0
      let precision := precision.bind fun n => if n < 0 then none else some n.toNat
      let (a, p) := p.argument
      let left := d.flags.contains '-'
      match d.conversion with
      | 's' => p.write (pad left ' ' width (precision.elim a a.take))
      | 'c' => p.write (pad left ' ' width [a.headD '\x00'])
      | 'b' =>
        let (text, ended) := unescape (a.length + 1) a
        { p.write (pad left ' ' width (precision.elim text text.take)) with ended }
      | _ =>
        let (value, fault) := integerOf wording a
        (p.complain 1 fault).write (number d width precision value)

/-- Writes a whole format, again and again while it takes arguments and there are some left. -/
def passes (wording : Wording) (parts : List Item) : Nat → Progress → Progress
  | 0, p => p
  | fuel + 1, p =>
    let p := parts.foldl (item wording) { p with took := false }
    if p.ended || !p.took || p.args.isEmpty then p else passes wording parts fuel p

end Progress

/-- What a format with arguments writes, the complaints, and the status. -/
def formatted (wording : Wording) (format : List Char) (args : List (List Char)) :
    List Char × List (List Char) × Nat :=
  let start : Progress := ⟨[], [], args, false, false, 0⟩
  let p := start.passes wording (items (format.length + 1) format) (args.length + 1)
  (p.out.reverse, p.complaints, p.status)

/-- The words of the shell's own `printf`. -/
def shellWording : Wording where
  notNumber arg := arg ++ ": expected numeric value".toList
  notWhole arg := arg ++ ": not completely converted".toList
  tooLarge arg := arg ++ ": Numerical result out of range".toList
  invalid s := s ++ ": invalid directive".toList
  unfinished := "missing format character".toList

/-- A text in single quotation marks, as programs show it. -/
def inQuotes (s : List Char) : List Char := '\'' :: s ++ ['\'']

/-- The words of the program `printf`. -/
def programWording : Wording where
  notNumber arg := inQuotes arg ++ ": expected a numeric value".toList
  notWhole arg := inQuotes arg ++ ": value not completely converted".toList
  tooLarge arg := inQuotes arg ++ ": Numerical result out of range".toList
  invalid s := s ++ ": invalid conversion specification".toList
  unfinished := "%: invalid conversion specification".toList

end LineLint.Host.Format
