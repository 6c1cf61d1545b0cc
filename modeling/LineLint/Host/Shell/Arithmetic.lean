import LineLint.Host.Letters

/-!
# Arithmetic of the shell

Expressions over 64-bit integers with wrap-around, as they stand between double brackets.

* `Expr` — expressions.
* `Fault` — an expression without a value, with its wording.
* `evaluate` — the value of an expression and the variables it sets.
-/

namespace LineLint.Host.Shell.Arithmetic

/-- An operator between two values. -/
inductive Op where
  | times | over | modulo | plus | minus | left | right
  | less | atMost | greater | atLeast | equal | unequal | bitAnd | bitXor | bitOr
  deriving DecidableEq, Repr

/-- An expression. -/
inductive Expr where
  | number (n : Int)
  | variable (name : List Char)
  | negative (e : Expr)
  | complement (e : Expr)
  | not (e : Expr)
  | binary (op : Op) (a b : Expr)
  | and (a b : Expr)
  | or (a b : Expr)
  | choice (condition yes no : Expr)
  | assign (name : List Char) (op : Option Op) (value : Expr)

/-- An expression without a value. -/
inductive Fault where
  | expectingPrimary
  | expectingEnd
  | expectingColon
  | expectingBracket
  | divisionByZero
  /-- A variable holds no number. -/
  | notNumber (value : List Char)
  deriving DecidableEq, Repr

/-- What is wrong with an expression, given its text. -/
def Fault.message (text : List Char) (fault : Fault) : List Char :=
  let expression (what : String) : List Char :=
    "arithmetic expression: ".toList ++ what.toList ++ ": \"".toList ++ text ++ ['"']
  match fault with
  | .expectingPrimary => expression "expecting primary"
  | .expectingEnd => expression "expecting EOF"
  | .expectingColon => expression "expecting ':'"
  | .expectingBracket => expression "expecting ')'"
  | .divisionByZero => expression "division by zero"
  | .notNumber value => "Illegal number: ".toList ++ value

/-! ## Tokens -/

/-- A token. -/
inductive Token where
  | number (n : Int)
  | name (s : List Char)
  | sign (s : String)
  /-- Something that no expression holds. -/
  | other
  deriving DecidableEq, Repr

/-- The signs of expressions, longer ones first. -/
def signs : List String :=
  ["<<=", ">>=", "&&", "||", "<<", ">>", "<=", ">=", "==", "!=", "+=", "-=", "*=", "/=", "%=", "&=",
   "|=", "^=", "+", "-", "*", "/", "%", "<", ">", "=", "!", "~", "&", "|", "^", "?", ":", "(", ")"]

/-- The greatest 64-bit integer. -/
def maxInteger : Nat := Nat.pow 2 63 - 1

/-- Cuts a text into tokens. -/
def tokens : Nat → List Char → List Token
  | 0, _ => []
  | _, [] => []
  | fuel + 1, c :: rest =>
    if c = ' ' ∨ c = '\t' ∨ c = '\n' then tokens fuel rest
    else if c.isAlpha ∨ c = '_' then
      let inside (d : Char) : Bool := d.isAlphanum || d == '_'
      .name ((c :: rest).takeWhile inside) :: tokens fuel ((c :: rest).dropWhile inside)
    else
      match numeral? (c :: rest) with
      | some (n, after) => .number (min n maxInteger : Nat) :: tokens fuel after
      | none =>
        match signs.find? fun s => s.toList.isPrefixOf (c :: rest) with
        | some s => .sign s :: tokens fuel ((c :: rest).drop s.length)
        | none => [.other]

/-! ## Expressions -/

/-- The operators between two values, with their ranks: a higher rank binds more closely. -/
def operators : List (String × Nat × Op) :=
  [("*", 10, .times), ("/", 10, .over), ("%", 10, .modulo), ("+", 9, .plus), ("-", 9, .minus),
   ("<<", 8, .left), (">>", 8, .right), ("<", 7, .less), ("<=", 7, .atMost), (">", 7, .greater),
   (">=", 7, .atLeast), ("==", 6, .equal), ("!=", 6, .unequal), ("&", 5, .bitAnd),
   ("^", 4, .bitXor), ("|", 3, .bitOr)]

/-- The signs that set a variable, with the operator that comes first. -/
def assignments : List (String × Option Op) :=
  [("=", none), ("+=", some .plus), ("-=", some .minus), ("*=", some .times), ("/=", some .over),
   ("%=", some .modulo), ("<<=", some .left), (">>=", some .right), ("&=", some .bitAnd),
   ("|=", some .bitOr), ("^=", some .bitXor)]

/-- An expression and the tokens after it. -/
abbrev Read := Except Fault (Expr × List Token)

mutual
/-- Reads a whole expression: a variable that is set, or a choice. -/
def whole : Nat → List Token → Read
  | 0, _ => .error .expectingPrimary
  | fuel + 1, ts => do
    match ts with
    | .name x :: .sign s :: rest =>
      match assignments.find? fun a => a.1 == s with
      | some (_, op) =>
        let (value, rest) ← whole fuel rest
        return (.assign x op value, rest)
      | none => choice fuel ts
    | _ => choice fuel ts

/-- Reads a choice between two values. -/
def choice : Nat → List Token → Read
  | 0, _ => .error .expectingPrimary
  | fuel + 1, ts => do
    let (condition, rest) ← level fuel 1 ts
    match rest with
    | .sign "?" :: rest =>
      let (yes, rest) ← whole fuel rest
      match rest with
      | .sign ":" :: rest =>
        let (no, rest) ← choice fuel rest
        return (.choice condition yes no, rest)
      | _ => .error .expectingColon
    | _ => return (condition, rest)

/-- Reads an expression whose operators have at least a rank. -/
def level : Nat → Nat → List Token → Read
  | 0, _, _ => .error .expectingPrimary
  | fuel + 1, rank, ts => do
    let (first, rest) ← single fuel ts
    more fuel rank first rest

/-- Reads on after a first value while operators have at least a rank. -/
def more : Nat → Nat → Expr → List Token → Read
  | 0, _, _, _ => .error .expectingPrimary
  | fuel + 1, rank, first, ts => do
    match ts with
    | .sign "&&" :: rest =>
      if 2 < rank then return (first, ts)
      else
        let (second, rest) ← level fuel 3 rest
        more fuel rank (.and first second) rest
    | .sign "||" :: rest =>
      if 1 < rank then return (first, ts)
      else
        let (second, rest) ← level fuel 2 rest
        more fuel rank (.or first second) rest
    | .sign s :: rest =>
      match operators.find? fun o => o.1 == s with
      | some (_, own, op) =>
        if own < rank then return (first, ts)
        else
          let (second, rest) ← level fuel (own + 1) rest
          more fuel rank (.binary op first second) rest
      | none => return (first, ts)
    | _ => return (first, ts)

/-- Reads a value with the signs before it. -/
def single : Nat → List Token → Read
  | 0, _ => .error .expectingPrimary
  | fuel + 1, ts => do
    match ts with
    | .number n :: rest => return (.number n, rest)
    | .name x :: rest => return (.variable x, rest)
    | .sign "+" :: rest => single fuel rest
    | .sign "-" :: rest =>
      let (e, rest) ← single fuel rest
      return (.negative e, rest)
    | .sign "~" :: rest =>
      let (e, rest) ← single fuel rest
      return (.complement e, rest)
    | .sign "!" :: rest =>
      let (e, rest) ← single fuel rest
      return (.not e, rest)
    | .sign "(" :: rest =>
      let (e, rest) ← whole fuel rest
      match rest with
      | .sign ")" :: rest => return (e, rest)
      | _ => .error .expectingBracket
    | _ => .error .expectingPrimary
end

/-- Reads the expression of a text. -/
def read (text : List Char) : Except Fault Expr := do
  let ts := tokens (text.length + 1) text
  match ← whole (8 * ts.length + 16) ts with
  | (e, []) => return e
  | _ => .error .expectingEnd

/-! ## Values -/

/-- The number of a truth value. -/
def ofBool (b : Bool) : Int := if b then 1 else 0

/-- The bits of an integer. -/
def bits (n : Int) : Nat := (n % Int.pow 2 64).toNat

/-- The value of an operator. -/
def apply (op : Op) (a b : Int) : Except Fault Int :=
  match op with
  | .times => .ok (wrap64 (a * b))
  | .over => if b = 0 then .error .divisionByZero else .ok (wrap64 (Int.tdiv a b))
  | .modulo => if b = 0 then .error .divisionByZero else .ok (Int.tmod a b)
  | .plus => .ok (wrap64 (a + b))
  | .minus => .ok (wrap64 (a - b))
  | .left => .ok (wrap64 (a * Int.pow 2 (bits b % 64)))
  | .right => .ok (Int.fdiv a (Int.pow 2 (bits b % 64)))
  | .less => .ok (ofBool (a < b))
  | .atMost => .ok (ofBool (a ≤ b))
  | .greater => .ok (ofBool (b < a))
  | .atLeast => .ok (ofBool (b ≤ a))
  | .equal => .ok (ofBool (a = b))
  | .unequal => .ok (ofBool (a ≠ b))
  | .bitAnd => .ok (wrap64 (bits a &&& bits b : Nat))
  | .bitXor => .ok (wrap64 (bits a ^^^ bits b : Nat))
  | .bitOr => .ok (wrap64 (bits a ||| bits b : Nat))

/-- The values of variables, the latest first. -/
abbrev Values := List (List Char × List Char)

/-- The number that a variable holds; one that is not set holds zero. -/
def numberOf (text : List Char) : Except Fault Int :=
  if text.isEmpty then .ok 0
  else
    match integer? text with
    | some n => .ok (wrap64 n)
    | none =>
      let (negative, digits) := match text with
        | '-' :: rest => (true, rest)
        | _ => (false, text)
      match numeral? digits with
      | some (n, []) => .ok (wrap64 (if negative then -(n : Int) else n))
      | _ => .error (.notNumber text)

/-- The number of a variable. -/
def held (lookup : List Char → List Char) (vs : Values) (x : List Char) : Except Fault Int :=
  match vs.find? fun v => v.1 == x with
  | some v => numberOf v.2
  | none => numberOf (lookup x)

/-- The value of an expression; the variables that it sets come first in the values. -/
def value (lookup : List Char → List Char) : Expr → Values → Except Fault (Int × Values)
  | .number n, vs => .ok (n, vs)
  | .variable x, vs => do return (← held lookup vs x, vs)
  | .negative e, vs => do
    let (n, vs) ← value lookup e vs
    return (wrap64 (-n), vs)
  | .complement e, vs => do
    let (n, vs) ← value lookup e vs
    return (-n - 1, vs)
  | .not e, vs => do
    let (n, vs) ← value lookup e vs
    return (ofBool (n = 0), vs)
  | .binary op a b, vs => do
    let (m, vs) ← value lookup a vs
    let (n, vs) ← value lookup b vs
    return (← apply op m n, vs)
  | .and a b, vs => do
    let (m, vs) ← value lookup a vs
    if m = 0 then return (0, vs)
    else
      let (n, vs) ← value lookup b vs
      return (ofBool (n ≠ 0), vs)
  | .or a b, vs => do
    let (m, vs) ← value lookup a vs
    if m ≠ 0 then return (1, vs)
    else
      let (n, vs) ← value lookup b vs
      return (ofBool (n ≠ 0), vs)
  | .choice c a b, vs => do
    let (k, vs) ← value lookup c vs
    if k ≠ 0 then value lookup a vs else value lookup b vs
  | .assign x op e, vs => do
    let (n, vs) ← value lookup e vs
    let n ← match op with
      | none => pure n
      | some op => do apply op (← held lookup vs x) n
    return (n, (x, decimalInt n) :: vs)

/-- The value of the expression of a text, and the variables it sets, the latest first. -/
def evaluate (lookup : List Char → List Char) (text : List Char) : Except Fault (Int × Values) := do
  value lookup (← read text) []

end LineLint.Host.Shell.Arithmetic
