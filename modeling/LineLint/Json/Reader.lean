import LineLint.Json.Numeral

/-!
# Reading JSON

A reader takes the characters that are left and answers a value with what follows it, or a fault.
Nesting is limited, so the reader of values is defined by recursion on the depth still allowed.

* `literal`, `stringBody` — the leaves.
* `itemsAfter`, `entriesFrom` — the loops inside brackets and braces, over any reader of values.
* `value` — reads one value at a depth.
* `read` — reads a whole text.
-/

namespace LineLint.Json

/-! ## Leaves -/

/-- The blanks of JSON. -/
def isGap (c : Char) : Bool := c == ' ' || c == '\n' || c == '\t' || c == '\r'

/-- The characters left after blanks. -/
def skipGap (s : List Char) : List Char := s.dropWhile isGap

/-- Reads the rest of a literal such as `true` once its first letter is known. -/
def literal {α : Type} (value : α) : List Char → List Char → Except (Located Reason) (Parsed α)
  | [], s => .ok (value, s)
  | _ :: _, [] => failAt .endOfValue []
  | expected :: more, c :: rest =>
    if c = expected then literal value more rest else failOn .expectedIdent (c :: rest)

/-- The value of a hexadecimal digit. -/
def hexValue? (c : Char) : Option Nat :=
  if '0' ≤ c ∧ c ≤ '9' then some (c.toNat - 48)
  else if 'a' ≤ c ∧ c ≤ 'f' then some (c.toNat - 87)
  else if 'A' ≤ c ∧ c ≤ 'F' then some (c.toNat - 55)
  else none

/-- Reads four hexadecimal digits. Four bytes are taken whatever they are, so a fault among them is
placed after all four. -/
def hexEscape (s : List Char) : Except (Located Reason) (Parsed Nat) :=
  match s with
  | a :: b :: c :: d :: rest =>
    match hexValue? a, hexValue? b, hexValue? c, hexValue? d with
    | some a, some b, some c, some d => .ok (((a * 16 + b) * 16 + c) * 16 + d, rest)
    | _, _, _, _ => .error ⟨.invalidEscape, s, 4⟩
  | _ =>
    if Text.byteLength s < 4 then failAt .endOfString [] else .error ⟨.invalidEscape, s, 4⟩

/-- Reads the second half of a surrogate pair, with its `\u`. -/
def lowSurrogate (high : Nat) (s : List Char) : Except (Located Reason) (Parsed Char) :=
  match s with
  | [] => failAt .endOfString []
  | '\\' :: rest =>
    match rest with
    | [] => failAt .endOfString []
    | 'u' :: digits =>
      match hexEscape digits with
      | .error e => .error e
      | .ok (low, rest) =>
        if low < 0xDC00 ∨ 0xDFFF < low then failAt .loneSurrogate rest
        else .ok (Char.ofNat (0x10000 + (high - 0xD800) * 1024 + (low - 0xDC00)), rest)
    | _ => failOn .endOfHexEscape rest
  | _ => failOn .endOfHexEscape s

/-- Reads the digits of a `\u` escape, and the second half of a pair if it needs one. -/
def unicodeEscape (s : List Char) : Except (Located Reason) (Parsed Char) :=
  match hexEscape s with
  | .error e => .error e
  | .ok (code, rest) =>
    if 0xDC00 ≤ code ∧ code ≤ 0xDFFF then failAt .loneSurrogate rest
    else if 0xD800 ≤ code ∧ code ≤ 0xDBFF then lowSurrogate code rest
    else .ok (Char.ofNat code, rest)

/-- Reads an escape after its backslash. -/
def escape (s : List Char) : Except (Located Reason) (Parsed Char) :=
  match s with
  | [] => failAt .endOfString []
  | 'u' :: rest => unicodeEscape rest
  | c :: rest =>
    if c = '"' ∨ c = '\\' ∨ c = '/' then .ok (c, rest)
    else if c = 'b' then .ok ('\x08', rest)
    else if c = 'f' then .ok ('\x0c', rest)
    else if c = 'n' then .ok ('\n', rest)
    else if c = 'r' then .ok ('\r', rest)
    else if c = 't' then .ok ('\t', rest)
    else failOn .invalidEscape s

/-- Reads a string after its opening quote, up to and with the closing one. Every character read
takes at least one character, so the length of the text bounds the loop. -/
def stringBody : Nat → List Char → Except (Located Reason) (Parsed (List Char))
  | _, [] => failAt .endOfString []
  | 0, s => failAt .endOfString s
  | fuel + 1, c :: rest =>
    if c = '"' then .ok ([], rest)
    else if c = '\\' then do
      let (d, rest) ← escape rest
      let (more, rest) ← stringBody fuel rest
      return (d :: more, rest)
    else if c.toNat < 0x20 then failOn .controlCharacter (c :: rest)
    else do
      let (more, rest) ← stringBody fuel rest
      return (c :: more, rest)

/-- Reads a string after its opening quote. -/
def stringRest (s : List Char) : Except (Located Reason) (Parsed String) := do
  let (cs, rest) ← stringBody s.length s
  return (String.ofList cs, rest)

/-! ## Brackets and braces -/

/-- Reads on after an item of an array. -/
def itemsAfter (item : List Char → Except (Located Reason) (Parsed Json)) :
    Nat → List Char → Except (Located Reason) (Parsed (List Json))
  | 0, s => failOn .endOfList s
  | fuel + 1, s =>
    match skipGap s with
    | [] => failOn .endOfList []
    | ']' :: rest => .ok ([], rest)
    | ',' :: rest =>
      match skipGap rest with
      | [] => failOn .endOfValue []
      | ']' :: rest => failOn .trailingComma (']' :: rest)
      | s => do
        let (v, rest) ← item s
        let (more, rest) ← itemsAfter item fuel rest
        return (v :: more, rest)
    | s => failOn .expectedListEnd s

/-- Reads an array after its opening bracket. -/
def items (item : List Char → Except (Located Reason) (Parsed Json)) (s : List Char) :
    Except (Located Reason) (Parsed (List Json)) :=
  match skipGap s with
  | [] => failOn .endOfList []
  | ']' :: rest => .ok ([], rest)
  | s => do
    let (v, rest) ← item s
    let (more, rest) ← itemsAfter item s.length rest
    return (v :: more, rest)

/-- Reads the colon between a key and its value. -/
def colon (s : List Char) : Except (Located Reason) (Parsed Unit) :=
  match skipGap s with
  | [] => failOn .endOfObject []
  | ':' :: rest => .ok ((), rest)
  | s => failOn .expectedColon s

/-- What stands where an entry of an object may start. -/
inductive NextKey where
  | done (rest : List Char)
  | key (rest : List Char)

/-- Finds the next key of an object: `first` tells whether no entry has been read yet. Answers what
follows the opening quote of the key, or what follows the closing brace. -/
def nextKey (first : Bool) (s : List Char) : Except (Located Reason) NextKey :=
  match skipGap s with
  | [] => .error ⟨.endOfObject, [], 1⟩
  | '\x7d' :: rest => .ok (.done rest)
  | c :: rest =>
    if first then
      if c = '"' then .ok (.key rest) else .error ⟨.keyNotString, c :: rest, 1⟩
    else if c = ',' then
      match skipGap rest with
      | [] => .error ⟨.endOfValue, [], 1⟩
      | '"' :: rest => .ok (.key rest)
      | '\x7d' :: rest => .error ⟨.trailingComma, '\x7d' :: rest, 1⟩
      | s => .error ⟨.keyNotString, s, 1⟩
    else .error ⟨.expectedObjectEnd, c :: rest, 1⟩

/-- Reads the entries of an object up to and with its closing brace. -/
def entriesFrom (item : List Char → Except (Located Reason) (Parsed Json)) :
    Nat → Bool → List Char → Except (Located Reason) (Parsed (List (String × Json)))
  | 0, _, s => failOn .endOfObject s
  | fuel + 1, first, s => do
    match ← nextKey first s with
    | .done rest => return ([], rest)
    | .key rest =>
      let (key, rest) ← stringRest rest
      let (_, rest) ← colon rest
      let (v, rest) ← item rest
      let (more, rest) ← entriesFrom item fuel false rest
      return ((key, v) :: more, rest)

/-- Reads an object after its opening brace. -/
def entries (item : List Char → Except (Located Reason) (Parsed Json)) (s : List Char) :
    Except (Located Reason) (Parsed (List (String × Json))) :=
  entriesFrom item (s.length + 1) true s

/-! ## Values -/

/-- Reads a value whose items are read by `nested`, if any nesting is still allowed. -/
def valueWith (nested : Option (List Char → Except (Located Reason) (Parsed Json)))
    (s : List Char) : Except (Located Reason) (Parsed Json) :=
  match skipGap s with
  | [] => failOn .endOfValue []
  | 'n' :: rest => literal .null ['u', 'l', 'l'] rest
  | 't' :: rest => literal (.bool true) ['r', 'u', 'e'] rest
  | 'f' :: rest => literal (.bool false) ['a', 'l', 's', 'e'] rest
  | '-' :: rest => numeral false rest
  | '"' :: rest => do
    let (text, rest) ← stringRest rest
    return (.str text, rest)
  | '[' :: rest =>
    match nested with
    | none => failOn .tooDeep ('[' :: rest)
    | some item => do
      let (found, rest) ← items item rest
      return (.arr found, rest)
  | '\x7b' :: rest =>
    match nested with
    | none => failOn .tooDeep ('\x7b' :: rest)
    | some item => do
      let (found, rest) ← entries item rest
      return (.obj found, rest)
  | c :: rest => if c.isDigit then numeral true (c :: rest) else failOn .expectedValue (c :: rest)

/-- Reads a value that may hold arrays and objects nested so deep. -/
def value : Nat → List Char → Except (Located Reason) (Parsed Json)
  | 0 => valueWith none
  | depth + 1 => valueWith (some (value depth))

/-- How deep arrays and objects may nest. -/
def maxDepth : Nat := 127

/-- Checks that nothing but blanks is left. -/
def atEnd (s : List Char) : Except (Located Reason) Unit :=
  match skipGap s with
  | [] => .ok ()
  | s => .error ⟨.trailingCharacters, s, 1⟩

/-- Reads a text that holds one value. -/
def read (text : List Char) : Except (Located Reason) Json := do
  let (v, rest) ← value maxDepth text
  atEnd rest
  return v

/-- The wording of a fault with its place. -/
def Located.message (text : List Char) (l : Located Reason) : String :=
  l.cause.message ++ (l.position text).suffix

end LineLint.Json
