import LineLint.Number.Shortest

/-!
# JSON values

A value keeps the entries of an object as they were written, in order and with repetitions. Looking
a key up takes its last entry, and the canonical form sorts the keys and keeps the last entry of
each.

* `Json` — values; a number is whole or binary floating point.
* `Json.get?` — the last entry of an object with a key.
* `Json.canonical` — keys ascending by code point, one entry a key, at every depth.
-/

namespace LineLint

open Number (Binary64)

/-- A JSON value. Whole numbers lie between `-2 ^ 63` and `2 ^ 64 - 1`; any other number is a
floating point one. -/
inductive Json where
  | null
  | bool (b : Bool)
  | int (n : Int)
  | float (x : Binary64)
  | str (s : String)
  | arr (items : List Json)
  | obj (entries : List (String × Json))
  deriving Repr, Inhabited

namespace Json

/-- Whether the value is `null`. -/
def isNull : Json → Bool
  | null => true
  | _ => false

/-- The last value that the entries give to a key. -/
def lookup (key : String) : List (String × Json) → Option Json
  | [] => none
  | (k, v) :: more =>
    match lookup key more with
    | some later => some later
    | none => if k = key then some v else none

/-- The value of a key, if this is an object with such an entry. -/
def get? (key : String) : Json → Option Json
  | obj entries => lookup key entries
  | _ => none

/-- Puts an entry into a list of entries with ascending keys, in place of one with the same key. -/
def insertEntry (key : String) (value : Json) : List (String × Json) → List (String × Json)
  | [] => [(key, value)]
  | (k, v) :: more =>
    if key < k then (key, value) :: (k, v) :: more
    else if key = k then (key, value) :: more
    else (k, v) :: insertEntry key value more

/-- Entries with ascending keys, the last entry of each key. -/
def sortEntries (entries : List (String × Json)) : List (String × Json) :=
  entries.foldl (fun sorted entry => insertEntry entry.1 entry.2 sorted) []

mutual
/-- The value with the entries of every object sorted, the last entry of each key kept. -/
def canonical : Json → Json
  | null => null
  | bool b => bool b
  | int n => int n
  | float x => float x
  | str s => str s
  | arr items => arr (canonicalItems items)
  | obj entries => obj (sortEntries (canonicalEntries entries))

/-- The items of an array in canonical form. -/
def canonicalItems : List Json → List Json
  | [] => []
  | item :: more => canonical item :: canonicalItems more

/-- The entries of an object with their values in canonical form, not yet sorted. -/
def canonicalEntries : List (String × Json) → List (String × Json)
  | [] => []
  | (key, value) :: more => (key, canonical value) :: canonicalEntries more
end

/-- A natural number as a value. -/
def nat (n : Nat) : Json := int n

end Json

end LineLint
