import LineLint.Uri.Percent

/-!
# Paths

The path of a URI with an authority or a leading slash is normalised while it is read: dot segments
are carried out, backslashes count as slashes in the schemes of the web and of files, and in file
URIs a drive letter is kept as the root.

* `Family` — the three kinds of schemes.
* `PathText` — the normal form built so far.
* `readPath` — reads a path up to a query or fragment.
-/

namespace LineLint.Uri

/-- The kinds of schemes: files, the other schemes of the web, and all the rest. -/
inductive Family where
  | file
  | web
  | other
  deriving DecidableEq, Repr

/-- Whether a backslash counts as a slash. -/
def Family.isSpecial : Family → Bool
  | other => false
  | _ => true

/-- Whether a text starts with a drive letter that is a whole segment. -/
def startsWithDrive (s : List Char) : Bool :=
  match s with
  | a :: b :: rest =>
    a.isAlpha && (b == ':' || b == '|') &&
      (match rest with
        | [] => true
        | c :: _ => c == '/' || c == '\\' || c == '?' || c == '#')
  | _ => false

/-- Whether a text is a drive letter. -/
def isDrive (s : List Char) : Bool := s.length == 2 && startsWithDrive s

/-- Whether a text is a drive letter in its normal form. -/
def isNormalDrive (s : List Char) : Bool := isDrive s && s.getLast? == some ':'

/-- Whether a segment stands for the directory itself. -/
def isSingleDot (s : List Char) : Bool :=
  [".", "%2e", "%2E"].contains (String.ofList s)

/-- Whether a segment stands for the directory above. -/
def isDoubleDot (s : List Char) : Bool :=
  ["..", "%2e%2e", "%2e%2E", "%2E%2e", "%2E%2E", "%2e.", "%2E.", ".%2e", ".%2E"].contains
    (String.ofList s)

/-- The text up to and with its last slash. -/
def throughLastSlash (s : List Char) : List Char :=
  (s.reverse.dropWhile (· != '/')).reverse

/-- The text after its last slash. -/
def afterLastSlash (s : List Char) : List Char :=
  (s.reverse.takeWhile (· != '/')).reverse

/-- Whether the slash at the end of a path can go when the segment before it is dropped: it is not
the root's, nor that after a drive letter. -/
def lastSlashRemovable (path : List Char) : Bool :=
  let before := path.dropLast
  before.contains '/' && !startsWithDrive (afterLastSlash before ++ ['/'])

/-- Drops the last segment of a path, but never a drive letter of a file. -/
def dropSegment (family : Family) (path : List Char) : List Char :=
  if path.isEmpty then path
  else if family = .file ∧ isNormalDrive (afterLastSlash path) then path
  else throughLastSlash path

/-- Adds a slash unless there is one at the end. -/
def withSlash (path : List Char) : List Char :=
  if path.getLast? = some '/' then path else path ++ ['/']

/-- Goes up one directory from a path that ends in a slash. -/
def goUp (family : Family) (path : List Char) (slash : Bool) : List Char :=
  let base :=
    if path.getLast? = some '/' ∧ lastSlashRemovable path then path.dropLast else path
  let shorter := dropSegment family base
  if slash then withSlash shorter else shorter

/-- A path being read, and whether a host stands before it that a drive letter would drop. -/
structure PathText where
  path : List Char
  hasHost : Bool

/-- Adds a segment that has been read, followed by a slash or not. -/
def PathText.add (p : PathText) (family : Family) (segment : List Char) (slash : Bool) : PathText :=
  let slashText : List Char := if slash then ['/'] else []
  if isDoubleDot segment then { p with path := goUp family p.path slash }
  else if isSingleDot segment then { p with path := withSlash p.path }
  else if family = .file ∧ p.path.length = 1 ∧ isDrive segment then
    ⟨p.path ++ [segment.headD 'a', ':'] ++ slashText, false⟩
  else { p with path := p.path ++ segment ++ slashText }

/-- Whether a character ends a segment. -/
def endsSegment (family : Family) (c : Char) : Bool :=
  c == '/' || (c == '\\' && family.isSpecial)

/-- Reads segments up to a query, a fragment or the end, given what has been read of the current
one. -/
def readSegments (family : Family) :
    PathText → List Char → List Char → PathText × List Char
  | p, segment, [] => (p.add family segment false, [])
  | p, segment, c :: rest =>
    if endsSegment family c then readSegments family (p.add family segment true) [] rest
    else if c = '?' ∨ c = '#' then (p.add family segment false, c :: rest)
    else readSegments family p (segment ++ escapeChar pathSet c) rest

/-- Reads a path after what stands before it. The slashes at the front of a file's path become
one. -/
def readPath (family : Family) (start : PathText) (s : List Char) : PathText × List Char :=
  let (p, rest) := readSegments family start [] s
  if family = .file then ({ p with path := '/' :: p.path.dropWhile (· == '/') }, rest)
  else (p, rest)

end LineLint.Uri
