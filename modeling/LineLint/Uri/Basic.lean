import LineLint.Uri.Host
import LineLint.Uri.Path

/-!
# URIs

A URI in its normal form, and the local file it names. Two URIs are the same exactly if their normal
forms are.

* `Uri`, `Uri.text` — the parts of a URI and its text.
* `Uri.localPath` — the path on this machine, if it names one.
* `Uri.parse` — reads and normalises a URI.
-/

namespace LineLint

namespace Uri

/-- What stands between the two slashes and the path. -/
structure Authority where
  /-- User name and password as they are written before the at sign, or nothing. -/
  user : String
  host : Host
  port : Option Nat
  deriving DecidableEq, Repr

/-- The text of an authority. -/
def Authority.text (a : Authority) : String :=
  (if a.user = "" then "" else a.user ++ "@") ++ a.host.text ++
    match a.port with
    | some port => ":" ++ toString port
    | none => ""

end Uri

/-- A URI in its normal form. -/
structure Uri where
  scheme : String
  authority : Option Uri.Authority
  path : String
  query : Option String
  fragment : Option String
  deriving DecidableEq, Repr

namespace Uri

/-- A part of a URI with the mark before it, if it is there. -/
def marked (mark : String) : Option String → String
  | none => ""
  | some part => mark ++ part

/-- The text of a URI. A path that starts with two slashes would be read as an authority, so without
one it is written after a dot segment. -/
def text (u : Uri) : String :=
  let before :=
    match u.authority with
    | some a => "//" ++ a.text
    | none => if u.path.toList.take 2 = ['/', '/'] then "/." else ""
  u.scheme ++ ":" ++ before ++ u.path ++ marked "?" u.query ++ marked "#" u.fragment

/-! ## Local files -/

/-- Whether the URI leaves the host open or names this machine. -/
def hostIsLocal (u : Uri) : Bool :=
  match u.authority with
  | none => true
  | some a => a.host == .empty || a.host == .name "localhost"

/-- Whether bytes end in a drive letter. -/
def endsInDrive (path : Bytes) : Bool :=
  match path.reverse with
  | colon :: letter :: _ :: _ =>
    (colon == 58 || colon == 124) && (Char.ofNat letter.toNat).isAlpha && letter < 128
  | _ => false

/-- The path on this machine that a URI names: its path with all escapes undone, if that starts with
a slash and no other machine is named. A drive letter at the end gets a slash. -/
def localPath (u : Uri) : Option Bytes :=
  if u.hostIsLocal ∧ u.path.toList.head? = some '/' then
    let path := unescape u.path.toList
    some (if endsInDrive path then path ++ [47] else path)
  else none

/-! ## Reading -/

/-- Whether a character is dropped at the ends of the text. -/
def isEdge (c : Char) : Bool := c.toNat ≤ 0x20

/-- The text without edges, tabs and line breaks. -/
def cleaned (s : List Char) : List Char :=
  let trimmed := ((s.dropWhile isEdge).reverse.dropWhile isEdge).reverse
  trimmed.filter fun c => c != '\t' && c != '\n' && c != '\r'

/-- Whether a character may stand in a scheme. -/
def inScheme (c : Char) : Bool := c.isAlphanum || c == '+' || c == '-' || c == '.'

/-- The scheme in small letters and what follows its colon. -/
def splitScheme (s : List Char) : Option (String × List Char) :=
  match s with
  | [] => none
  | c :: _ =>
    if c.isAlpha then
      match s.dropWhile inScheme with
      | ':' :: rest => some (String.ofList ((s.takeWhile inScheme).map Char.toLower), rest)
      | _ => none
    else none

/-- The kind of a scheme. -/
def familyOf (scheme : String) : Family :=
  if scheme = "file" then .file
  else if ["http", "https", "ws", "wss", "ftp"].contains scheme then .web
  else .other

/-- The port that goes without saying. -/
def defaultPort (scheme : String) : Option Nat :=
  if scheme = "http" ∨ scheme = "ws" then some 80
  else if scheme = "https" ∨ scheme = "wss" then some 443
  else if scheme = "ftp" then some 21
  else none

/-- Query and fragment of what follows a path. -/
def queryAndFragment (family : Family) (s : List Char) : Option String × Option String :=
  let fragment (s : List Char) : Option String :=
    match s with
    | '#' :: rest => some (String.ofList (escapeText fragmentSet rest))
    | _ => none
  match s with
  | '?' :: rest =>
    let set := if family.isSpecial then specialQuerySet else querySet
    (some (String.ofList (escapeText set (rest.takeWhile (· != '#')))),
      fragment (rest.dropWhile (· != '#')))
  | s => (none, fragment s)

/-- A URI from its parts, with query and fragment still to be read. -/
def assemble (family : Family) (scheme : String) (authority : Option Authority) (path : List Char)
    (rest : List Char) : Uri :=
  let (query, fragment) := queryAndFragment family rest
  ⟨scheme, authority, String.ofList path, query, fragment⟩

/-- Whether a character ends an authority. -/
def endsAuthority (family : Family) (c : Char) : Bool :=
  c == '/' || c == '?' || c == '#' || (c == '\\' && family.isSpecial)

/-- What stands before the last at sign of a text, and what after it. -/
def splitLastAt (s : List Char) : Option (List Char × List Char) :=
  match s.reverse.dropWhile (· != '@') with
  | [] => none
  | _ :: before => some (before.reverse, (s.reverse.takeWhile (· != '@')).reverse)

/-- User name and password as written: a password is kept only if it is not empty. -/
def userText (s : List Char) : List Char :=
  let name := escapeText userSet (s.takeWhile (· != ':'))
  match s.dropWhile (· != ':') with
  | _ :: c :: password => name ++ ':' :: escapeText userSet (c :: password)
  | _ => name

/-- Splits user name and password off an authority. -/
def splitUser (family : Family) (s : List Char) : Except UriError (List Char × List Char) :=
  let authority := s.takeWhile fun c => !endsAuthority family c
  let rest := s.dropWhile fun c => !endsAuthority family c
  match splitLastAt authority with
  | none => .ok ([], s)
  | some ([], []) => if rest.isEmpty then .ok ([], rest) else .error .emptyHost
  | some (user, host) => .ok (userText user, host ++ rest)

/-- Splits a text where its host ends: at a port, a path, a query or a fragment, but not inside
brackets. -/
def splitHost (family : Family) : Bool → List Char → List Char × List Char
  | _, [] => ([], [])
  | inside, c :: rest =>
    if (c = ':' ∧ ¬ inside) ∨ endsAuthority family c then ([], c :: rest)
    else
      let inside := if c = '[' then true else if c = ']' then false else inside
      let (host, rest) := splitHost family inside rest
      (c :: host, rest)

/-- Reads a port after its colon: the number read, whether there was any digit, and what follows. -/
def portDigits : Nat → Bool → List Char → Except UriError (Nat × Bool × List Char)
  | port, any, [] => .ok (port, any, [])
  | port, any, c :: rest =>
    if c.isDigit then
      let port := port * 10 + (c.toNat - 48)
      if 65535 < port then .error .invalidPort else portDigits port true rest
    else if c = '/' ∨ c = '\\' ∨ c = '?' ∨ c = '#' then .ok (port, any, c :: rest)
    else .error .invalidPort

/-- Reads a port if there is one; that of the scheme is left out. -/
def readPort (scheme : String) (s : List Char) : Except UriError (Option Nat × List Char) :=
  match s with
  | ':' :: rest => do
    let (port, any, rest) ← portDigits 0 false rest
    return (if any ∧ defaultPort scheme ≠ some port then some port else none, rest)
  | s => .ok (none, s)

/-- Starts a path after an authority. -/
def pathAfterAuthority (family : Family) (s : List Char) : List Char × List Char :=
  let finish (start : List Char) (s : List Char) : List Char × List Char :=
    let (p, rest) := readPath family ⟨start, true⟩ s
    (p.path, rest)
  if family.isSpecial then
    match s with
    | c :: rest => if c = '/' ∨ c = '\\' then finish ['/'] rest else finish ['/'] s
    | [] => finish ['/'] []
  else
    match s with
    | [] => finish [] []
    | c :: _ =>
      if c = '?' ∨ c = '#' then ([], s)
      else if c = '/' then finish [] s
      else finish ['/'] s

/-- Reads a URI after the two slashes of its authority. -/
def readAuthority (family : Family) (scheme : String) (s : List Char) : Except UriError Uri := do
  let (user, s) ← splitUser family s
  let (hostText, s) := splitHost family false s
  if family = .web ∧ hostText.isEmpty then .error .emptyHost
  let host ← if family.isSpecial then Host.parse hostText else Host.parseOpaque hostText
  if host = .empty ∧ s.head? = some ':' then .error .emptyHost
  let (port, s) ← readPort scheme s
  if host = .empty ∧ ¬ user.isEmpty then .error .emptyHost
  let (path, rest) := pathAfterAuthority family s
  return assemble family scheme (some ⟨String.ofList user, host, port⟩) path rest

/-- Whether a character counts as a slash in a file URI. -/
def isSlash (c : Char) : Bool := c == '/' || c == '\\'

/-- Reads a file URI after its colon. A drive letter where the host would stand belongs to the path,
and a drive letter at the root drops the host. -/
def readFile (s : List Char) : Except UriError Uri :=
  let file (host : Host) (p : PathText) (rest : List Char) : Uri :=
    assemble .file "file" (some ⟨"", if p.hasHost then host else .empty, none⟩) p.path rest
  let noHost (start : List Char) (s : List Char) : Uri :=
    let (p, rest) := readPath .file ⟨start, false⟩ s
    file .empty p rest
  match s with
  | a :: b :: after =>
    if isSlash a && isSlash b then
      let ends (c : Char) : Bool := c == '/' || c == '\\' || c == '?' || c == '#'
      let hostText := after.takeWhile fun c => !ends c
      let rest := after.dropWhile fun c => !ends c
      if isDrive hostText then .ok (noHost ['/'] after)
      else if hostText.isEmpty then .ok (noHost ['/'] rest)
      else do
        let host ← Host.parse hostText
        if host = .name "localhost" then return noHost ['/'] rest
        else
          let (p, rest) := readPath .file ⟨['/'], true⟩
            (match rest with
              | c :: more => if isSlash c then more else rest
              | [] => [])
          return file host p rest
    else if isSlash a then .ok (noHost [] s)
    else .ok (noHost ['/'] s)
  | [a] => if isSlash a then .ok (noHost [] s) else .ok (noHost ['/'] s)
  | [] => .ok (noHost ['/'] [])

/-- Reads a URI of a scheme outside the web after its colon. Without a slash its path is one piece
of text. -/
def readOther (scheme : String) (s : List Char) : Except UriError Uri :=
  match s with
  | '/' :: '/' :: rest => readAuthority .other scheme rest
  | '/' :: rest =>
    let (p, rest) := readPath .other ⟨['/'], false⟩ rest
    .ok (assemble .other scheme none p.path rest)
  | s =>
    let ends (c : Char) : Bool := c == '?' || c == '#'
    .ok (assemble .other scheme none (escapeText controlSet (s.takeWhile fun c => !ends c))
      (s.dropWhile fun c => !ends c))

/-- Reads and normalises a URI. -/
def parse (s : String) : Except UriError Uri :=
  match splitScheme (cleaned s.toList) with
  | none => .error .relative
  | some (scheme, rest) =>
    match familyOf scheme with
    | .file => readFile rest
    | .web => readAuthority .web scheme (rest.dropWhile isSlash)
    | .other => readOther scheme rest

end Uri

end LineLint
