import LineLint.Text.Utf8

/-!
# Where data is kept

The directory for this program's own files, below the user's data directory.

* `joinPath` — a name below a directory.
* `dataDir`, `logPath` — the directory and the log file in it.
-/

namespace LineLint

/-- The bytes of a text. -/
def textBytes (s : String) : Bytes := Text.encode s.toList

/-- A relative path below a directory. A slash is put between them unless the directory is empty or
ends in one. -/
def joinPath (base : Bytes) (name : Bytes) : Bytes :=
  if base.isEmpty || base.getLast? == some 47 then base ++ name else base ++ 47 :: name

/-- The directory of this program's files: below the data directory of the environment if that is
valid text, else below the home directory, else below the current one. -/
def dataDir (dataHome home : Option Bytes) : Bytes :=
  let usable := dataHome.filter fun bytes => (Text.decode? bytes).isSome
  let base :=
    match usable, home with
    | some dir, _ => dir
    | none, some dir => joinPath dir (textBytes ".local/share")
    | none, none => textBytes "."
  joinPath base (textBytes "lll-lsp")

/-- The log file. -/
def logPath (dataHome home : Option Bytes) : Bytes :=
  joinPath (dataDir dataHome home) (textBytes "lll-lsp.log")

end LineLint
