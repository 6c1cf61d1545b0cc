import LineLint.Settings.Basic

/-!
# Two ways to a section

The editor pushes its whole configuration when it changes (`workspace/didChangeConfiguration`), or
answers a request for the section of one document (`workspace/configuration`).

* `sectionName` — the key of the section.
* `Settings.pushed` — the settings of a pushed configuration.
* `Settings.answered` — the settings of an answer to a request.
-/

namespace LineLint

/-- The key of this server's section in a configuration. -/
def sectionName : String := "lll"

/-- The settings of a pushed configuration: `global_settings`. They are those of its section, or the
defaults if there is none or it is unusable. The error says why a section is unusable. -/
def Settings.pushed (configuration : Json) : Settings × Option SettingsError :=
  match configuration.get? sectionName with
  | none => (Settings.standard, none)
  | some v =>
    match Settings.ofJson v with
    | .ok s => (s, none)
    | .error e => (Settings.standard, some e)

/-- What the editor sends back to a request. -/
abbrev Reply := Except Rpc.Error Json

/-- The settings of an answer to a request for one section: the first item of a list, as `fetch`
takes it. -/
def Settings.answered (reply : Reply) : Except SettingsError Settings :=
  match reply with
  | .error e => .error (.request e)
  | .ok (.arr []) => .error .missing
  | .ok (.arr (item :: _)) => Settings.ofJson item
  | .ok v =>
    .error (.request ⟨-32700, (Json.Mismatch.type v.found "a sequence").message, none⟩)

end LineLint
