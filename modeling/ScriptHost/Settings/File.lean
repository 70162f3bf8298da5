import ScriptHost.Settings.Schema
import ScriptHost.Toml.File

/-!
# Settings files

A settings file holds the settings of the host and says whether it runs as a daemon.
-/

namespace ScriptHost.Settings

open Json

/-- What a settings file says. -/
structure FileSettings where
  daemon : Bool
  host : HostSettings
  deriving DecidableEq, Inhabited

/-- What an empty settings file says. -/
def FileSettings.standard : FileSettings := ⟨false, .standard⟩

/-- The record of a settings file. -/
def fileSchema : Schema FileSettings where
  expected := "struct Config"
  lax := true
  fields :=
    [.of "daemon" Document.flag fun b s => { s with daemon := b },
      (hostSchema true).field "runtime" (·.host) fun h s => { s with host := h }]

/-- The names that a settings file may have where none is given, the preferred one first. -/
def fileNames : List String := ["hubscript.toml", ".hubscriptrc.toml"]

/-- Where a settings file is looked for: in a directory, and then in those above it. -/
def searchPaths (directory : String) : List String :=
  let parts := (directory.splitOn "/").filter (!·.isEmpty)
  (List.range (parts.length + 1)).reverse.flatMap fun depth =>
    fileNames.map fun name => "/" ++ "/".intercalate (parts.take depth ++ [name])

/-- Read the text of a settings file. -/
def ofFile (text : String) : Except Refusal FileSettings :=
  match Toml.readFile text with
  | none => .error .malformed
  | some root => fileSchema.readInto .standard (Toml.Item.sectionDocument root)

end ScriptHost.Settings
