import QueryReport.Settings.Basic
import QueryReport.Storage.Host

/-!
# Looking for settings

The settings file is the one that a variable names, or else the first that there is of one beside
the reports and one in the user's directory for settings.  Without any of them settings have their
defaults.
-/

namespace QueryReport.Settings

open Storage

/-- The variable that names the settings file. -/
def fileVariable : String := "DATAMINER_CONFIG"

/-- The settings file beside the reports. -/
def localFile : String := "dataminer.toml"

/-- The settings file of the user. -/
def userFile? (env : String → Option String) : Option String := do
  let directory ← match env "XDG_CONFIG_HOME" with
    | some directory => if isAbsolute directory then some directory else homeDirectory?
    | none => homeDirectory?
  some (join directory "dataminer/config.toml")
where
  homeDirectory? : Option String :=
    match env "HOME" with
    | some home => if home.isEmpty then none else some (join home ".config")
    | none => none

/-- The first settings that there is a file for. -/
def firstOf {m : Type → Type} [Monad m] (host : Host m) :
    List String → m (Except SettingsError Settings)
  | [] => return .ok {}
  | path :: rest => do
    match readAt path (← host.read path) with
    | .error (.notFound _) => firstOf host rest
    | found => return found

/-- The settings in force. -/
def lookup {m : Type → Type} [Monad m] (host : Host m) : m (Except SettingsError Settings) := do
  let env ← host.values [fileVariable, "XDG_CONFIG_HOME", "HOME"]
  match env fileVariable with
  | some path => return readAt path (← host.read path)
  | none => firstOf host (localFile :: (userFile? env).toList)

end QueryReport.Settings
