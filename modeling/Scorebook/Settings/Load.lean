import Scorebook.Settings.Document
import Scorebook.Settings.Environment

/-!
# Loading settings

The settings of a file, overridden by the environment. A file that is not there leaves all settings
at their defaults, unless it has to be there.
-/

namespace Scorebook

/-- What is found under the name of a file. -/
inductive FileEntry where
  /-- Nothing. -/
  | absent
  /-- Something that is no readable text. -/
  | unreadable
  /-- A text. -/
  | text (content : String)
  deriving DecidableEq, Repr

/-- Why settings cannot be loaded. -/
inductive SettingsError where
  /-- The file cannot be read. -/
  | unreadable
  /-- The file is malformed or has a setting of the wrong kind. -/
  | malformed
  deriving DecidableEq, Repr

namespace Settings

/-- The settings of a text, overridden by the environment. -/
def ofText (env : Environment) (content : String) : Except SettingsError Settings :=
  match read? content with
  | none => .error .malformed
  | some settings => .ok (settings.overriddenBy env)

/-- The settings of a file that has to be there. -/
def load (env : Environment) : FileEntry → Except SettingsError Settings
  | .text content => ofText env content
  | _ => .error .unreadable

/-- The settings of a file that may be missing. -/
def loadOrDefault (env : Environment) : FileEntry → Except SettingsError Settings
  | .absent => .ok (({} : Settings).overriddenBy env)
  | entry => load env entry

end Settings

end Scorebook
